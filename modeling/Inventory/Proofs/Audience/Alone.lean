import Inventory.Proofs.Audience.ReadStep
import Inventory.Proofs.Traffic.Tally
import Mathlib.Data.List.Induction

/-! A group that one loop at a time reads for. The position that such a loop looked up still holds when it comes to use
it, since no other that has not ended could have moved the group meanwhile. -/
namespace Inventory
variable {Data State : Type}

/-- The position that a loop has looked up and not yet left behind. -/
def Stage.offset? : Stage → Option Nat
  | .reading offset | .delivering offset _ | .committing offset => some offset
  | .checking | .enlisting | .looking | .parked | .ended _ => none

namespace Consumer

theorem isEnded_of_offset? {consumer : Consumer Data State} {offset : Nat}
    (holds : consumer.stage.offset? = some offset) : consumer.isEnded = false := by
  unfold isEnded
  split
  next ending stage =>
    rw [stage] at holds
    cases holds
  next => rfl

end Consumer

namespace Audience
variable {audience : Audience Data State} {group : String}

/-- The loops of the group that have looked up its position hold the one that it has. -/
def Aligned (audience : Audience Data State) (group : String) : Prop :=
  ∀ consumer ∈ audience.loops, consumer.group = group → ∀ offset, consumer.stage.offset? = some offset →
    offset = audience.offset group

theorem Solo.others {before behind : List (Consumer Data State)} {consumer : Consumer Data State}
    (solo : audience.Solo group) (whole : audience.loops = before ++ consumer :: behind)
    (serves : consumer.Serves group) {other : Consumer Data State} (around : other ∈ before ++ behind) :
    ¬ other.Serves group := by
  rw [Solo, whole, List.pairwise_append, List.pairwise_cons] at solo
  obtain ⟨_, ⟨behindApart, _⟩, beforeApart⟩ := solo
  intro alike
  rcases List.mem_append.mp around with member | member
  · exact beforeApart other member consumer List.mem_cons_self ⟨alike, serves⟩
  · exact behindApart other member ⟨serves, alike⟩

end Audience

variable [Payload Data] {registry : EventRegistry Data}

namespace ConsumerStep
variable {side later : ReadSide State} {consumer next : Consumer Data State} {doing? : Option Consumer.Doing}

theorem aligned (consumerStep : ConsumerStep registry side consumer doing? next later)
    (aligned : ∀ offset, consumer.stage.offset? = some offset → offset = side.bus.offset consumer.group)
    (offset : Nat) (holds : next.stage.offset? = some offset) : offset = later.bus.offset consumer.group := by
  cases consumerStep with
  | looked stage =>
    cases holds
    rfl
  | read stage found =>
    cases holds
    exact aligned offset (by rw [stage]; rfl)
  | delivered stage =>
    cases holds
    exact aligned offset (by rw [stage]; rfl)
  | stayed still => exact aligned offset holds
  | stopped | passed | enlisted | parked | crashed | committed | woke | heard | left => cases holds

end ConsumerStep

namespace Audience
variable {audience later : Audience Data State} {group : String}

theorem Solo.moved {index : Nat} {consumer next other : Consumer Data State} {doing? : Option Consumer.Doing}
    {side : ReadSide State} (solo : audience.Solo group) (found : audience.loops[index]? = some consumer)
    (alive : consumer.isEnded = false) (consumerStep : ConsumerStep registry audience.side consumer doing? next side)
    (member : other ∈ audience.loops.set index next) (serves : other.Serves group) :
    other = next ∧ consumer.group = group ∨ other ∈ audience.loops ∧ consumer.group ≠ group := by
  obtain ⟨before, behind, whole, _, set⟩ := exists_around found
  rw [set, List.perm_middle.mem_iff, List.mem_cons] at member
  rcases member with rfl | around
  · exact .inl ⟨rfl, consumerStep.group_eq.symm.trans serves.1⟩
  · right
    constructor
    · rw [whole, List.perm_middle.mem_iff]
      exact List.mem_cons_of_mem consumer around
    · intro own
      exact solo.others whole ⟨own, alive⟩ around serves

omit [Payload Data] in
theorem aligned_opening (metrics : Option Metrics) (handlers : State) (group : String) :
    (opening metrics handlers : Audience Data State).Aligned group :=
  fun _ member => nomatch member

theorem Aligned.readStep (aligned : audience.Aligned group) (solo : audience.Solo group)
    (readStep : ReadStep registry audience later) : later.Aligned group := by
  intro other member same offset holds
  cases readStep with
  | @moved index consumer next doing? side found alive consumerStep =>
    have serves : other.Serves group := ⟨same, Consumer.isEnded_of_offset? holds⟩
    change offset = side.bus.offset group
    rcases solo.moved found alive consumerStep member serves with ⟨rfl, rfl⟩ | ⟨old, apart⟩
    · exact consumerStep.aligned (aligned consumer (List.mem_of_getElem? found) rfl) offset holds
    · rw [consumerStep.offset_eq apart]
      exact aligned other old same offset holds
  | joined handlers =>
    rcases List.mem_append.mp member with old | new
    · exact aligned other old same offset holds
    · obtain ⟨handler, _, rfl⟩ := List.mem_map.mp new
      cases holds
  | elsewhere change alike loops _ _ _ unmoved =>
    rw [loops] at member
    obtain ⟨old, oldMember, rfl⟩ := List.mem_map.mp member
    rw [(alike old).stage] at holds
    rw [(alike old).group_eq] at same
    rw [unmoved]
    exact aligned old oldMember same offset holds

theorem aligned_run {metrics : Option Metrics} {handlers : State} {turns : List (Turn Data State)}
    (solo : Throughout registry (opening metrics handlers) turns (·.Solo group)) :
    ((opening metrics handlers).run registry turns).Aligned group := by
  induction turns using List.reverseRecOn with
  | nil => exact aligned_opening metrics handlers group
  | append_singleton turns turn ih =>
    rw [run_append]
    exact (ih solo.of_append).readStep solo.of_append.last (readStep_step registry _ turn)

end Audience

namespace Tally

def reader (name : String) (reaction : Reaction) : Handler Mark Nat where
  name
  interest := [markType]
  handle count _ := (count + 1, reaction)

/-- A reader that fails is stopped when it has got the first of two marks, and started again; another one breaks down
beside it. -/
def relay : List (Turn Mark Nat) :=
  [.publish [.of stream ⟨⟩ 0 1, .of stream ⟨⟩ 0 2],
    .start [reader "failing" .failed, reader "crashing" .crashed], .announce 0] ++
    List.replicate 5 (.step 1) ++ List.replicate 4 (.step 0) ++ [.stop 0] ++ List.replicate 3 (.step 0) ++
    [.dismiss 0, .start [reader "failing" .failed]] ++ List.replicate 10 (.step 2)

theorem solo_relay : Audience.Throughout Tally.registry (.opening none 0) relay (·.Solo "failing") := by
  decide +kernel

end Tally

end Inventory
