import Inventory.Proofs.Audience.Alone
import Inventory.Proofs.Delivery
import Inventory.Proofs.Metrics

/-! What the metrics show of the deliveries. Each delivery with an outcome is counted for its group, and after it the
group is moved behind the message. So what was counted for a group that one loop at a time reads for is its position,
except between the two. -/
namespace Inventory
variable {Data State : Type}

def Delivery.outcomes : List String :=
  [Delivery.handled, .skipped, .failed, .undecodable].map label

theorem Delivery.label_mem (outcome : Delivery) : outcome.label ∈ outcomes := by
  cases outcome <;> decide

def Delivery.labelsOf (groups : List String) : List (List String) :=
  groups.flatMap fun group => outcomes.map fun outcome => [group, outcome]

def Stage.isCommitting : Stage → Bool
  | .committing _ => true
  | .checking | .enlisting | .looking | .reading _ | .delivering _ _ | .parked | .ended _ => false

namespace Consumer

/-- How many messages a loop has delivered for a group that it has not been moved behind yet. -/
def ahead (consumer : Consumer Data State) (group : String) : Nat :=
  if consumer.group = group ∧ consumer.stage.isCommitting then 1 else 0

theorem ahead_of_stage {consumer : Consumer Data State} (still : consumer.stage.isCommitting = false) (group : String) :
    consumer.ahead group = 0 :=
  if_neg fun both => Bool.false_ne_true (still.symm.trans both.2)

theorem ahead_of_other {consumer : Consumer Data State} {group : String} (other : consumer.group ≠ group) :
    consumer.ahead group = 0 :=
  if_neg fun both => other both.1

theorem Alike.ahead_eq {first second : Consumer Data State} (alike : first.Alike second) (group : String) :
    second.ahead group = first.ahead group := by
  rw [ahead, ahead, alike.group_eq, alike.stage]

/-- A step that finished a delivery, or none, is counted so. -/
def Counting (group : String) (doing? : Option Doing) (before after : Option Metrics) : Prop :=
  match doing? with
  | some (.finished _ _) => ∃ outcome : Delivery, after = before.map (·.countDelivery group outcome.label)
  | some (.began _ _) | none => after = before

theorem Counting.alike {group : String} {doing? : Option Doing} {before after : Option Metrics}
    (counting : Counting group doing? before after) : Metrics.Alike before after := by
  intro metrics there
  unfold Counting at counting
  split at counting
  · obtain ⟨outcome, counted⟩ := counting
    rw [there] at counted
    refine ⟨_, counted, ?_⟩
    funext meter
    cases meter <;> rfl
  · exact ⟨metrics, counting.trans there, rfl⟩
  · exact ⟨metrics, counting.trans there, rfl⟩

def finishes (consumer : Consumer Data State) (group : String) : Option Doing → Nat
  | some (.finished _ _) => if consumer.group = group then 1 else 0
  | some (.began _ _) | none => 0

theorem Counting.shown {consumer : Consumer Data State} {doing? : Option Doing} {before after : Option Metrics}
    (counting : Counting consumer.group doing? before after) {metrics : Metrics} (there : before = some metrics)
    {delivered : Multiset (List String)} (counts : Counts metrics.deliveries.count delivered) :
    ∃ later more, after = some later ∧ Counts later.deliveries.count (delivered + more) ∧
      (∀ unit ∈ more, ∃ outcome : Delivery, unit = [consumer.group, outcome.label]) ∧
        ∀ group, more.countP (·.head? = some group) = consumer.finishes group doing? := by
  match doing?, counting with
  | some (.finished _ _), ⟨outcome, counted⟩ =>
    rw [there] at counted
    refine ⟨_, {[consumer.group, outcome.label]}, counted, counts.add _ 1, fun unit own => ?_, fun group => ?_⟩
    · exact ⟨outcome, Multiset.mem_singleton.mp own⟩
    · rw [countP_single, List.head?_cons]
      simp only [Option.some.injEq, finishes]
  | some (.began _ _), same | none, same =>
    refine ⟨metrics, 0, same.trans there, (add_zero delivered).symm ▸ counts, fun unit none => ?_, fun group => rfl⟩
    cases Multiset.notMem_zero unit none

end Consumer

/-- A turn that a loop takes, or its owner, or the transport. -/
def Turn.isOfLoops : Turn Data State → Bool
  | .publish _ | .announce _ | .sway _ _ => false
  | .setAvailable _ | .start _ | .step _ | .heed _ | .stop _ | .dismiss _ | .abandon _ => true

namespace Audience

/-- How many messages were delivered for a group that it has not been moved behind yet. -/
def ahead (audience : Audience Data State) (group : String) : Nat :=
  (audience.loops.map (Consumer.ahead · group)).sum

/-- The metrics show as many deliveries for the group as it has messages behind it, and those that it is about to be
moved behind. -/
structure Served (audience : Audience Data State) (group : String) : Prop where
  aligned : audience.Aligned group
  shown : ∃ metrics delivered, audience.side.metrics = some metrics ∧ Counts metrics.deliveries.count delivered ∧
    (∀ unit ∈ delivered, ∃ consumer ∈ audience.loops, ∃ outcome : Delivery, unit = [consumer.group, outcome.label]) ∧
      delivered.countP (·.head? = some group) = audience.offset group + audience.ahead group

end Audience

variable [Payload Data] {registry : EventRegistry Data}

theorem ConsumerStep.counting {side later : ReadSide State} {consumer next : Consumer Data State}
    {doing? : Option Consumer.Doing} (consumerStep : ConsumerStep registry side consumer doing? next later) :
    Consumer.Counting consumer.group doing? side.metrics later.metrics := by
  cases consumerStep with
  | delivered stage called =>
    rw [Handler.deliver_eq, Prod.mk.injEq, Prod.mk.injEq] at called
    obtain ⟨reacted, counted, _⟩ := called
    rw [reacted] at counted
    exact ⟨_, counted.symm⟩
  | crashed stage called =>
    rw [Handler.deliver_eq, Prod.mk.injEq, Prod.mk.injEq] at called
    obtain ⟨reacted, counted, _⟩ := called
    rw [reacted] at counted
    exact counted.symm
  | _ => rfl

/-- What a step finishes for a group is what it gets ahead, until it is moved. -/
theorem ConsumerStep.balanced {side later : ReadSide State} {consumer next : Consumer Data State}
    {doing? : Option Consumer.Doing} (consumerStep : ConsumerStep registry side consumer doing? next later)
    {group : String} (aligned : consumer.group = group → ∀ offset, consumer.stage.offset? = some offset →
      offset = side.bus.offset group) :
    later.bus.offset group + next.ahead group =
      side.bus.offset group + consumer.ahead group + consumer.finishes group doing? := by
  by_cases own : consumer.group = group
  · subst own
    cases consumerStep with
    | delivered stage =>
      rw [consumer.ahead_of_stage (by rw [stage]; rfl), Consumer.ahead, if_pos ⟨rfl, rfl⟩, Consumer.finishes,
        if_pos rfl]
    | @committed offset stage =>
      have here := aligned rfl offset (by rw [stage]; rfl)
      have moved := EventBus.offset_commit side.bus consumer.group consumer.group (offset + 1)
      rw [if_pos rfl] at moved
      dsimp only
      rw [moved, Consumer.ahead_of_stage rfl, Consumer.ahead, if_pos ⟨rfl, by rw [stage]; rfl⟩, here]
      rfl
    | stayed still => rfl
    | stopped stage | passed stage | enlisted stage | looked stage | read stage | parked stage | crashed stage
    | woke stage | heard stage | left stage =>
      rw [consumer.ahead_of_stage (by rw [stage]; rfl), Consumer.ahead_of_stage rfl]
      rfl
  · have finished : consumer.finishes group doing? = 0 := by
      unfold Consumer.finishes
      split
      · exact if_neg own
      · rfl
      · rfl
    rw [consumerStep.offset_eq own, consumer.ahead_of_other own, next.ahead_of_other (consumerStep.group_eq ▸ own),
      finished]

namespace Audience
variable {audience later : Audience Data State} {group : String}

omit [Payload Data] in
theorem served_opening (handlers : State) (group : String) :
    (opening (some .empty) handlers : Audience Data State).Served group where
  aligned := aligned_opening _ handlers group
  shown := ⟨.empty, 0, rfl, fun _ => rfl, fun _ member => absurd member (Multiset.notMem_zero _), rfl⟩

omit [Payload Data] in
theorem Served.elsewhere (served : audience.Served group) (aligned : later.Aligned group)
    (change : Consumer Data State → Consumer Data State)
    (alike : ∀ consumer : Consumer Data State, consumer.Alike (change consumer))
    {joining : List (Consumer Data State)} (checking : ∀ consumer ∈ joining, consumer.stage = .checking)
    (loops : later.loops = audience.loops.map change ++ joining) (offset : later.offset group = audience.offset group)
    (counted : later.side.metrics.map Metrics.deliveries = audience.side.metrics.map Metrics.deliveries) :
    later.Served group := by
  obtain ⟨metrics, delivered, there, counts, known, total⟩ := served.shown
  rw [there] at counted
  obtain ⟨after, thereAfter, same⟩ := Option.map_eq_some_iff.mp counted
  refine ⟨aligned, after, delivered, thereAfter, same ▸ counts, fun unit member => ?_, ?_⟩
  · obtain ⟨consumer, inside, outcome, rfl⟩ := known unit member
    refine ⟨change consumer, ?_, outcome, by rw [(alike consumer).group_eq]⟩
    rw [loops]
    exact List.mem_append_left _ (List.mem_map_of_mem inside)
  · have fresh : (joining.map (Consumer.ahead · group)).sum = 0 := by
      apply List.sum_eq_zero
      intro amount member
      obtain ⟨consumer, inside, rfl⟩ := List.mem_map.mp member
      exact consumer.ahead_of_stage (by rw [checking consumer inside]; rfl) group
    have ahead : later.ahead group = audience.ahead group := by
      rw [Audience.ahead, loops, List.map_append, List.sum_append, fresh, List.map_map]
      exact congrArg List.sum (List.map_congr_left fun consumer _ => (alike consumer).ahead_eq group)
    rw [total, offset, ahead]

theorem Served.advance (served : audience.Served group) {index : Nat} {consumer next : Consumer Data State}
    {doing? : Option Consumer.Doing} {side : ReadSide State} (found : audience.loops[index]? = some consumer)
    (consumerStep : ConsumerStep registry audience.side consumer doing? next side)
    (aligned : (audience.advance index consumer doing? next side).Aligned group) :
    (audience.advance index consumer doing? next side).Served group := by
  obtain ⟨metrics, delivered, there, counts, known, total⟩ := served.shown
  obtain ⟨before, behind, whole, _, set⟩ := exists_around found
  have balanced := consumerStep.balanced fun own => served.aligned consumer (List.mem_of_getElem? found) own
  -- of the sum over all loops only the part of this one changes
  have moved : (audience.advance index consumer doing? next side).ahead group + consumer.ahead group =
      audience.ahead group + next.ahead group :=
    sum_map_set (Consumer.ahead · group) found next
  have remain (unit : List String) (member : unit ∈ delivered) :
      ∃ consumer ∈ audience.loops.set index next, ∃ outcome : Delivery, unit = [consumer.group, outcome.label] := by
    obtain ⟨other, inside, outcome, rfl⟩ := known unit member
    rw [whole, List.mem_append, List.mem_cons] at inside
    rw [set]
    rcases inside with first | rfl | last
    · exact ⟨other, List.mem_append_left _ first, outcome, rfl⟩
    · exact ⟨next, List.mem_append_right _ List.mem_cons_self, outcome, by rw [consumerStep.group_eq]⟩
    · exact ⟨other, List.mem_append_right _ (List.mem_cons_of_mem _ last), outcome, rfl⟩
  obtain ⟨after, more, thereAfter, countsAfter, knownMore, totalMore⟩ := consumerStep.counting.shown there counts
  refine ⟨aligned, after, delivered + more, thereAfter, countsAfter, ?_, ?_⟩
  · intro unit member
    rcases Multiset.mem_add.mp member with old | new
    · exact remain unit old
    · obtain ⟨outcome, rfl⟩ := knownMore unit new
      refine ⟨next, ?_, outcome, by rw [consumerStep.group_eq]⟩
      change next ∈ audience.loops.set index next
      rw [set]
      exact List.mem_append_right _ List.mem_cons_self
  · rw [Multiset.countP_add, totalMore group]
    change _ = side.bus.offset group + _
    change _ = audience.side.bus.offset group + _ at total
    omega

variable {turn : Turn Data State}

omit [Payload Data] in
theorem Served.tell (served : audience.Served group) (crew : Nat) (signal : Signal)
    (aligned : (audience.tell crew signal).Aligned group) : (audience.tell crew signal).Served group := by
  unfold Audience.tell at aligned ⊢
  split at aligned
  · exact served.elsewhere aligned _ (Consumer.alike_told crew signal) (List.forall_mem_nil _)
      (List.append_nil _).symm rfl rfl
  · exact served

theorem Served.step (served : audience.Served group) (solo : audience.Solo group) (own : turn.isOfLoops = true) :
    (audience.step registry turn).Served group := by
  have aligned := served.aligned.readStep solo (audience.readStep_step registry turn)
  have same : audience.loops = audience.loops.map id ++ [] := by rw [List.map_id, List.append_nil]
  cases turn with
  | publish | announce | sway => cases own
  | setAvailable available =>
    exact served.elsewhere aligned id .refl (List.forall_mem_nil _) same rfl rfl
  | start handlers =>
    refine served.elsewhere aligned id .refl (fun consumer member => ?_)
      (congrArg (· ++ _) audience.loops.map_id.symm) rfl rfl
    obtain ⟨handler, _, rfl⟩ := List.mem_map.mp member
    rfl
  | step index =>
    rw [Audience.step] at aligned ⊢
    split at aligned
    · exact served
    next consumer found =>
      exact served.advance found (consumer.consumerStep_step registry audience.side) aligned
  | heed index =>
    rw [Audience.step] at aligned ⊢
    split at aligned
    · exact served
    next consumer found =>
      by_cases stage : consumer.stage = .parked
      · rw [if_pos stage] at aligned ⊢
        exact served.advance found (consumer.consumerStep_heed registry audience.side stage) aligned
      · rw [if_neg stage]
        exact served
  | stop crew => exact served.tell crew .stop aligned
  | dismiss crew =>
    rw [Audience.step] at aligned ⊢
    by_cases ended : audience.hasEnded crew = true
    · rw [if_pos ended] at aligned ⊢
      exact served.elsewhere aligned id .refl (List.forall_mem_nil _) same rfl rfl
    · rw [if_neg ended]
      exact served
  | abandon crew => exact served.tell crew .abandoned aligned

theorem step_of_loops (registry : EventRegistry Data) (audience : Audience Data State) (own : turn.isOfLoops = true) :
    (audience.step registry turn).log = audience.log ∧ ∃ group doing?,
      Consumer.Counting group doing? audience.side.metrics (audience.step registry turn).side.metrics := by
  have still {later : Audience Data State} (side : later.side = audience.side) :
      later.log = audience.log ∧ ∃ group doing?,
        Consumer.Counting group doing? audience.side.metrics later.side.metrics :=
    ⟨congrArg (EventBus.log ∘ ReadSide.bus) side, "", none, congrArg ReadSide.metrics side⟩
  cases turn with
  | publish | announce | sway => cases own
  | setAvailable available => exact ⟨rfl, "", none, rfl⟩
  | start handlers => exact still rfl
  | step index =>
    rw [step]
    split
    · exact still rfl
    next consumer found =>
      have consumerStep := consumer.consumerStep_step registry audience.side
      exact ⟨consumerStep.log_eq, _, _, consumerStep.counting⟩
  | heed index =>
    rw [step]
    split
    · exact still rfl
    · split <;> exact still rfl
  | stop crew => exact still (side_tell audience crew .stop).1
  | dismiss crew =>
    rw [step]
    split <;> exact still rfl
  | abandon crew => exact still (side_tell audience crew .abandoned).1

omit [Payload Data] in
theorem ahead_eq_zero (between : ∀ consumer ∈ audience.loops, consumer.group = group →
    consumer.stage.isCommitting = false) : audience.ahead group = 0 := by
  apply List.sum_eq_zero
  intro amount member
  obtain ⟨consumer, loop, rfl⟩ := List.mem_map.mp member
  by_cases reads : consumer.group = group
  · exact consumer.ahead_of_stage (between consumer loop reads) group
  · exact consumer.ahead_of_other reads

omit [Payload Data] in
theorem Served.sum_deliveries (served : audience.Served group) {groups : List String} (inside : group ∈ groups)
    (all : ∀ consumer ∈ audience.loops, consumer.group ∈ groups) (apart : Samples.Apart (Delivery.labelsOf groups))
    (between : ∀ consumer ∈ audience.loops, consumer.group = group → consumer.stage.isCommitting = false) :
    ∃ metrics, audience.side.metrics = some metrics ∧
      (Delivery.outcomes.map fun outcome => metrics.deliveries.count [group, outcome]).sum =
        .ofNat (audience.offset group) := by
  obtain ⟨metrics, delivered, there, counts, known, total⟩ := served.shown
  have labelled : ∀ unit ∈ delivered, unit ∈ Delivery.labelsOf groups := by
    intro unit member
    obtain ⟨consumer, loop, outcome, rfl⟩ := known unit member
    exact List.mem_flatMap.mpr ⟨consumer.group, all consumer loop, List.mem_map_of_mem outcome.label_mem⟩
  have distinct : (Delivery.outcomes.map fun outcome => [group, outcome]).Nodup := by
    refine List.Nodup.map (fun first second same => ?_) (by decide)
    simpa using same
  have own : delivered.countP (· ∈ Delivery.outcomes.map fun outcome => [group, outcome]) =
      delivered.countP (·.head? = some group) := by
    refine Multiset.countP_congr rfl fun unit member => propext ?_
    obtain ⟨consumer, loop, outcome, rfl⟩ := known unit member
    simp [outcome.label_mem, eq_comm]
  have shown := counts.sum_eq distinct apart (fun unit member => List.mem_flatMap.mpr ⟨group, inside, member⟩) labelled
  rw [own, total, ahead_eq_zero between, List.map_map] at shown
  exact ⟨metrics, there, shown⟩

end Audience

end Inventory
