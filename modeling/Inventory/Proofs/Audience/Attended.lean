import Inventory.Proofs.Audience.ReadStep

/-! What a group has behind it. A loop moves its group to where it has come itself, though others of the group may be
further on by then, or further back. But wherever a loop is, all that lies behind it was delivered to the group, and so
was all that lies behind the group itself, wherever it is moved to. -/
namespace Inventory
variable {Data State : Type}

/-- The position behind all those that the group must have come past for a loop to be at the stage. -/
def Stage.behind : Stage → Nat
  | .reading offset | .delivering offset _ => offset
  | .committing offset => offset + 1
  | .checking | .enlisting | .looking | .parked | .ended _ => 0

namespace Audience

/-- A delivery of the message at the position to the group has come to an outcome. -/
def Attended (audience : Audience Data State) (group : String) (position : Nat) : Prop :=
  ∃ note ∈ audience.journal, note.group = group ∧
    ∃ message, note.doing = .finished position message ∧ audience.log[position]? = some message

structure Covered (audience : Audience Data State) : Prop where
  offsets : ∀ group, ∀ position < audience.offset group, audience.Attended group position
  loops : ∀ consumer ∈ audience.loops, ∀ position < consumer.stage.behind,
    audience.Attended consumer.group position
  held : ∀ consumer ∈ audience.loops, ∀ position message, consumer.stage = .delivering position message →
    audience.log[position]? = some message

theorem Attended.grow {audience later : Audience Data State} {group : String} {position : Nat}
    (attended : audience.Attended group position) (journal : audience.journal <+: later.journal)
    (log : audience.log <+: later.log) : later.Attended group position := by
  obtain ⟨note, noted, same, message, doing, found⟩ := attended
  obtain ⟨more, whole⟩ := log
  refine ⟨note, journal.subset noted, same, message, doing, ?_⟩
  rw [← whole, List.getElem?_append_left (List.getElem?_eq_some_iff.mp found).1]
  exact found

end Audience

variable [Payload Data] {registry : EventRegistry Data}

namespace ConsumerStep
variable {side later : ReadSide State} {consumer next : Consumer Data State} {doing? : Option Consumer.Doing}

theorem lt_behind (consumerStep : ConsumerStep registry side consumer doing? next later) {position : Nat}
    (below : position < next.stage.behind) :
    position < consumer.stage.behind ∨ position < side.bus.offset consumer.group ∨
      ∃ message, consumer.stage = .delivering position message ∧ doing? = some (.finished position message) := by
  cases consumerStep with
  | looked stage => exact .inr (.inl below)
  | read stage found =>
    rw [stage]
    exact .inl below
  | @delivered offset message outcome metrics handlers stage =>
    rcases Nat.lt_succ_iff_lt_or_eq.mp below with before | rfl
    · rw [stage]
      exact .inl before
    · exact .inr (.inr ⟨message, stage, rfl⟩)
  | stayed still => exact .inl below
  | stopped | passed | enlisted | parked | crashed | committed | woke | heard | left =>
    exact absurd below (Nat.not_lt_zero position)

theorem lt_offset (consumerStep : ConsumerStep registry side consumer doing? next later) {group : String}
    {position : Nat} (below : position < later.bus.offset group) :
    position < side.bus.offset group ∨ consumer.group = group ∧ position < consumer.stage.behind := by
  cases consumerStep with
  | committed stage =>
    rw [EventBus.offset_commit] at below
    split at below
    next same =>
      rw [stage]
      exact .inr ⟨same.symm, below⟩
    next => exact .inl below
  | _ => exact .inl below

theorem held (consumerStep : ConsumerStep registry side consumer doing? next later) {position : Nat}
    {message : List UInt8}
    (holds : next.stage = .delivering position message) :
    side.bus.log[position]? = some message ∨ consumer.stage = .delivering position message := by
  cases consumerStep with
  | read stage found =>
    cases holds
    exact .inl found
  | stayed still => exact .inr holds
  | _ => cases holds

end ConsumerStep

namespace ReadStep
variable {audience later : Audience Data State}

theorem grows (readStep : ReadStep registry audience later) :
    audience.journal <+: later.journal ∧ audience.log <+: later.log := by
  cases readStep with
  | moved found alive consumerStep =>
    refine ⟨List.prefix_append .., ?_⟩
    rw [Audience.log, ← consumerStep.log_eq]
    exact List.prefix_rfl
  | joined handlers => exact ⟨List.prefix_rfl, List.prefix_rfl⟩
  | elsewhere change alike loops crews journal log offset => exact ⟨journal ▸ List.prefix_rfl, log⟩

end ReadStep

namespace Audience
variable {audience later : Audience Data State}

omit [Payload Data] in
theorem covered_opening (metrics : Option Metrics) (handlers : State) :
    (opening metrics handlers : Audience Data State).Covered where
  offsets _ _ below := absurd below (Nat.not_lt_zero _)
  loops _ member := nomatch member
  held _ member := nomatch member

theorem Covered.readStep (covered : audience.Covered) (readStep : ReadStep registry audience later) :
    later.Covered := by
  obtain ⟨journal, log⟩ := readStep.grows
  have kept {group : String} {position : Nat} (attended : audience.Attended group position) :
      later.Attended group position := attended.grow journal log
  cases readStep with
  | @moved index consumer next doing? side found alive consumerStep =>
    have inside := List.mem_of_getElem? found
    have sameLog : side.bus.log = audience.log := consumerStep.log_eq
    refine ⟨fun group position below => ?_, fun other member position below => ?_, ?_⟩
    · rcases consumerStep.lt_offset below with before | ⟨rfl, reached⟩
      · exact kept (covered.offsets group position before)
      · exact kept (covered.loops consumer inside position reached)
    · rcases List.mem_or_eq_of_mem_set member with old | rfl
      · exact kept (covered.loops other old position below)
      · rw [consumerStep.group_eq]
        rcases consumerStep.lt_behind below with before | before | ⟨message, stage, doing⟩
        · exact kept (covered.loops consumer inside position before)
        · exact kept (covered.offsets consumer.group position before)
        · refine ⟨consumer.note index (.finished position message), ?_, rfl, message, rfl, ?_⟩
          · simp [advance, doing]
          · change side.bus.log[position]? = some message
            rw [sameLog]
            exact covered.held consumer inside position message stage
    · intro other member position message holds
      change side.bus.log[position]? = some message
      rw [sameLog]
      rcases List.mem_or_eq_of_mem_set member with old | rfl
      · exact covered.held other old position message holds
      · exact (consumerStep.held holds).elim id (covered.held consumer inside position message)
  | joined handlers =>
    refine ⟨fun group position below => kept (covered.offsets group position below), ?_, ?_⟩
    · intro consumer member position below
      rcases List.mem_append.mp member with old | new
      · exact kept (covered.loops consumer old position below)
      · obtain ⟨handler, _, rfl⟩ := List.mem_map.mp new
        exact absurd below (Nat.not_lt_zero position)
    · intro consumer member position message holds
      rcases List.mem_append.mp member with old | new
      · exact covered.held consumer old position message holds
      · obtain ⟨handler, _, rfl⟩ := List.mem_map.mp new
        cases holds
  | elsewhere change alike loops _ _ _ offset =>
    refine ⟨fun group position below => kept (covered.offsets group position (offset group ▸ below)), ?_, ?_⟩
    · intro consumer member position below
      rw [loops] at member
      obtain ⟨old, oldMember, rfl⟩ := List.mem_map.mp member
      rw [(alike old).stage] at below
      rw [(alike old).group_eq]
      exact kept (covered.loops old oldMember position below)
    · intro consumer member position message holds
      rw [loops] at member
      obtain ⟨old, oldMember, rfl⟩ := List.mem_map.mp member
      rw [(alike old).stage] at holds
      obtain ⟨more, whole⟩ := log
      have present := covered.held old oldMember position message holds
      rw [← whole, List.getElem?_append_left (List.getElem?_eq_some_iff.mp present).1]
      exact present

theorem Covered.run (covered : audience.Covered) (turns : List (Turn Data State)) :
    (audience.run registry turns).Covered := by
  induction turns generalizing audience with
  | nil => exact covered
  | cons turn rest ih => exact ih (covered.readStep (audience.readStep_step registry turn))

omit [Payload Data] in
theorem Covered.offset_le (covered : audience.Covered) (group : String) :
    audience.offset group ≤ audience.log.length := by
  by_contra beyond
  obtain ⟨_, _, _, _, _, found⟩ := covered.offsets group audience.log.length (by omega)
  exact absurd (List.getElem?_eq_some_iff.mp found).1 (Nat.lt_irrefl _)

/-- Whoever moves when, and whatever the handlers do: all messages before the position of a group were delivered to it,
each with an outcome, so that no commit passes over a message. -/
theorem attended_run (registry : EventRegistry Data) (metrics : Option Metrics) (handlers : State)
    (turns : List (Turn Data State)) :
    let audience := (opening metrics handlers).run registry turns
    ∀ group, ∀ position < audience.side.bus.offset group, ∃ note ∈ audience.journal, note.group = group ∧
      ∃ message, note.doing = .finished position message ∧ audience.side.bus.log[position]? = some message :=
  ((covered_opening metrics handlers).run turns).offsets

end Audience

end Inventory
