import Inventory.EventBus.Roster
import Inventory.Proofs.EventBus.Consumer

/-! Loops that take turns. Those in the queue are about to look at the signal or were called while they were parked, and
those beside it are parked and nothing calls them, so that a loop comes to rest within its turn. -/
namespace Inventory
variable {Data State : Type}

namespace Roster

structure Sound (roster : Roster Data State) : Prop where
  queued : ∀ consumer ∈ roster.queue, consumer.stage = .checking ∨ consumer.stage = .parked
  parked : ∀ consumer ∈ roster.parked, consumer.stage = .parked ∧ consumer.isCalled = false

theorem sound_empty : Sound ({} : Roster Data State) where
  queued _ member := nomatch member
  parked _ member := nomatch member

theorem Sound.stage {roster : Roster Data State} (sound : roster.Sound) :
    ∀ consumer ∈ roster.queue ++ roster.parked, consumer.stage = .checking ∨ consumer.stage = .parked := by
  intro consumer member
  rcases List.mem_append.mp member with queued | parked
  · exact sound.queued consumer queued
  · exact .inr (sound.parked consumer parked).1

theorem Sound.start {roster : Roster Data State} (sound : roster.Sound) (handlers : List (Handler Data State)) :
    (roster.start handlers).Sound where
  queued consumer member := by
    rcases List.mem_append.mp member with old | new
    · exact sound.queued consumer old
    · obtain ⟨handler, _, rfl⟩ := List.mem_map.mp new
      exact .inl rfl
  parked := sound.parked

theorem Sound.notify {roster : Roster Data State} (sound : roster.Sound) : roster.notify.Sound where
  queued consumer member := by
    obtain ⟨old, oldMember, rfl⟩ := List.mem_map.mp member
    rcases sound.stage old oldMember with stage | stage <;> simp [Consumer.notify, stage]
  parked _ member := nomatch member

theorem Sound.signal {roster : Roster Data State} (sound : roster.Sound) (signal : Signal)
    (reaches : Consumer Data State → Bool) : (roster.signal signal reaches).Sound where
  queued consumer member := by
    obtain ⟨old, oldMember, rfl⟩ := List.mem_map.mp member
    have stage : old.stage = .checking ∨ old.stage = .parked := by
      rcases List.mem_append.mp oldMember with queued | reached
      · exact sound.queued old queued
      · exact .inr (sound.parked old (List.mem_filter.mp reached).1).1
    split
    · exact stage
    · exact stage
  parked consumer member := sound.parked consumer (List.mem_filter.mp member).1

theorem perm_signal (roster : Roster Data State) (signal : Signal) (reaches : Consumer Data State → Bool) :
    ((roster.signal signal reaches).queue ++ (roster.signal signal reaches).parked).Perm
      ((roster.queue ++ roster.parked).map fun consumer =>
        if reaches consumer then consumer.hear signal else consumer) := by
  let call := fun consumer : Consumer Data State => if reaches consumer then consumer.hear signal else consumer
  have quiet : (roster.parked.filter (!reaches ·)).map call = roster.parked.filter (!reaches ·) := by
    refine (List.map_congr_left fun consumer member => ?_).trans (List.map_id _)
    have unreached := (List.mem_filter.mp member).2
    rw [Bool.not_eq_true'] at unreached
    exact if_neg (by rw [unreached]; exact Bool.false_ne_true)
  change ((roster.queue ++ roster.parked.filter reaches).map call ++ roster.parked.filter (!reaches ·)).Perm _
  rw [← quiet, ← List.map_append, List.append_assoc]
  exact ((List.filter_append_perm reaches roster.parked).append_left roster.queue).map call

/-- Each loop was in the other roster, for the same crew and with the same signal. -/
def StemsFrom (later roster : Roster Data State) : Prop :=
  ∀ consumer ∈ later.queue ++ later.parked,
    ∃ old ∈ roster.queue ++ roster.parked, consumer.crew = old.crew ∧ consumer.signal = old.signal

theorem StemsFrom.refl (roster : Roster Data State) : roster.StemsFrom roster :=
  fun consumer member => ⟨consumer, member, rfl, rfl⟩

theorem StemsFrom.trans {first second third : Roster Data State} (late : third.StemsFrom second)
    (early : second.StemsFrom first) : third.StemsFrom first := by
  intro consumer member
  obtain ⟨middle, inside, crew, signal⟩ := late consumer member
  obtain ⟨old, oldMember, oldCrew, oldSignal⟩ := early middle inside
  exact ⟨old, oldMember, crew.trans oldCrew, signal.trans oldSignal⟩

variable [Payload Data]

theorem takeTurns_cons (registry : EventRegistry Data) (consumer : Consumer Data State)
    (rest parked : List (Consumer Data State)) (side : ReadSide State) :
    takeTurns registry (consumer :: rest) parked side =
      takeTurns registry rest
        (if (consumer.settle registry side).1.isEnded then parked
          else parked ++ [(consumer.settle registry side).1]) (consumer.settle registry side).2 :=
  rfl

theorem parked_takeTurns (registry : EventRegistry Data) (queue parked : List (Consumer Data State))
    (side : ReadSide State) (queued : ∀ consumer ∈ queue, consumer.stage = .checking ∨ consumer.stage = .parked)
    (rest : ∀ consumer ∈ parked, consumer.stage = .parked ∧ consumer.isCalled = false) :
    ∀ consumer ∈ (takeTurns registry queue parked side).1,
      consumer.stage = .parked ∧ consumer.isCalled = false := by
  induction queue generalizing parked side with
  | nil => exact rest
  | cons consumer queue ih =>
    have rests := Consumer.settle_rests registry side (queued consumer List.mem_cons_self)
    rw [takeTurns_cons]
    refine ih _ _ (fun other member => queued other (List.mem_cons_of_mem consumer member)) ?_
    by_cases ended : (consumer.settle registry side).1.isEnded = true
    · rw [if_pos ended]
      exact rest
    · rw [if_neg ended, List.forall_mem_append, List.forall_mem_singleton]
      exact ⟨rest, rests.resolve_left ended⟩

theorem Sound.runFirst {roster : Roster Data State} (sound : roster.Sound) (count : Nat)
    (registry : EventRegistry Data) (side : ReadSide State) : (roster.runFirst count registry side).1.Sound where
  queued consumer member := sound.queued consumer (List.mem_of_mem_drop member)
  parked := parked_takeTurns registry _ _ side
    (fun consumer member => sound.queued consumer (List.mem_of_mem_take member)) sound.parked

theorem mem_takeTurns {registry : EventRegistry Data} {queue parked : List (Consumer Data State)}
    {side : ReadSide State} {consumer : Consumer Data State}
    (member : consumer ∈ (takeTurns registry queue parked side).1) :
    ∃ old ∈ queue ++ parked, consumer.crew = old.crew ∧ consumer.signal = old.signal := by
  induction queue generalizing parked side with
  | nil => exact ⟨consumer, member, rfl, rfl⟩
  | cons first queue ih =>
    rw [takeTurns_cons] at member
    obtain ⟨old, inside, crew, signal⟩ := ih member
    rcases List.mem_append.mp inside with queued | put
    · exact ⟨old, by simp [queued], crew, signal⟩
    · by_cases ended : (first.settle registry side).1.isEnded = true
      · rw [if_pos ended] at put
        exact ⟨old, by simp [put], crew, signal⟩
      · rw [if_neg ended] at put
        rcases List.mem_append.mp put with before | new
        · exact ⟨old, by simp [before], crew, signal⟩
        · rw [List.mem_singleton.mp new] at crew signal
          obtain ⟨sameCrew, sameSignal⟩ := first.settle_same registry side
          exact ⟨first, List.mem_cons_self, crew.trans sameCrew, signal.trans sameSignal⟩

theorem stemsFrom_runFirst (roster : Roster Data State) (count : Nat) (registry : EventRegistry Data)
    (side : ReadSide State) : (roster.runFirst count registry side).1.StemsFrom roster := by
  intro consumer member
  rcases List.mem_append.mp member with waits | had
  · exact ⟨consumer, List.mem_append_left _ (List.mem_of_mem_drop waits), rfl, rfl⟩
  · obtain ⟨old, inside, same⟩ := mem_takeTurns had
    refine ⟨old, ?_, same⟩
    rcases List.mem_append.mp inside with queued | parked
    · exact List.mem_append_left _ (List.mem_of_mem_take queued)
    · exact List.mem_append_right _ parked

omit [Payload Data] in
theorem take?_getD (roster : Roster Data State) (amount : Nat) :
    ∃ allowance, (roster.take? amount).getD roster = { roster with allowance } := by
  unfold take?
  split
  · exact ⟨_, rfl⟩
  · exact ⟨_, rfl⟩

/-- Round after round, until the crew has ended or each loop has had a turn. -/
theorem awaitEnd_rests (registry : EventRegistry Data) (crew rounds : Nat) {roster : Roster Data State}
    (sound : roster.Sound) (side : ReadSide State) (enough : roster.queue.length ≤ rounds) :
    let reached := awaitEnd registry crew rounds (roster, side)
    reached.1.Sound ∧ reached.1.StemsFrom roster ∧ (reached.1.crewSize crew = 0 ∨ reached.1.queue = []) := by
  induction rounds generalizing roster side with
  | zero => exact ⟨sound, .refl roster, .inr (List.eq_nil_of_length_eq_zero (Nat.le_zero.mp enough))⟩
  | succ rounds ih =>
    rw [awaitEnd]
    by_cases ended : roster.crewSize crew = 0
    · rw [if_pos ended]
      exact ⟨sound, .refl roster, .inl ended⟩
    · rw [if_neg ended]
      have given := sound.runFirst turnsPerRound registry side
      have stems := stemsFrom_runFirst roster turnsPerRound registry side
      have shorter : (roster.queue.drop turnsPerRound).length ≤ rounds := by
        rw [List.length_drop, turnsPerRound]
        omega
      obtain ⟨allowance, same⟩ := (roster.giveWay registry side).1.take?_getD
        (roster.crewSize crew - (roster.giveWay registry side).1.crewSize crew)
      dsimp only
      rw [same]
      have next : Sound { (roster.giveWay registry side).1 with allowance } := ⟨given.queued, given.parked⟩
      obtain ⟨soundAfter, stemsAfter, ends⟩ := ih next (roster.giveWay registry side).2 shorter
      exact ⟨soundAfter, stemsAfter.trans stems, ends⟩

end Roster

end Inventory
