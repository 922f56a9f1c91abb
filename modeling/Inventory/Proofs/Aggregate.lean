import Inventory.Aggregate
import Mathlib.Tactic.Common

/-! Loading an aggregate: the context starts at the last version of the history, and the state is what the
rules make of the fresh one. -/
namespace Inventory
variable {Data State Command : Type}

theorem Rules.replay_append {rules : Rules State Data Command} {state later : State}
    {history : List (Event Data)} (replays : rules.replay state history = .ok later)
    (more : List (Event Data)) : rules.replay state (history ++ more) = rules.replay later more := by
  induction history generalizing state with
  | nil =>
    cases replays
    rfl
  | cons event rest ih =>
    rw [replay] at replays
    rw [List.cons_append, replay]
    split at replays
    next => cases replays
    next next applied => exact ih replays

namespace AggregateRegistry

theorem load_eq_ok {registry : AggregateRegistry State Data} {rules : Rules State Data Command}
    {stream : StreamId} {history : List (Event Data)} {context : Context Data} {state : State} :
    registry.load rules stream history = .ok (context, state) ↔
      context = .start stream (lastVersion history) ∧
        ∃ fresh, registry.fresh context = .ok fresh ∧ rules.replay fresh history = .ok state := by
  simp only [load]
  cases made : registry.fresh (.start stream (lastVersion history)) with
  | error fault =>
    constructor
    · intro loads
      cases loads
    · rintro ⟨rfl, fresh, found, _⟩
      rw [made] at found
      cases found
  | ok fresh =>
    cases replayed : rules.replay fresh history with
    | error fault =>
      constructor
      · intro loads
        simp [replayed] at loads
      · rintro ⟨rfl, other, found, replays⟩
        rw [made] at found
        cases found
        rw [replayed] at replays
        cases replays
    | ok state =>
      constructor
      · intro loads
        simp only [replayed, Except.ok.injEq, Prod.mk.injEq] at loads
        obtain ⟨rfl, rfl⟩ := loads
        exact ⟨rfl, fresh, made, replayed⟩
      · rintro ⟨rfl, other, found, replays⟩
        rw [made] at found
        cases found
        rw [replayed] at replays
        cases replays
        simp [replayed]

theorem load_eq_error {registry : AggregateRegistry State Data} {rules : Rules State Data Command}
    {stream : StreamId} {history : List (Event Data)} {fault : Fault}
    (failed : registry.load rules stream history = .error fault) :
    (∃ aggregateType, fault = .unknownAggregateType aggregateType) ∨
      ∃ state data, (rules.apply state data).2 = some fault := by
  simp only [load] at failed
  split at failed
  next other unmade =>
    cases failed
    unfold fresh at unmade
    split at unmade
    · cases unmade
      exact .inl ⟨_, rfl⟩
    · cases unmade
  next fresh made =>
    split at failed
    next other stuck =>
      cases failed
      clear made
      induction history generalizing fresh with
      | nil => cases stuck
      | cons event rest ih =>
        rw [Rules.replay] at stuck
        split at stuck
        next state raised applied =>
          cases stuck
          exact .inr ⟨fresh, event.data, by rw [applied]⟩
        next state applied => exact ih state stuck
    next => cases failed

theorem load_fault {registry : AggregateRegistry State Data} {rules : Rules State Data Command}
    {stream : StreamId} {history : List (Event Data)} {fault : Fault}
    (failed : registry.load rules stream history = .error fault)
    (quiet : ∀ state data fault, (rules.apply state data).2 = some fault → fault.isPublish = false) :
    fault.isPublish = false := by
  rcases load_eq_error failed with ⟨_, rfl⟩ | ⟨state, data, raised⟩
  · rfl
  · exact quiet state data fault raised

end AggregateRegistry

end Inventory
