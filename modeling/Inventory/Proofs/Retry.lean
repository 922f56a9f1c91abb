import Inventory.Retry
import Mathlib.Data.Nat.Find
import Mathlib.Logic.Function.Iterate
import Mathlib.Tactic.Common

/-! How a retried operation ends. What an attempt gives may depend on all attempts before it, so results are looked at
after what the earlier attempts left behind. The first attempt that settles the matter is the last one. The loop is also
taken apart into steps of its own, an attempt or a pause each: it ends after a known number of them, with the attempts
numbered from one on and a pause between any two. -/
namespace Inventory.Retry
variable {Error Value State : Type}

section
variable (operation : Nat → State → Except Error Value × State) (state : State)

/-- What so many attempts leave behind. -/
def stateAfter : Nat → State
  | 0 => state
  | count + 1 => (operation (count + 1) (stateAfter count)).2

/-- What the attempt of this number gives after those before it. -/
def attempted (number : Nat) : Except Error Value :=
  (operation number (stateAfter operation state (number - 1))).1

end

namespace Policy

/-- Even a budget of none allows one attempt. -/
def budget (policy : Policy) : Nat :=
  max 1 policy.maxAttempts

def pause (policy : Policy) (index : Nat) : Duration :=
  policy.nextDelay^[index] policy.initialDelay

def pauses (policy : Policy) (count : Nat) : List Duration :=
  (List.range count).map policy.pause

/-- No other attempt follows: it was a success, or an error that cannot be mended, or the last attempt of the budget. -/
def Settles (policy : Policy) (transient : Error → Bool) (number : Nat) : Except Error Value → Prop
  | .ok _ => True
  | .error error => transient error = false ∨ number = policy.budget

end Policy

/-- What an attempt that settles the matter comes to. -/
def conclusion (transient : Error → Bool) : Except Error Value → Outcome Error Value
  | .ok value => .success value
  | .error error => if transient error then .failure error else .permanentFailure error

/-- The attempt of this number is the first that settles the matter. -/
structure Last (policy : Policy) (transient : Error → Bool) (operation : Nat → State → Except Error Value × State)
    (state : State) (count : Nat) : Prop where
  positive : 1 ≤ count
  settles : policy.Settles transient count (attempted operation state count)
  earlier : ∀ number, 1 ≤ number → number < count →
    ¬ policy.Settles transient number (attempted operation state number)

section
variable {policy : Policy} {transient : Error → Bool} {operation : Nat → State → Except Error Value × State}
  {state : State} {count : Nat}

theorem Policy.settles_budget (policy : Policy) (transient : Error → Bool) (result : Except Error Value) :
    policy.Settles transient policy.budget result := by
  cases result with
  | ok value => trivial
  | error error => exact .inr rfl

theorem Last.le_budget (last : Last policy transient operation state count) : count ≤ policy.budget := by
  by_contra beyond
  exact last.earlier policy.budget (Nat.le_max_left ..) (Nat.lt_of_not_le beyond) (policy.settles_budget ..)

theorem exists_last (policy : Policy) (transient : Error → Bool)
    (operation : Nat → State → Except Error Value × State) (state : State) :
    ∃ count, Last policy transient operation state count := by
  classical
  have some : ∃ number, 1 ≤ number ∧ policy.Settles transient number (attempted operation state number) :=
    ⟨policy.budget, Nat.le_max_left .., policy.settles_budget ..⟩
  have ⟨positive, settles⟩ := Nat.find_spec some
  exact ⟨Nat.find some, positive, settles, fun number least below both => Nat.find_min some below ⟨least, both⟩⟩

theorem Policy.outcome?_of_settles {number : Nat} {result : Except Error Value}
    (settles : policy.Settles transient number result) :
    policy.outcome? transient number result = some (conclusion transient result) := by
  cases result with
  | ok value => rfl
  | error error =>
    cases mendable : transient error with
    | false => simp [outcome?, conclusion, mendable]
    | true =>
      have spent : number = max 1 policy.maxAttempts := settles.resolve_left (by simp [mendable])
      have reached : policy.maxAttempts ≤ number := spent ▸ Nat.le_max_right ..
      simp [outcome?, conclusion, mendable, reached]

theorem Policy.outcome?_of_not_settles {number : Nat} {result : Except Error Value} (positive : 1 ≤ number)
    (within : number ≤ policy.budget) (unsettled : ¬ policy.Settles transient number result) :
    policy.outcome? transient number result = none := by
  cases result with
  | ok value => exact absurd trivial unsettled
  | error error =>
    obtain ⟨mendable, unspent⟩ := not_or.mp unsettled
    have short : ¬ policy.maxAttempts ≤ number := by
      unfold Policy.budget at within unspent
      omega
    simp [outcome?, mendable, short]

theorem Last.outcome?_of_lt (last : Last policy transient operation state count) {index : Nat}
    (before : index + 1 < count) :
    policy.outcome? transient (index + 1) (operation (index + 1) (stateAfter operation state index)).1 = none :=
  Policy.outcome?_of_not_settles (Nat.succ_pos index) (Nat.le_trans (Nat.le_of_lt before) last.le_budget)
    (last.earlier _ (Nat.succ_pos index) before)

theorem Policy.pause_succ (policy : Policy) (index : Nat) :
    policy.pause (index + 1) = policy.nextDelay (policy.pause index) :=
  Function.iterate_succ_apply' ..

theorem Policy.pauses_succ (policy : Policy) (count : Nat) :
    policy.pauses (count + 1) = policy.pauses count ++ [policy.pause count] := by
  rw [pauses, List.range_succ, List.map_append]
  rfl

theorem Policy.runFrom_of_some {number : Nat} {delay : Duration} {pauses : List Duration}
    {outcome : Outcome Error Value}
    (ended : policy.outcome? transient number (operation number state).1 = some outcome) :
    policy.runFrom transient operation number delay pauses state =
      ⟨outcome, pauses.reverse, (operation number state).2⟩ := by
  rw [runFrom]
  cases made : operation number state with
  | mk result left =>
    rw [made] at ended
    simp only
    split
    next found =>
      rw [ended] at found
      cases found
      rfl
    next found =>
      rw [ended] at found
      cases found

theorem Policy.runFrom_of_none {number : Nat} {delay : Duration} {pauses : List Duration}
    (again : policy.outcome? transient number (operation number state).1 = none) :
    policy.runFrom transient operation number delay pauses state =
      policy.runFrom transient operation (number + 1) (policy.nextDelay delay) (delay :: pauses)
        (operation number state).2 := by
  rw [runFrom]
  cases made : operation number state with
  | mk result left =>
    rw [made] at again
    simp only
    split
    next found =>
      rw [again] at found
      cases found
    next => rfl

theorem Last.run_eq_runFrom (last : Last policy transient operation state count) {index : Nat}
    (before : index < count) :
    policy.run transient operation state = policy.runFrom transient operation (index + 1) (policy.pause index)
      (policy.pauses index).reverse (stateAfter operation state index) := by
  induction index with
  | zero => rfl
  | succ index ih =>
    rw [ih (Nat.lt_of_succ_lt before), Policy.runFrom_of_none (last.outcome?_of_lt before), policy.pause_succ,
      policy.pauses_succ, List.reverse_concat]
    rfl

theorem Last.run_eq (last : Last policy transient operation state count) :
    policy.run transient operation state =
      ⟨conclusion transient (attempted operation state count), policy.pauses (count - 1),
        stateAfter operation state count⟩ := by
  obtain ⟨index, rfl⟩ := Nat.exists_eq_add_one_of_ne_zero (Nat.ne_of_gt last.positive)
  have settled : policy.outcome? transient (index + 1) (operation (index + 1) (stateAfter operation state index)).1 =
      some (conclusion transient (attempted operation state (index + 1))) :=
    Policy.outcome?_of_settles last.settles
  rw [last.run_eq_runFrom (Nat.lt_succ_self index), Policy.runFrom_of_some settled, List.reverse_reverse]
  rfl

/-- An operation that also writes down the numbers it is called with. -/
def noting (operation : Nat → State → Except Error Value × State) (number : Nat) (kept : List Nat × State) :
    Except Error Value × (List Nat × State) :=
  match operation number kept.2 with
  | (result, state) => (result, kept.1 ++ [number], state)

theorem stateAfter_noting (operation : Nat → State → Except Error Value × State) (state : State) (count : Nat) :
    stateAfter (noting operation) ([], state) count = (List.range' 1 count, stateAfter operation state count) := by
  induction count with
  | zero => rfl
  | succ count ih =>
    rw [stateAfter, ih, List.range'_1_concat, Nat.add_comm 1 count]
    rfl

theorem attempted_noting (operation : Nat → State → Except Error Value × State) (state : State) (number : Nat) :
    attempted (noting operation) ([], state) number = attempted operation state number := by
  rw [attempted, stateAfter_noting]
  rfl

theorem Last.noting (last : Last policy transient operation state count) :
    Last policy transient (noting operation) ([], state) count where
  positive := last.positive
  settles := by
    rw [attempted_noting]
    exact last.settles
  earlier number least below := by
    rw [attempted_noting]
    exact last.earlier number least below

end

/-! The loop in steps. -/

inductive Act where
  | attempt (number : Nat)
  | pause (delay : Duration)
deriving DecidableEq

inductive Stage (Error Value : Type) where
  | attempting
  | pausing
  | ended (outcome : Outcome Error Value)

structure Loop (Error Value State : Type) where
  stage : Stage Error Value := .attempting
  number : Nat := 1
  delay : Duration
  state : State
  acts : List Act := []

namespace Loop

def opening (policy : Policy) (state : State) : Loop Error Value State where
  delay := policy.initialDelay
  state := state

/-- Attempts, or waits and goes on to the next attempt; an ended loop does nothing. -/
def step (policy : Policy) (transient : Error → Bool) (operation : Nat → State → Except Error Value × State)
    (loop : Loop Error Value State) : Loop Error Value State :=
  match loop.stage with
  | .attempting =>
      match operation loop.number loop.state with
      | (result, state) =>
          let stage := match policy.outcome? transient loop.number result with
            | some outcome => .ended outcome
            | none => .pausing
          { loop with stage, state, acts := loop.acts ++ [.attempt loop.number] }
  | .pausing =>
      { loop with
        stage := .attempting
        number := loop.number + 1
        delay := policy.nextDelay loop.delay
        acts := loop.acts ++ [.pause loop.delay] }
  | .ended _ => loop

end Loop

def Policy.rounds (policy : Policy) (count : Nat) : List Act :=
  (List.range count).flatMap fun index => [.attempt (index + 1), .pause (policy.pause index)]

section
variable {policy : Policy} {transient : Error → Bool} {operation : Nat → State → Except Error Value × State}
  {state : State} {count : Nat}

theorem Policy.rounds_succ (policy : Policy) (count : Nat) :
    policy.rounds (count + 1) = policy.rounds count ++ [.attempt (count + 1), .pause (policy.pause count)] := by
  rw [rounds, List.range_succ, List.flatMap_append]
  rfl

/-- The loop before an attempt, when so many rounds are over. -/
def Loop.standing (policy : Policy) (operation : Nat → State → Except Error Value × State) (state : State)
    (index : Nat) : Loop Error Value State where
  number := index + 1
  delay := policy.pause index
  state := stateAfter operation state index
  acts := policy.rounds index

theorem Loop.step_step_standing {index : Nat}
    (again :
      policy.outcome? transient (index + 1) (operation (index + 1) (stateAfter operation state index)).1 = none) :
    ((standing policy operation state index).step policy transient operation).step policy transient operation =
      standing policy operation state (index + 1) := by
  have acts : policy.rounds index ++ [Act.attempt (index + 1)] ++ [Act.pause (policy.pause index)] =
      policy.rounds (index + 1) := by
    rw [policy.rounds_succ, List.append_assoc]
    rfl
  simp only [step, standing, again, policy.pause_succ, acts]
  rfl

theorem Loop.step_standing {index : Nat} {outcome : Outcome Error Value}
    (ended : policy.outcome? transient (index + 1) (operation (index + 1) (stateAfter operation state index)).1 =
      some outcome) :
    (standing policy operation state index).step policy transient operation =
      { standing policy operation state index with
        stage := .ended outcome
        state := stateAfter operation state (index + 1)
        acts := policy.rounds index ++ [.attempt (index + 1)] } := by
  simp only [step, standing, ended]
  rfl

theorem Last.steps_standing (last : Last policy transient operation state count) {index : Nat}
    (before : index < count) :
    (Loop.step policy transient operation)^[2 * index] (Loop.opening policy state) =
      Loop.standing policy operation state index := by
  induction index with
  | zero => rfl
  | succ index ih =>
    have doubled : 2 * (index + 1) = 2 * index + 1 + 1 := Nat.mul_succ 2 index
    rw [doubled, Function.iterate_succ_apply', Function.iterate_succ_apply', ih (Nat.lt_of_succ_lt before)]
    exact Loop.step_step_standing (last.outcome?_of_lt before)

theorem conclusion_success_iff {result : Except Error Value} {value : Value} :
    conclusion transient result = .success value ↔ result = .ok value := by
  cases result with
  | ok other => simp [conclusion]
  | error error => cases mendable : transient error <;> simp [conclusion, mendable]

theorem conclusion_permanentFailure_iff {result : Except Error Value} {error : Error} :
    conclusion transient result = .permanentFailure error ↔ result = .error error ∧ transient error = false := by
  cases result with
  | ok value => simp [conclusion]
  | error other => grind [conclusion]

theorem conclusion_failure_iff {result : Except Error Value} {error : Error} :
    conclusion transient result = .failure error ↔ result = .error error ∧ transient error = true := by
  cases result with
  | ok value => simp [conclusion]
  | error other => grind [conclusion]

end

structure Concludes (policy : Policy) (transient : Error → Bool) (operation : Nat → State → Except Error Value × State)
    (state : State) (count : Nat) (run : Run Error Value State) : Prop where
  success_iff : ∀ value, run.outcome = .success value ↔ attempted operation state count = .ok value
  permanent_iff : ∀ error, run.outcome = .permanentFailure error ↔
    attempted operation state count = .error error ∧ transient error = false
  failure_iff : ∀ error, run.outcome = .failure error ↔
    count = policy.budget ∧ attempted operation state count = .error error ∧ transient error = true
  state_eq : run.state = stateAfter operation state count
  /-- One pause fewer than attempts, the first of them as set and each later one computed from the one before. -/
  pauses_eq : run.pauses = policy.pauses (count - 1)
  /-- The operation is called with the numbers from one up to the last, in order, and with no others. -/
  calls : (policy.run transient (noting operation) ([], state)).state = (List.range' 1 count, run.state)
  /-- Step by step the loop comes to the same end, with one pause between any two attempts and no other. -/
  loop : ∃ ended : Loop Error Value State,
    (Loop.step policy transient operation)^[2 * (count - 1) + 1] (Loop.opening policy state) = ended ∧
      ended.stage = .ended run.outcome ∧ ended.state = run.state ∧
      ended.acts = policy.rounds (count - 1) ++ [.attempt count]

/-- Whatever the operation does, there is a last attempt: the first that succeeds, or fails beyond mending, or uses up
the budget. What it gives is the outcome. -/
theorem concluded_run (policy : Policy) (transient : Error → Bool)
    (operation : Nat → State → Except Error Value × State) (state : State) :
    ∃ count, Last policy transient operation state count ∧
      Concludes policy transient operation state count (policy.run transient operation state) := by
  obtain ⟨count, last⟩ := exists_last policy transient operation state
  refine ⟨count, last, ?_⟩
  rw [last.run_eq]
  obtain ⟨index, rfl⟩ := Nat.exists_eq_add_one_of_ne_zero (Nat.ne_of_gt last.positive)
  have settled : policy.outcome? transient (index + 1) (operation (index + 1) (stateAfter operation state index)).1 =
      some (conclusion transient (attempted operation state (index + 1))) :=
    Policy.outcome?_of_settles last.settles
  exact
    { success_iff := fun value => conclusion_success_iff
      permanent_iff := fun error => conclusion_permanentFailure_iff
      failure_iff := fun error => by
        refine conclusion_failure_iff.trans (iff_and_self.mpr fun ⟨failed, mendable⟩ => ?_)
        have settles := last.settles
        rw [failed] at settles
        exact settles.resolve_left (by simp [mendable])
      state_eq := rfl
      pauses_eq := rfl
      calls := by
        rw [last.noting.run_eq, stateAfter_noting]
      loop := by
        refine ⟨_, rfl, ?_⟩
        rw [Nat.add_sub_cancel, Function.iterate_succ_apply', last.steps_standing (Nat.lt_succ_self index),
          Loop.step_standing settled]
        exact ⟨rfl, rfl, rfl⟩ }

/-! How long the pauses are. -/

theorem nanoseconds_min_le (first second : Duration) : (first.min second).nanoseconds ≤ second.nanoseconds := by
  unfold Duration.min
  split
  next less => exact less
  next => exact Nat.le_refl _

theorem Policy.nextDelay_le (policy : Policy) (delay : Duration) :
    (policy.nextDelay delay).nanoseconds ≤ policy.maxDelay.nanoseconds :=
  nanoseconds_min_le ..

section
variable {policy : Policy} {transient : Error → Bool} {operation : Nat → State → Except Error Value × State}
  {state : State}

theorem pauses_of_settled (settled : policy.Settles transient 1 (operation 1 state).1) :
    (policy.run transient operation state).pauses = [] := by
  have last : Last policy transient operation state 1 :=
    ⟨Nat.le_refl 1, settled, fun _ least below => absurd least (Nat.not_le.mpr below)⟩
  rw [last.run_eq]
  rfl

theorem pauses_of_unsettled (unsettled : ¬ policy.Settles transient 1 (operation 1 state).1) :
    ∃ count, (policy.run transient operation state).pauses =
      policy.initialDelay :: (List.range count).map fun index => policy.nextDelay (policy.pause index) := by
  obtain ⟨count, last⟩ := exists_last policy transient operation state
  have several : count ≠ 1 := by
    rintro rfl
    exact unsettled last.settles
  obtain ⟨count, rfl⟩ := Nat.exists_eq_add_of_le' (Nat.lt_of_le_of_ne last.positive several.symm)
  refine ⟨count, ?_⟩
  have first : policy.pauses (count + 1) = policy.initialDelay :: (List.range count).map (policy.pause ∘ Nat.succ) := by
    rw [Policy.pauses, List.range_succ_eq_map, List.map_cons, List.map_map]
    rfl
  rw [last.run_eq]
  refine first.trans (congrArg _ (List.map_congr_left fun index _ => policy.pause_succ index))

/-- Every computed pause keeps to the limit. The first one is the pause that was set, so the limit holds for all of them
just when there is no pause at all or that one keeps to it. -/
theorem limited_pauses (policy : Policy) (transient : Error → Bool)
    (operation : Nat → State → Except Error Value × State) (state : State) :
    let pauses := (policy.run transient operation state).pauses
    (∀ pause ∈ pauses.head?, pause = policy.initialDelay) ∧
      (∀ pause ∈ pauses.tail, pause.nanoseconds ≤ policy.maxDelay.nanoseconds) ∧
      ((∀ pause ∈ pauses, pause.nanoseconds ≤ policy.maxDelay.nanoseconds) ↔
        policy.Settles transient 1 (operation 1 state).1 ∨
          policy.initialDelay.nanoseconds ≤ policy.maxDelay.nanoseconds) := by
  by_cases settled : policy.Settles transient 1 (operation 1 state).1
  · rw [pauses_of_settled settled]
    simp [settled]
  · obtain ⟨count, same⟩ := pauses_of_unsettled settled
    have later : ∀ pause ∈ (List.range count).map fun index => policy.nextDelay (policy.pause index),
        pause.nanoseconds ≤ policy.maxDelay.nanoseconds := by
      intro pause member
      obtain ⟨index, _, rfl⟩ := List.mem_map.mp member
      exact policy.nextDelay_le _
    rw [same]
    refine ⟨by simp, later, ?_⟩
    rw [List.forall_mem_cons, and_iff_left later, or_iff_right settled]

end

/-- The pause that is set is longer than the limit. -/
def hasty : Policy where
  maxAttempts := 3
  initialDelay := .ofMilliseconds 50
  maxDelay := .ofMilliseconds 20
  multiplier := 2.0

def busyTwice (number : Nat) (state : Unit) : Except String Nat × Unit :=
  (if number < 3 then .error "busy" else .ok number, state)

/-- The limit does not hold for the first pause. -/
theorem unlimited_pause :
    ¬ ∀ pause ∈ (hasty.run always busyTwice ()).pauses, pause.nanoseconds ≤ hasty.maxDelay.nanoseconds := by
  intro limited
  have unsettled : ¬ hasty.Settles always 1 (busyTwice 1 ()).1 := by
    simp [Policy.Settles, always, Policy.budget, hasty, busyTwice]
  obtain ⟨count, same⟩ := pauses_of_unsettled unsettled
  have first : hasty.initialDelay.nanoseconds ≤ hasty.maxDelay.nanoseconds :=
    limited _ (same ▸ List.mem_cons_self)
  revert first
  decide

end Inventory.Retry
