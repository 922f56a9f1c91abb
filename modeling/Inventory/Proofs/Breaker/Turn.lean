import Inventory.Breaker
import Mathlib.Tactic.Common

/-! What a breaker does with a call. It is asked twice about a call, when the call comes and when its operation has
ended, and what it does then depends on its state, on its counters and on the time. In every state its records fit: an
open breaker knows since when it is open, and a closed one has counted too few failures to open. -/
namespace Inventory.Breaker

inductive Act where
  | refused
  | admitted
  | completed (outcome : Outcome)
  /-- It goes away, and how its operation would have ended is never known. -/
  | dropped
deriving DecidableEq, Repr

def Act.isEnd : Act → Bool
  | .completed _ | .dropped => true
  | .refused | .admitted => false

/-- What the breaker does with an act, all its cases. -/
inductive Turn (config : Config) (now : Duration) (met : Breaker) : Act → Breaker → Prop
  | refused (found : met.state = .opened) (early : met.cooledDown config now = false) :
      Turn config now met .refused met
  | admitted (found : met.state ≠ .opened) : Turn config now met .admitted met
  | tried (found : met.state = .opened) (cooled : met.cooledDown config now = true) :
      Turn config now met .admitted met.onTrial
  | spared (found : met.state ≠ .halfOpen) : Turn config now met (.completed .success) { met with failures := 0 }
  | passed (found : met.state = .halfOpen) (few : met.successes + 1 < config.successThreshold) :
      Turn config now met (.completed .success) { met with successes := met.successes + 1 }
  | restored (found : met.state = .halfOpen) (many : config.successThreshold ≤ met.successes + 1) :
      Turn config now met (.completed .success) met.closedAnew
  | counted (found : met.state ≠ .halfOpen) (few : met.failures + 1 < config.failureThreshold) :
      Turn config now met (.completed .failure) { met with failures := met.failures + 1 }
  | tripped (found : met.state ≠ .halfOpen) (many : config.failureThreshold ≤ met.failures + 1) :
      Turn config now met (.completed .failure) (openedAnew { met with failures := met.failures + 1 } now)
  | relapsed (found : met.state = .halfOpen) : Turn config now met (.completed .failure) (met.openedAnew now)
  | dropped : Turn config now met .dropped met

theorem turn_of_enter?_none {config : Config} {now : Duration} {met : Breaker}
    (kept : met.enter? config now = none) : Turn config now met .refused met := by
  unfold enter? at kept
  split at kept
  next => cases kept
  next => cases kept
  next found =>
    split at kept
    next => cases kept
    next hot => exact .refused found (Bool.eq_false_iff.mpr hot)

theorem turn_of_enter?_some {config : Config} {now : Duration} {met left : Breaker}
    (entered : met.enter? config now = some left) : Turn config now met .admitted left := by
  unfold enter? at entered
  split at entered
  next found =>
    cases entered
    exact .admitted (by simp [found])
  next found =>
    cases entered
    exact .admitted (by simp [found])
  next found =>
    split at entered
    next cooled =>
      cases entered
      exact .tried found cooled
    next => cases entered

theorem turn_of_complete (config : Config) (now : Duration) (met : Breaker) (outcome : Outcome) :
    Turn config now met (.completed outcome) (met.complete config now outcome) := by
  unfold complete
  cases outcome with
  | success =>
    simp only
    split
    next found =>
      split
      next many => exact .restored found many
      next few => exact .passed found (Nat.lt_of_not_le few)
    next found => exact .spared (by simp [found])
    next found => exact .spared (by simp [found])
  | failure =>
    simp only
    split
    next found => exact .relapsed found
    next found =>
      split
      next many => exact .tripped (by simp [found]) many
      next few => exact .counted (by simp [found]) (Nat.lt_of_not_le few)
    next found =>
      split
      next many => exact .tripped (by simp [found]) many
      next few => exact .counted (by simp [found]) (Nat.lt_of_not_le few)

theorem threshold_pos (threshold : Nat) : 0 < max 1 threshold :=
  Nat.lt_of_lt_of_le Nat.zero_lt_one (Nat.le_max_left ..)

/-- What the records say in each state. -/
structure Safe (config : Config) (now : Duration) (breaker : Breaker) : Prop where
  closed : breaker.state = .closed →
    breaker.openedAt = none ∧ breaker.successes = 0 ∧ breaker.failures < max 1 config.failureThreshold
  opened : breaker.state = .opened →
    ∃ since, breaker.openedAt = some since ∧ since.nanoseconds ≤ now.nanoseconds ∧ breaker.successes = 0
  halfOpen : breaker.state = .halfOpen → breaker.successes < max 1 config.successThreshold

section
variable {config : Config} {now : Duration} {met left : Breaker} {act : Act}

theorem Safe.of_opened {since : Duration} (state : left.state = .opened) (known : left.openedAt = some since)
    (past : since.nanoseconds ≤ now.nanoseconds) (none : left.successes = 0) : Safe config now left where
  closed found := absurd (state.symm.trans found) (by decide)
  opened _ := ⟨since, known, past, none⟩
  halfOpen found := absurd (state.symm.trans found) (by decide)

theorem Safe.of_halfOpen (state : left.state = .halfOpen) (few : left.successes < max 1 config.successThreshold) :
    Safe config now left where
  closed found := absurd (state.symm.trans found) (by decide)
  opened found := absurd (state.symm.trans found) (by decide)
  halfOpen _ := few

theorem Safe.of_closed (state : left.state = .closed) (unknown : left.openedAt = none) (none : left.successes = 0)
    (few : left.failures < max 1 config.failureThreshold) : Safe config now left where
  closed _ := ⟨unknown, none, few⟩
  opened found := absurd (state.symm.trans found) (by decide)
  halfOpen found := absurd (state.symm.trans found) (by decide)

theorem Safe.mono (safe : Safe config now met) {later : Duration} (le : now.nanoseconds ≤ later.nanoseconds) :
    Safe config later met where
  closed := safe.closed
  opened found := by
    obtain ⟨since, known, past, none⟩ := safe.opened found
    exact ⟨since, known, Nat.le_trans past le, none⟩
  halfOpen := safe.halfOpen

theorem Safe.with_failures (safe : Safe config now met) {failures : Nat}
    (few : met.state = .closed → failures < max 1 config.failureThreshold) :
    Safe config now { met with failures } where
  closed found := ⟨(safe.closed found).1, (safe.closed found).2.1, few found⟩
  opened := safe.opened
  halfOpen := safe.halfOpen

theorem Turn.safe (turn : Turn config now met act left) (safe : Safe config now met) : Safe config now left := by
  cases turn with
  | refused found early => exact safe
  | admitted found => exact safe
  | tried found cooled => exact .of_halfOpen rfl (threshold_pos _)
  | spared found => exact safe.with_failures fun _ => threshold_pos _
  | passed found few => exact .of_halfOpen found (Nat.lt_of_lt_of_le few (Nat.le_max_right ..))
  | restored found many => exact .of_closed rfl rfl rfl (threshold_pos _)
  | counted found few => exact safe.with_failures fun _ => Nat.lt_of_lt_of_le few (Nat.le_max_right ..)
  | tripped found many => exact .of_opened rfl rfl (Nat.le_refl _) rfl
  | relapsed found => exact .of_opened rfl rfl (Nat.le_refl _) rfl
  | dropped => exact safe

end

end Inventory.Breaker
