import Inventory.Duration

/-! A circuit breaker. After a number of failures in a row it opens and refuses calls until it has cooled
down; then calls are admitted on trial, and after enough successes it closes again. A call is admitted in
one step and completed in another, and other calls may be admitted and completed in between. -/
namespace Inventory

namespace Breaker

inductive State where
  | closed
  | opened
  | halfOpen
deriving DecidableEq, Repr

structure Config where
  failureThreshold : Nat := 5
  timeout : Duration := .ofSeconds 30
  successThreshold : Nat := 3

end Breaker

structure Breaker where
  state : Breaker.State := .closed
  failures : Nat := 0
  successes : Nat := 0
  openedAt : Option Duration := none
deriving DecidableEq, Repr

namespace Breaker

inductive Outcome where
  | success
  | failure
deriving DecidableEq, Repr

def closedAnew (breaker : Breaker) : Breaker :=
  { breaker with state := .closed, failures := 0, successes := 0, openedAt := none }

def openedAnew (breaker : Breaker) (now : Duration) : Breaker :=
  { breaker with state := .opened, successes := 0, openedAt := some now }

def onTrial (breaker : Breaker) : Breaker :=
  { breaker with state := .halfOpen, successes := 0 }

def cooledDown (breaker : Breaker) (config : Config) (now : Duration) : Bool :=
  match breaker.openedAt with
  | none => true
  | some openedAt => config.timeout.nanoseconds ≤ (now.since openedAt).nanoseconds

/-- This is `call` up to the operation: the breaker after it has admitted a call, none when it refuses the call. -/
def enter? (breaker : Breaker) (config : Config) (now : Duration) : Option Breaker :=
  match breaker.state with
  | .closed | .halfOpen => some breaker
  | .opened => if breaker.cooledDown config now then some breaker.onTrial else none

/-- This is `call` behind the operation: the outcome is held against the state that there is by then. -/
def complete (breaker : Breaker) (config : Config) (now : Duration) : Outcome → Breaker
  | .success =>
      match breaker.state with
      | .halfOpen =>
          if config.successThreshold ≤ breaker.successes + 1 then breaker.closedAnew
          else { breaker with successes := breaker.successes + 1 }
      | .closed | .opened => { breaker with failures := 0 }
  | .failure =>
      match breaker.state with
      | .halfOpen => breaker.openedAnew now
      | .closed | .opened =>
          let counted := { breaker with failures := breaker.failures + 1 }
          if config.failureThreshold ≤ counted.failures then counted.openedAnew now else counted

inductive Error (Reason : Type) where
  | circuitOpen
  | failed (reason : Reason)

def Error.message {Reason : Type} (text : Reason → String) : Error Reason → String
  | .circuitOpen => "Circuit breaker is open"
  | .failed reason => "Operation failed: " ++ text reason

def outcomeOf {Reason Value : Type} : Except Reason Value → Outcome
  | .ok _ => .success
  | .error _ => .failure

/-- A whole `call` that no other one overlaps. Its operation is run unless the breaker refuses it, and the end is taken
in at the time at which it is done. -/
def call {World Reason Value : Type} (breaker : Breaker) (config : Config) (began ended : Duration)
    (operation : World → Except Reason Value × World) (world : World) :
    Except (Error Reason) Value × Breaker × World :=
  match breaker.enter? config began with
  | none => (.error .circuitOpen, breaker, world)
  | some admitted =>
      let (result, world) := operation world
      (result.mapError .failed, admitted.complete config ended (outcomeOf result), world)

end Breaker

end Inventory
