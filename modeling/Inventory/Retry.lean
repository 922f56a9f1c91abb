import Inventory.Duration

/-! Trying again after a failure, with pauses that grow by a factor up to a limit. An operation is attempted
until it succeeds, fails in a way that another attempt cannot mend, or has used up its attempts; even a
budget of none allows the first one. -/
namespace Inventory.Retry

/-- This is `RetryConfig`, with a factor that may be any floating-point number. -/
structure Policy where
  maxAttempts : Nat
  initialDelay : Duration
  /-- The limit for every pause that is computed from an earlier one. -/
  maxDelay : Duration
  multiplier : Float

inductive Outcome (Error Value : Type) where
  | success (value : Value)
  | failure (error : Error)
  | permanentFailure (error : Error)

def Outcome.result {Error Value : Type} : Outcome Error Value → Except Error Value
  | .success value => .ok value
  | .failure error | .permanentFailure error => .error error

namespace Policy

def standard : Policy where
  maxAttempts := 3
  initialDelay := .ofMilliseconds 100
  maxDelay := .ofSeconds 10
  multiplier := 2.0

def once : Policy :=
  { standard with maxAttempts := 1 }

def withMaxAttempts (attempts : Nat) : Policy :=
  { standard with maxAttempts := max attempts 1 }

/-- This is `next_delay`: the pause after one of this length, which is whole milliseconds times the factor, with what
is no number or negative counted as none, and never above the limit. -/
def nextDelay (policy : Policy) (delay : Duration) : Duration :=
  let scaled := (Float.ofNat delay.milliseconds * policy.multiplier).toUInt64
  (Duration.ofMilliseconds scaled.toNat).min policy.maxDelay

def laterDelays (policy : Policy) : Nat → Duration → List Duration
  | 0, _ => []
  | count + 1, delay => policy.nextDelay delay :: policy.laterDelays count (policy.nextDelay delay)

/-- What follows the attempt of this number: none when another attempt does. -/
def outcome? {Error Value : Type} (policy : Policy) (transient : Error → Bool) (attempt : Nat) :
    Except Error Value → Option (Outcome Error Value)
  | .ok value => some (.success value)
  | .error error =>
      if !transient error then some (.permanentFailure error)
      else if policy.maxAttempts ≤ attempt then some (.failure error)
      else none

theorem lt_of_outcome?_none {Error Value : Type} {policy : Policy} {transient : Error → Bool}
    {attempt : Nat} {result : Except Error Value}
    (again : policy.outcome? transient attempt result = none) : attempt < policy.maxAttempts := by
  cases result with
  | ok value => simp [outcome?] at again
  | error error =>
      simp only [outcome?] at again
      split at again
      · simp at again
      · split at again
        · simp at again
        · omega

end Policy

structure Run (Error Value State : Type) where
  outcome : Outcome Error Value
  pauses : List Duration
  state : State

variable {Error Value State : Type}

/-- The time of each attempt in milliseconds since the first, when only the pauses take time. -/
def Run.attemptTimes (run : Run Error Value State) : List Nat :=
  timesFrom 0 run.pauses
where
  timesFrom (time : Nat) : List Duration → List Nat
    | [] => [time]
    | pause :: rest => time :: timesFrom (time + pause.timerMilliseconds) rest

def Policy.runFrom (policy : Policy) (transient : Error → Bool)
    (operation : Nat → State → Except Error Value × State) (attempt : Nat) (delay : Duration)
    (pauses : List Duration) (state : State) : Run Error Value State :=
  match operation attempt state with
  | (result, state) =>
      match again : policy.outcome? transient attempt result with
      | some outcome => ⟨outcome, pauses.reverse, state⟩
      | none =>
          have := Policy.lt_of_outcome?_none again
          policy.runFrom transient operation (attempt + 1) (policy.nextDelay delay) (delay :: pauses) state
termination_by policy.maxAttempts - attempt

/-- This is `retry_loop`. The operation is told the number of the attempt. -/
def Policy.run (policy : Policy) (transient : Error → Bool)
    (operation : Nat → State → Except Error Value × State) (state : State) : Run Error Value State :=
  policy.runFrom transient operation 1 policy.initialDelay [] state

def always (_ : Error) : Bool :=
  true

end Inventory.Retry
