import Inventory.Breaker
import Inventory.Metrics.Samples
import Inventory.Registry

/-! What is counted while commands are dispatched and events are stored, published and handled. A counter
has a sample for all labels that were ever counted, even with an amount of zero, and begins at zero again
after two to the 64th less one; durations fall into buckets; and one gauge shows the state of the
publisher's circuit breaker. -/
namespace Inventory

abbrev Counter := Samples UInt64

namespace Counter

def count (counter : Counter) (labels : List String) : UInt64 :=
  (Samples.find? counter labels).getD 0

def add (counter : Counter) (labels : List String) (amount : UInt64) : Counter :=
  Samples.insert counter labels (counter.count labels + amount)

/-- Adding to a count changes what is counted for the labels that share it, and nothing else. -/
@[simp] theorem count_add (counter : Counter) (labels others : List String) (amount : UInt64) :
    (counter.add labels amount).count others =
      if Text.Fingerprint.ofTexts others = Text.Fingerprint.ofTexts labels
      then counter.count others + amount else counter.count others := by
  unfold count add
  rw [Samples.find?_insert]
  split
  case isTrue same => rw [Samples.find?_congr counter same]; rfl
  case isFalse => rfl

end Counter

structure Histogram where
  /-- How many observations were at most the bound of each bucket. -/
  counts : List Nat
  sum : Float
  count : Nat

namespace Histogram

def bounds : List Float :=
  [0.001, 0.005, 0.01, 0.05, 0.1, 0.5, 1.0, 5.0]

def empty : Histogram :=
  ⟨bounds.map fun _ => 0, 0.0, 0⟩

/-- What is no number counts, and lies in no bucket. -/
def observe (histogram : Histogram) (value : Float) : Histogram where
  counts := List.zipWith (fun bound count => if value ≤ bound then count + 1 else count) bounds
    histogram.counts
  sum := histogram.sum + value
  count := histogram.count + 1

end Histogram

structure Metrics where
  dispatched : Counter := {}
  durations : Samples Histogram := {}
  conflicts : Counter := {}
  retries : Counter := {}
  stored : Counter := {}
  published : Counter := {}
  deliveries : Counter := {}
  breaker : Int := 0

namespace Metrics

def empty : Metrics :=
  {}

def countDispatch (metrics : Metrics) (aggregateType outcome : String) (seconds : Float) : Metrics :=
  let durations := (metrics.durations.find? [aggregateType]).getD .empty
  { metrics with
    dispatched := metrics.dispatched.add [aggregateType, outcome] 1
    durations := metrics.durations.insert [aggregateType] (durations.observe seconds) }

def countConflict (metrics : Metrics) (aggregateType : String) : Metrics :=
  { metrics with conflicts := metrics.conflicts.add [aggregateType] 1 }

def countRetry (metrics : Metrics) (operation : String) : Metrics :=
  { metrics with retries := metrics.retries.add [operation] 1 }

def countStored (metrics : Metrics) (aggregateType : String) (amount : Nat) : Metrics :=
  { metrics with stored := metrics.stored.add [aggregateType] (.ofNat amount) }

def countPublished {Data : Type} (metrics : Metrics) (events : List (Event Data)) : Metrics :=
  { metrics with
    published := events.foldl (fun counter event => counter.add [event.eventType.text] 1)
      metrics.published }

def countDelivery (metrics : Metrics) (handler outcome : String) : Metrics :=
  { metrics with deliveries := metrics.deliveries.add [handler, outcome] 1 }

def gauge : Breaker.State → Int
  | .closed => 0
  | .opened => 1
  | .halfOpen => 2

def showBreaker (metrics : Metrics) (state : Breaker.State) : Metrics :=
  { metrics with breaker := gauge state }

/-- The state that the gauge shows; a value of none counts as closed. -/
def breakerState (metrics : Metrics) : Breaker.State :=
  if metrics.breaker = 1 then .opened else if metrics.breaker = 2 then .halfOpen else .closed

@[simp] theorem breakerState_showBreaker (metrics : Metrics) (state : Breaker.State) :
    (metrics.showBreaker state).breakerState = state := by
  cases state <;> rfl

end Metrics

end Inventory
