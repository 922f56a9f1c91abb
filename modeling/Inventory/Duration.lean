/-! Lengths of time in whole nanoseconds. -/
namespace Inventory

structure Duration where
  nanoseconds : Nat
deriving DecidableEq, Repr, Inhabited

namespace Duration

def nanosecondsPerSecond : Nat :=
  1000000000

def nanosecondsPerMillisecond : Nat :=
  1000000

def ofSeconds (seconds : Nat) : Duration :=
  ⟨seconds * nanosecondsPerSecond⟩

def ofMilliseconds (milliseconds : Nat) : Duration :=
  ⟨milliseconds * nanosecondsPerMillisecond⟩

def ofParts (seconds nanoseconds : Nat) : Duration :=
  ⟨seconds * nanosecondsPerSecond + nanoseconds⟩

def zero : Duration :=
  ⟨0⟩

def seconds (duration : Duration) : Nat :=
  duration.nanoseconds / nanosecondsPerSecond

def fraction (duration : Duration) : Nat :=
  duration.nanoseconds % nanosecondsPerSecond

/-- Whole milliseconds, what is left of one being dropped. -/
def milliseconds (duration : Duration) : Nat :=
  duration.nanoseconds / nanosecondsPerMillisecond

/-- So many seconds and more are beyond what a clock can show. -/
def clockRange : Nat :=
  9223372036854775808

/-- What a timer takes for a time that no clock can show: thirty years of 365 days. -/
def distant : Duration :=
  ofSeconds 946080000

/-- Timers fire on whole milliseconds and never early. -/
def timerMilliseconds (duration : Duration) : Nat :=
  let timed := if duration.seconds < clockRange then duration else distant
  (timed.nanoseconds + (nanosecondsPerMillisecond - 1)) / nanosecondsPerMillisecond

def add (first second : Duration) : Duration :=
  ⟨first.nanoseconds + second.nanoseconds⟩

instance : Add Duration := ⟨add⟩

def min (first second : Duration) : Duration :=
  if first.nanoseconds ≤ second.nanoseconds then first else second

def since (later earlier : Duration) : Duration :=
  ⟨later.nanoseconds - earlier.nanoseconds⟩

/-- Seconds as a floating-point number, the whole ones and the rest each rounded. -/
def inSeconds (duration : Duration) : Float :=
  Float.ofNat duration.seconds + Float.ofNat duration.fraction / 1000000000.0

end Duration

end Inventory
