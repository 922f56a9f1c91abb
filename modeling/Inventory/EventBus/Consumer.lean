import Inventory.Delivery
import Inventory.EventBus
import Inventory.Metrics

/-! Loops that read the log for a handler. A loop looks whether it is to stop, registers to be woken, looks
up its group's position, reads the message there, delivers it and moves the position on; where there is no
message it parks until it is woken by a publication or hears the signal to stop. Each of these is a step of
its own, so that loops, publishers and a shutdown may interleave at every point. -/
namespace Inventory

/-- What loops work on: the bus, the metrics if there are any, and the state of the handlers. -/
structure ReadSide (State : Type) where
  bus : EventBus
  metrics : Option Metrics
  handlers : State

inductive Signal where
  | run
  | stop
  /-- The owner is gone without having stopped the loops. -/
  | abandoned
deriving DecidableEq, Repr

inductive Ending where
  | stopped
  | abandoned
  | crashed
deriving DecidableEq, Repr

inductive Stage where
  | checking
  /-- Not told to stop, and about to register to be woken. -/
  | enlisting
  /-- Registered, and about to look up the position of its group. -/
  | looking
  | reading (offset : Nat)
  | delivering (offset : Nat) (message : List UInt8)
  /-- The message at a position was delivered, and the group is about to be moved behind it. -/
  | committing (offset : Nat)
  | parked
  | ended (ending : Ending)
deriving DecidableEq, Repr

/-- One run of `consume`. -/
structure Consumer (Data State : Type) where
  handler : Handler Data State
  /-- Loops that were started together have one number, and are stopped together. -/
  crew : Nat
  signal : Signal := .run
  /-- The signal has not been waited for yet. -/
  unheard : Bool := false
  stage : Stage := .checking
  /-- A publication came since the loop registered. -/
  woken : Bool := false

namespace Consumer
variable {Data State : Type}

def group (consumer : Consumer Data State) : String :=
  consumer.handler.name

def moveTo (consumer : Consumer Data State) (stage : Stage) : Consumer Data State :=
  { consumer with stage }

def hear (consumer : Consumer Data State) (signal : Signal) : Consumer Data State :=
  { consumer with signal, unheard := true }

def notify (consumer : Consumer Data State) : Consumer Data State :=
  match consumer.stage with
  | .looking | .reading _ | .delivering _ _ | .committing _ | .parked => { consumer with woken := true }
  | .checking | .enlisting | .ended _ => consumer

def isEnded (consumer : Consumer Data State) : Bool :=
  match consumer.stage with
  | .ended _ => true
  | _ => false

/-- What a parked loop makes of the signal. The signal to stop is waited for once; that the owner is gone
shows whenever the loop waits. -/
def heed (consumer : Consumer Data State) : Consumer Data State :=
  match consumer.signal with
  | .run => consumer
  | .stop => if consumer.unheard then { consumer with stage := .checking, unheard := false } else consumer
  | .abandoned => consumer.moveTo (.ended .abandoned)

variable [Payload Data]

/-- Unless the handler crashes, the position is moved once the message went through `deliver`. -/
def deliver (consumer : Consumer Data State) (registry : EventRegistry Data) (side : ReadSide State)
    (offset : Nat) (message : List UInt8) : Consumer Data State × ReadSide State :=
  match consumer.handler.deliver registry side.metrics side.handlers message with
  | (none, metrics, handlers) => (consumer.moveTo (.ended .crashed), { side with metrics, handlers })
  | (some _, metrics, handlers) => (consumer.moveTo (.committing offset), { side with metrics, handlers })

def step (consumer : Consumer Data State) (registry : EventRegistry Data)
    (side : ReadSide State) : Consumer Data State × ReadSide State :=
  match consumer.stage with
  | .checking =>
      (consumer.moveTo (if consumer.signal = .stop then .ended .stopped else .enlisting), side)
  | .enlisting => ({ consumer with stage := .looking, woken := false }, side)
  | .looking => (consumer.moveTo (.reading (side.bus.offset consumer.group)), side)
  | .reading offset =>
      match side.bus.log[offset]? with
      | some message => (consumer.moveTo (.delivering offset message), side)
      | none => (consumer.moveTo .parked, side)
  | .delivering offset message => consumer.deliver registry side offset message
  | .committing offset =>
      (consumer.moveTo .checking, { side with bus := side.bus.commit consumer.group (offset + 1) })
  | .parked => (if consumer.woken then consumer.moveTo .checking else consumer.heed, side)
  | .ended _ => (consumer, side)

def steps (registry : EventRegistry Data) :
    Nat → Consumer Data State × ReadSide State → Consumer Data State × ReadSide State
  | 0, reached => reached
  | count + 1, (consumer, side) => steps registry count (consumer.step registry side)

/-- As many steps as a loop can take before it parks or ends, when nobody publishes meanwhile: six for a
message, and those around waking up and stopping. -/
def enoughSteps (side : ReadSide State) (consumer : Consumer Data State) : Nat :=
  6 * (side.bus.size - side.bus.offset consumer.group) + 6

def settle (consumer : Consumer Data State) (registry : EventRegistry Data)
    (side : ReadSide State) : Consumer Data State × ReadSide State :=
  steps registry (enoughSteps side consumer) (consumer, side)

end Consumer

end Inventory
