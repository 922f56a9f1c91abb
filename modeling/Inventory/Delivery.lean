import Inventory.Metrics

/-! Delivering a message to a handler. The envelope is read, the event type is held against the handler's
interest, and only then is the payload decoded and the handler called; so a handler never pays for payloads
that it did not ask for. A delivery never fails as a whole: what went wrong is its outcome. -/
namespace Inventory

inductive Reaction where
  | handled
  | failed
  /-- The handler broke down in the middle and takes the loop that called it down with it. -/
  | crashed
deriving DecidableEq, Repr

/-- A reader of events with a name, under which its position is kept, the event types that it wants,
and what it does to its state. -/
structure Handler (Data State : Type) where
  name : String
  interest : List EventType
  handle : State → Event Data → State × Reaction

inductive Delivery where
  | handled
  | skipped
  | failed
  | undecodable
deriving DecidableEq, Repr

def Delivery.label : Delivery → String
  | .handled => "handled"
  | .skipped => "skipped"
  | .failed => "failed"
  | .undecodable => "undecodable"

def Reaction.delivery? : Reaction → Option Delivery
  | .handled => some .handled
  | .failed => some .failed
  | .crashed => none

/-- This is `deliver_inner`: the outcome of a delivery and the handler's state behind it; no outcome when the handler
crashed. -/
def Handler.react {Data State : Type} [Payload Data] (handler : Handler Data State)
    (registry : EventRegistry Data) (state : State) (message : List UInt8) :
    State × Option Delivery :=
  match Record.read message with
  | .error _ => (state, some .undecodable)
  | .ok record =>
      if record.eventType ∉ handler.interest then (state, some .skipped)
      else
        match registry.decodeRecord record with
        | .error _ => (state, some .undecodable)
        | .ok event =>
            match handler.handle state event with
            | (state, reaction) => (state, reaction.delivery?)

/-- This is `deliver`: what came of it is counted. -/
def Handler.deliver {Data State : Type} [Payload Data] (handler : Handler Data State)
    (registry : EventRegistry Data) (metrics : Option Metrics) (state : State)
    (message : List UInt8) : Option Delivery × Option Metrics × State :=
  match handler.react registry state message with
  | (state, none) => (none, metrics, state)
  | (state, some delivery) =>
      (some delivery, metrics.map (·.countDelivery handler.name delivery.label), state)

end Inventory
