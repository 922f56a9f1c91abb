import Inventory.Household.Refusal
import Inventory.Json.Flaw
import Inventory.StreamId

/-! What can go wrong between a command and its stored and published events. Callers tell faults apart by
their kind, never by their text: a type that is registered twice or not at all, a command or an event that
an aggregate has no rule for, a refusal by the rules, a version that another writer claimed first, a flawed
payload, and failures of the store and of the transport. -/
namespace Inventory

/-- What a store or a transport reports, with what lies behind it from the outside in. -/
structure Cause where
  text : String
  deeper : List String := []
deriving DecidableEq, Repr

def Cause.texts (cause : Cause) : List String :=
  cause.text :: cause.deeper

inductive Fault where
  | unknownAggregateType (aggregateType : AggregateType)
  | unknownEventType (eventType : EventType)
  | repeatedAggregateType (aggregateType : AggregateType)
  | repeatedEventType (eventType : EventType)
  | unsupportedCommand (aggregateType : AggregateType) (command : String)
  | unsupportedEvent (aggregateType : AggregateType) (eventType : EventType)
  | rejected (refusal : Household.Refusal)
  | conflict (stream : StreamId) (version : Nat)
  /-- The text of a record or of a payload cannot be read. -/
  | unreadable (flaw : Json.Flaw)
  /-- A value is no record or payload, or a payload has no value. -/
  | undecodable (flaw : Json.Flaw)
  | store (cause : Cause)
  | publish (cause : Cause)

namespace Fault

def sources : Fault → List String
  | .rejected refusal => [refusal.message]
  | .unreadable flaw | .undecodable flaw => [flaw.message]
  | .store cause | .publish cause => cause.texts
  | .unknownAggregateType _ | .unknownEventType _ | .repeatedAggregateType _ | .repeatedEventType _
  | .unsupportedCommand _ _ | .unsupportedEvent _ _ | .conflict _ _ => []

def message : Fault → String
  | .unknownAggregateType aggregateType =>
      "aggregate type not found in registry: " ++ aggregateType.text
  | .unknownEventType eventType => "event type not found in registry: " ++ eventType.text
  | .repeatedAggregateType aggregateType => "aggregate type registered twice: " ++ aggregateType.text
  | .repeatedEventType eventType => "event type registered twice: " ++ eventType.text
  | .unsupportedCommand aggregateType command =>
      "aggregate " ++ aggregateType.text ++ " does not know how to handle command " ++ command
  | .unsupportedEvent aggregateType eventType =>
      "aggregate " ++ aggregateType.text ++ " does not know how to apply event " ++ eventType.text
  | .rejected refusal => "command rejected: " ++ refusal.message
  | .conflict stream version =>
      "version conflict on " ++ stream.aggregateType.text ++ "/" ++ stream.aggregateId.text ++
        ": version " ++ toString version ++ " already exists"
  | .unreadable flaw | .undecodable flaw => "failed to decode event: " ++ flaw.message
  | .store cause => "event store error: " ++ cause.text
  | .publish cause => "failed to publish events: " ++ cause.text

/-- The registries were filled wrongly, which no second attempt mends. -/
def isConfiguration : Fault → Bool
  | .unknownAggregateType _ | .unknownEventType _ | .repeatedAggregateType _
  | .repeatedEventType _ => true
  | _ => false

def isConflict : Fault → Bool
  | .conflict _ _ => true
  | _ => false

def isRejected : Fault → Bool
  | .rejected _ => true
  | _ => false

def isPublish : Fault → Bool
  | .publish _ => true
  | _ => false

/-- Only a lost race is worth another attempt, from a fresh read on: nothing was written. -/
def isTransient (fault : Fault) : Bool :=
  fault.isConflict

/-- The words for what a caller may tell a fault by, as far as they hold. -/
def classes (fault : Fault) : List String :=
  [("configuration", fault.isConfiguration), ("conflict", fault.isConflict),
    ("rejected", fault.isRejected), ("transient", fault.isTransient)].filterMap
    fun (word, holds) => if holds then some word else none

def asCause (fault : Fault) : Cause :=
  ⟨fault.message, fault.sources⟩

/-- Whatever keeps stored events from being published is a failure to publish. -/
def whilePublishing (fault : Fault) : Fault :=
  if fault.isPublish then fault else .publish fault.asCause

end Fault

end Inventory
