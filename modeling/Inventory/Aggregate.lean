import Inventory.Registry

/-! Aggregates. The state of an aggregate is what its events leave behind, one applied after the other to a
fresh state; a command is decided against that state and yields new payloads or a fault. A context goes
with one decision: it knows the stream, the version that was loaded, and the events that were recorded on
top of it. -/
namespace Inventory

/-- This is `AggregateContext`: the version that was loaded stays as it is while events are recorded. -/
structure Context (Data : Type) where
  stream : StreamId
  initialVersion : Nat
  version : Nat
  uncommitted : List (Event Data)

namespace Context
variable {Data : Type} [Payload Data]

omit [Payload Data] in
def start (stream : StreamId) (version : Nat) : Context Data :=
  { stream, initialVersion := version, version, uncommitted := [] }

omit [Payload Data] in
/-- Version zero means that there is no history. -/
def hasHistory (context : Context Data) : Bool :=
  0 < context.initialVersion

def next (context : Context Data) (data : Data) (timestamp : Int) (version : Nat := context.version + 1) :
    Event Data :=
  Event.of context.stream data timestamp version

/-- This is `record`: an event on top of the others. Callers that count in words give the version that comes next. -/
def record (context : Context Data) (data : Data) (timestamp : Int) (version : Nat := context.version + 1) :
    Context Data :=
  { context with
    version
    uncommitted := context.uncommitted ++ [context.next data timestamp version] }

omit [Payload Data] in
/-- This is `take_uncommitted`: what was recorded is handed out, and the version stays. -/
def take (context : Context Data) : List (Event Data) × Context Data :=
  (context.uncommitted, { context with uncommitted := [] })

end Context

/-- How states take in payloads and decide commands: `apply_event` and `handle_command` of an `AggregateRoot`. An event
that cannot be taken in may still leave part of its effect. -/
structure Rules (State Data Command : Type) where
  apply : State → Data → State × Option Fault
  decide : State → Context Data → Command → Except Fault (List Data)

namespace Rules
variable {State Data Command : Type}

def replay (rules : Rules State Data Command) (state : State) :
    List (Event Data) → Except Fault State
  | [] => .ok state
  | event :: rest =>
      match rules.apply state event.data with
      | (_, some fault) => .error fault
      | (state, none) => rules.replay state rest

end Rules

structure AggregateKind (State Data : Type) where
  aggregateType : AggregateType
  fresh : Context Data → State

structure AggregateRegistry (State Data : Type) where
  kinds : List (AggregateKind State Data) := []

namespace AggregateRegistry
variable {State Data : Type}

def empty : AggregateRegistry State Data :=
  {}

def find? (registry : AggregateRegistry State Data) (aggregateType : AggregateType) :
    Option (AggregateKind State Data) :=
  registry.kinds.find? fun kind => kind.aggregateType = aggregateType

def contains (registry : AggregateRegistry State Data) (aggregateType : AggregateType) : Bool :=
  (registry.find? aggregateType).isSome

def size (registry : AggregateRegistry State Data) : Nat :=
  registry.kinds.length

def register (registry : AggregateRegistry State Data) (kind : AggregateKind State Data) :
    Except Fault (AggregateRegistry State Data) :=
  if registry.contains kind.aggregateType then .error (.repeatedAggregateType kind.aggregateType)
  else .ok ⟨registry.kinds ++ [kind]⟩

def fresh (registry : AggregateRegistry State Data) (context : Context Data) : Except Fault State :=
  match registry.find? context.stream.aggregateType with
  | none => .error (.unknownAggregateType context.stream.aggregateType)
  | some kind => .ok (kind.fresh context)

def lastVersion (history : List (Event Data)) : Nat :=
  match history.getLast? with
  | none => 0
  | some event => event.version

/-- This is `load` behind the read: a fresh state for the type of the stream, onto which the history is replayed. -/
def load {Command : Type} (registry : AggregateRegistry State Data) (rules : Rules State Data Command)
    (stream : StreamId) (history : List (Event Data)) : Except Fault (Context Data × State) :=
  let context := Context.start stream (lastVersion history)
  match registry.fresh context with
  | .error fault => .error fault
  | .ok fresh =>
      match rules.replay fresh history with
      | .error fault => .error fault
      | .ok state => .ok (context, state)

end AggregateRegistry

end Inventory
