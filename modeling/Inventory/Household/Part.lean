import Inventory.Household.State

/-! Households as a part of a system that may know other aggregates too. A part says which of the system's
payloads are household facts and which of its commands are for households; the rules of a household have
no answer to the others. -/
namespace Inventory.Household

structure Part (Data Command : Type) [Payload Data] where
  ofFact : Fact → Data
  fact? : Data → Option Fact
  command? : Command → Option Household.Command
  commandName : Command → String
  eventType_ofFact : ∀ fact, Payload.eventType (ofFact fact) = fact.eventType

def Part.whole : Part Fact Household.Command where
  ofFact fact := fact
  fact? fact := some fact
  command? command := some command
  commandName := Command.name
  eventType_ofFact _ := rfl

namespace Part
variable {Data Command : Type} [Payload Data]

def kind (part : Part Data Command) (kind : EventKind Fact) : EventKind Data where
  eventType := kind.eventType
  decode value := (kind.decode value).map part.ofFact
  faithful value data success := by
    cases decoded : kind.decode value with
    | error flaw =>
        rw [decoded] at success
        cases success
    | ok fact =>
        rw [decoded] at success
        cases success
        rw [part.eventType_ofFact]
        exact kind.faithful value fact decoded

def kinds (part : Part Data Command) : List (EventKind Data) :=
  Fact.kinds.map part.kind

/-- Stored facts no longer satisfy the rules they were written under. -/
def inconsistentHistory (refusal : Refusal) : Fault :=
  .store ⟨"household history is inconsistent", [refusal.message]⟩

def apply (part : Part Data Command) (household : Household) (data : Data) :
    Household × Option Fault :=
  match part.fact? data with
  | none => (household, some (.unsupportedEvent aggregateType (Payload.eventType data)))
  | some fact =>
      match household.apply fact with
      | (household, refusal?) => (household, refusal?.map inconsistentHistory)

def decide (part : Part Data Command) (household : Household) (context : Context Data)
    (command : Command) : Except Fault (List Data) :=
  match part.command? command with
  | none => .error (.unsupportedCommand aggregateType (part.commandName command))
  | some known =>
      match household.decide context.hasHistory known with
      | .error refusal => .error (.rejected refusal)
      | .ok fact => .ok [part.ofFact fact]

def rules (part : Part Data Command) : Rules Household Data Command where
  apply := part.apply
  decide := part.decide

/-- Households as aggregates whose states are among those of the system. -/
def aggregateKind {State : Type} (ofHousehold : Household → State) : AggregateKind State Data where
  aggregateType := aggregateType
  fresh context := ofHousehold (fresh context.stream.aggregateId)

/-- Registers the facts and then the household itself, up to the first fault. -/
def register {State : Type} (part : Part Data Command) (ofHousehold : Household → State)
    (events : EventRegistry Data) (aggregates : AggregateRegistry State Data) :
    EventRegistry Data × AggregateRegistry State Data × Option Fault :=
  match events.registerAll part.kinds with
  | (events, some fault) => (events, aggregates, some fault)
  | (events, none) =>
      match aggregates.register (aggregateKind ofHousehold) with
      | .error fault => (events, aggregates, some fault)
      | .ok aggregates => (events, aggregates, none)

end Part

end Inventory.Household
