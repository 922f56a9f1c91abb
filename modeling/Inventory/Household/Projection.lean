import Inventory.Delivery
import Inventory.Household.Part

/-! The items of all households, for looking them up by item or by room. Messages may come more than once
and out of order, so each item remembers the version that last wrote it: an event at or below that version
is passed over, and events for other items apply all the same. -/
namespace Inventory.Household

structure Projection where
  /-- For each item the version that last wrote it and the item as it was then. -/
  entries : Table String (Nat × ItemDetails) := []

namespace Projection

def empty : Projection :=
  {}

def entry? (projection : Projection) (itemId : String) : Option (Nat × ItemDetails) :=
  Table.find? projection.entries itemId

def item? (projection : Projection) (itemId : String) : Option ItemDetails :=
  (projection.entry? itemId).map Prod.snd

def lastVersion (projection : Projection) (itemId : String) : Nat :=
  ((projection.entry? itemId).map Prod.fst).getD 0

def items (projection : Projection) : List ItemDetails :=
  (Table.values projection.entries).map Prod.snd

/-- The items of a room by name, and those of one name by identifier. -/
def itemsInRoom (projection : Projection) (roomId : String) : List ItemDetails :=
  (projection.items.filter fun item => item.roomId = roomId).mergeSort
    fun first second => first.name ≤ second.name

def size (projection : Projection) : Nat :=
  projection.entries.length

def isEmpty (projection : Projection) : Bool :=
  projection.size == 0

/-- Takes in an item as one version left it, unless a version at least as late is known. -/
def put (projection : Projection) (version : Nat) (item : ItemDetails) : Projection :=
  if version ≤ projection.lastVersion item.itemId then projection
  else ⟨projection.entries.insert item.itemId (version, item)⟩

def itemOf? : Fact → Option ItemDetails
  | .itemAdded item | .itemUpdated item => some item
  | .created _ | .roomAdded _ => none

/-- This is `handle_event`: what is no fact about an item is refused. -/
def handle {Data Command : Type} [Payload Data] (part : Part Data Command) (projection : Projection)
    (event : Event Data) : Except Fault Projection :=
  match (part.fact? event.data).bind itemOf? with
  | none => .error (.unsupportedEvent event.stream.aggregateType event.eventType)
  | some item => .ok (projection.put event.version item)

def handlerName : String :=
  "item.Projector"

def interest : List EventType :=
  [Fact.itemAddedType, Fact.itemUpdatedType]

def react {Data Command : Type} [Payload Data] (part : Part Data Command) (projection : Projection)
    (event : Event Data) : Projection × Reaction :=
  match projection.handle part event with
  | .ok projection => (projection, .handled)
  | .error _ => (projection, .failed)

def handler {Data Command : Type} [Payload Data] (part : Part Data Command) :
    Handler Data Projection where
  name := handlerName
  interest := interest
  handle := react part

end Projection

end Inventory.Household
