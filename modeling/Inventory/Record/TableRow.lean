import Inventory.Record

/-! Records as the rows of a database table. A row holds the payload as text and the version as a signed
number of sixty-four bits, so a greater version has no row and a negative one no record. -/
namespace Inventory

structure TableRow where
  aggregateType : String
  aggregateId : String
  version : Int
  eventType : String
  data : String
  timestamp : Int
deriving DecidableEq, Repr

namespace TableRow

def greatestVersion : Nat :=
  9223372036854775807

def versionTooLarge : Cause :=
  ⟨"number too large to fit in target type", []⟩

def versionTooSmall : Cause :=
  ⟨"number too small to fit in target type", []⟩

/-- This is `to_row`. The payload is printed once the version is known to fit. -/
def ofRecord (record : Record) : Except Fault TableRow :=
  if record.version ≤ greatestVersion then
    .ok
      { aggregateType := record.stream.aggregateType.text
        aggregateId := record.stream.aggregateId.text
        version := record.version
        eventType := record.eventType.text
        data := record.data.print
        timestamp := record.timestamp }
  else .error (.store versionTooLarge)

/-- This is `from_row`. The payload is read before the version is looked at. -/
def toRecord (row : TableRow) : Except Fault Record :=
  match Json.readText row.data with
  | .error flaw => .error (.unreadable flaw)
  | .ok data =>
      if row.version < 0 then .error (.store versionTooSmall)
      else
        .ok
          { stream := ⟨⟨row.aggregateType⟩, ⟨row.aggregateId⟩⟩
            eventType := ⟨row.eventType⟩
            data
            timestamp := row.timestamp
            version := row.version.toNat }

end TableRow

end Inventory
