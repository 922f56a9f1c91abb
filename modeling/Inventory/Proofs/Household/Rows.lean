import Inventory.Proofs.Household.Wire
import Inventory.Proofs.Json.Reading
import Inventory.Record.TableRow
import Mathlib

/-! Records come back from the rows of a table. A row has one bit less for the version than a record, and its payload is
a text, which may be spelled in more than one way; in all else rows and records have the same to say, so that events are
the same whichever of the two they are rebuilt from. -/
namespace Inventory

namespace TableRow
variable {record : Record} {row : TableRow}

theorem ofRecord_of_le (fits : record.version ≤ greatestVersion) :
    ofRecord record = .ok ⟨record.stream.aggregateType.text, record.stream.aggregateId.text, record.version,
      record.eventType.text, record.data.print, record.timestamp⟩ :=
  if_pos fits

theorem ofRecord_eq_store : (∃ cause, ofRecord record = .error (.store cause)) ↔ greatestVersion < record.version := by
  rw [ofRecord]
  split
  next fits => exact iff_of_false (fun ⟨_, refused⟩ => nomatch refused) (Nat.not_lt.mpr fits)
  next beyond => exact iff_of_true ⟨_, rfl⟩ (Nat.lt_of_not_le beyond)

theorem toRecord_eq_ok :
    row.toRecord = .ok record ↔ 0 ≤ row.version ∧ ∃ data, Json.readText row.data = .ok data ∧
      record = ⟨⟨⟨row.aggregateType⟩, ⟨row.aggregateId⟩⟩, ⟨row.eventType⟩, data, row.timestamp, row.version.toNat⟩ := by
  rw [toRecord]
  constructor
  · intro known
    split at known
    next => cases known
    next data readable =>
      split at known
      next => cases known
      next notBelow =>
        cases known
        exact ⟨Int.not_lt.mp notBelow, data, readable, rfl⟩
  · rintro ⟨notBelow, data, readable, rfl⟩
    rw [readable]
    exact if_neg (Int.not_lt.mpr notBelow)

theorem toRecord_ofRecord (portable : Json.Portable Json.nesting record.data)
    (fits : record.version ≤ greatestVersion) :
    ∃ row, ofRecord record = .ok row ∧ row.toRecord = .ok record := by
  refine ⟨_, ofRecord_of_le fits, toRecord_eq_ok.mpr ⟨Int.natCast_nonneg _, record.data, ?_, rfl⟩⟩
  exact Json.readText_print portable

/-- A row that has a record is the row of that record but for how its payload is spelled. -/
theorem ofRecord_toRecord (known : row.toRecord = .ok record) (bits : row.version ≤ greatestVersion)
    (floatFree : record.data.FloatFree) :
    ofRecord record = .ok { row with data := record.data.print } ∧
      { row with data := record.data.print }.toRecord = .ok record := by
  obtain ⟨notBelow, data, readable, rfl⟩ := toRecord_eq_ok.mp known
  have same : (row.version.toNat : Int) = row.version := Int.toNat_of_nonneg notBelow
  have portable : Json.Portable Json.nesting data := Json.portable_read readable floatFree
  constructor
  · rw [ofRecord_of_le (show row.version.toNat ≤ greatestVersion by omega)]
    dsimp only
    rw [same]
  · exact toRecord_eq_ok.mpr ⟨notBelow, data, Json.readText_print portable, rfl⟩

end TableRow

namespace Household
variable {before registry : EventRegistry Fact}

/-- A record without floating-point numbers comes back from its row, which it has unless its version is too great; a row
has the record whose row it is, however its payload was spelled; and an event of a household that has a row is the same
whether it is rebuilt from the row or from the record. -/
theorem rows_keep_records (filled : before.registerAll Part.whole.kinds = (registry, none)) :
    (∀ record : Record, Json.Portable Json.nesting record.data →
      ((∃ cause, TableRow.ofRecord record = .error (.store cause)) ↔ TableRow.greatestVersion < record.version) ∧
      (record.version ≤ TableRow.greatestVersion →
        ∃ row, TableRow.ofRecord record = .ok row ∧ row.toRecord = .ok record)) ∧
    (∀ (row : TableRow) (record : Record), row.version ≤ TableRow.greatestVersion → row.toRecord = .ok record →
      record.data.FloatFree →
        TableRow.ofRecord record = .ok { row with data := record.data.print } ∧
        { row with data := record.data.print }.toRecord = .ok record) ∧
    ∀ (stream : StreamId) (fact : Fact) (timestamp : Int) (version : Nat), version ≤ TableRow.greatestVersion →
      (do
        let record ← (Event.of stream fact timestamp version).toRecord
        let row ← TableRow.ofRecord record
        let stored ← row.toRecord
        registry.decodeRecord stored) = .ok (Event.of stream fact timestamp version) ∧
      (do
        let record ← (Event.of stream fact timestamp version).toRecord
        registry.decodeRecord record) = .ok (Event.of stream fact timestamp version) := by
  refine ⟨fun record portable => ⟨TableRow.ofRecord_eq_store, TableRow.toRecord_ofRecord portable⟩,
    fun row record bits known => TableRow.ofRecord_toRecord known bits, fun stream fact timestamp version fits => ?_⟩
  have made : (Event.of stream fact timestamp version).toRecord = .ok (recordOf stream fact timestamp version) := rfl
  have decoded := decodeRecord_recordOf filled stream fact timestamp version
  have portable : Json.Portable Json.nesting (recordOf stream fact timestamp version).data :=
    (portable_fact fact).mono (by decide)
  obtain ⟨row, there, back⟩ := TableRow.toRecord_ofRecord portable fits
  constructor
  · rw [made]
    show (TableRow.ofRecord _ >>= fun row => row.toRecord >>= registry.decodeRecord) = _
    rw [there]
    show (row.toRecord >>= registry.decodeRecord) = _
    rw [back]
    exact decoded
  · rw [made]
    exact decoded

/-- The greatest version has a row and the next one has none; blanks, escapes and keys that come twice are not kept. -/
theorem rows_keep_records_fresh :
    let data : Json := .object [("a", .array [.integer (-1), .text "\"é"]), ("b", .null)]
    let record : Record := ⟨⟨⟨"Household"⟩, ⟨"h"⟩⟩, ⟨"Told"⟩, data, -1, 9223372036854775807⟩
    let loose : TableRow :=
      ⟨"Household", "h", 9223372036854775807, "Told",
        "\x7b \"b\":7, \"b\" : null,\"a\":[-1 ,\"\\u0022é\"]\x7d ", -1⟩
    (∃ row, TableRow.ofRecord record = .ok row ∧ row.toRecord = .ok record) ∧
      (∃ cause, TableRow.ofRecord { record with version := 9223372036854775808 } = .error (.store cause)) ∧
      loose.toRecord = .ok record ∧ TableRow.ofRecord record = .ok { loose with data := data.print } := by
  intro data record loose
  have readable : Json.readText loose.data = .ok data := by cbv
  have portable : Json.Portable Json.nesting data :=
    Json.portable_read readable ⟨⟨trivial, trivial, trivial⟩, trivial, trivial⟩
  have known : loose.toRecord = .ok record := TableRow.toRecord_eq_ok.mpr ⟨by decide, data, readable, rfl⟩
  obtain ⟨records, rows, -⟩ :=
    rows_keep_records (show EventRegistry.empty.registerAll _ = (eventRegistry, none) from rfl)
  refine ⟨(records record portable).2 (by decide), (records _ portable).1.mpr (by decide), known, ?_⟩
  exact (rows loose record (by decide) known portable.floatFree).1

end Household

end Inventory
