import Inventory.Table
import Inventory.Text.Fingerprint

/-! Samples by the values of their labels. A sample is found by the fingerprint of the values, and values with
one fingerprint share it; it stands under those that came first, and the samples are listed in the order of
the values. -/
namespace Inventory

structure Samples (Value : Type) where
  entries : Table (List String) Value := []

namespace Samples
variable {Value : Type}

def findIn (labels : List String) : Table (List String) Value → Option Value
  | [] => none
  | (present, value) :: rest =>
      if Text.Fingerprint.ofTexts present = Text.Fingerprint.ofTexts labels then some value
      else findIn labels rest

def replaceIn (labels : List String) (value : Value) :
    Table (List String) Value → Table (List String) Value
  | [] => []
  | (present, old) :: rest =>
      if Text.Fingerprint.ofTexts present = Text.Fingerprint.ofTexts labels then (present, value) :: rest
      else (present, old) :: replaceIn labels value rest

def find? (samples : Samples Value) (labels : List String) : Option Value :=
  findIn labels samples.entries

/-- Puts a value in the place of the sample that the labels share, or starts a sample. -/
def insert (samples : Samples Value) (labels : List String) (value : Value) : Samples Value where
  entries :=
    match samples.find? labels with
    | some _ => replaceIn labels value samples.entries
    | none => Table.insert samples.entries labels value

theorem findIn_replaceIn (entries : Table (List String) Value) (labels others : List String)
    (value : Value) (held : (findIn labels entries).isSome) :
    findIn others (replaceIn labels value entries) =
      if Text.Fingerprint.ofTexts others = Text.Fingerprint.ofTexts labels then some value
      else findIn others entries := by
  induction entries with
  | nil => simp [findIn] at held
  | cons entry rest ih =>
      obtain ⟨present, old⟩ := entry
      by_cases found : Text.Fingerprint.ofTexts present = Text.Fingerprint.ofTexts labels
      · by_cases asked : Text.Fingerprint.ofTexts others = Text.Fingerprint.ofTexts labels
        · simp [replaceIn, findIn, found, asked]
        · simp [replaceIn, findIn, found, asked, Ne.symm asked]
      · have held : (findIn labels rest).isSome := by simpa [findIn, found] using held
        by_cases asked : Text.Fingerprint.ofTexts others = Text.Fingerprint.ofTexts labels
        · simp [replaceIn, findIn, found, asked, ih held]
        · by_cases here : Text.Fingerprint.ofTexts present = Text.Fingerprint.ofTexts others <;>
            simp [replaceIn, findIn, found, asked, here, ih held]

theorem findIn_insert (entries : Table (List String) Value) (labels others : List String)
    (value : Value) (missing : findIn labels entries = none) :
    findIn others (Table.insert entries labels value) =
      if Text.Fingerprint.ofTexts others = Text.Fingerprint.ofTexts labels then some value
      else findIn others entries := by
  induction entries with
  | nil => simp [Table.insert, findIn, eq_comm]
  | cons entry rest ih =>
      obtain ⟨present, old⟩ := entry
      have apart : Text.Fingerprint.ofTexts present ≠ Text.Fingerprint.ofTexts labels := by
        intro same
        simp [findIn, same] at missing
      have missing : findIn labels rest = none := by simpa [findIn, apart] using missing
      have differs : labels ≠ present := fun same => apart (by rw [same])
      by_cases before : compare labels present = .lt
      · simp [Table.insert, findIn, differs, before, eq_comm]
      · by_cases asked : Text.Fingerprint.ofTexts others = Text.Fingerprint.ofTexts labels
        · simp [Table.insert, findIn, differs, before, apart, asked, ih missing]
        · simp [Table.insert, findIn, differs, before, asked, ih missing]

/-- An insertion shows for the values that share the sample, and for no others. -/
@[simp] theorem find?_insert (samples : Samples Value) (labels others : List String) (value : Value) :
    (samples.insert labels value).find? others =
      if Text.Fingerprint.ofTexts others = Text.Fingerprint.ofTexts labels then some value
      else samples.find? others := by
  unfold insert find?
  cases held : findIn labels samples.entries with
  | none => exact findIn_insert samples.entries labels others value held
  | some old => exact findIn_replaceIn samples.entries labels others value (by rw [held]; rfl)

theorem find?_congr (samples : Samples Value) {labels others : List String}
    (same : Text.Fingerprint.ofTexts others = Text.Fingerprint.ofTexts labels) :
    samples.find? others = samples.find? labels := by
  unfold find?
  induction samples.entries with
  | nil => rfl
  | cons entry rest ih => simp [findIn, same, ih]

end Samples

end Inventory
