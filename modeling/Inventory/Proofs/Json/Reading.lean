import Inventory.Proofs.Json.Reader
import Inventory.Proofs.Table

/-! What is read is a value that comes back from its text, whatever the text was that it was read from: its integers
fit, the keys of its objects ascend, and it is nested no deeper than was allowed. Only a floating-point number may
change on the way. -/
namespace Inventory.Json

theorem floatFree_array {items : List Json} : FloatFree (.array items) ↔ ∀ item ∈ items, FloatFree item := by
  induction items with
  | nil => simp [FloatFree, FloatFreeItems]
  | cons item rest ih =>
    rw [List.forall_mem_cons, ← ih]
    simp only [FloatFree, FloatFreeItems]

theorem floatFree_object {members : List (String × Json)} :
    FloatFree (.object members) ↔ ∀ member ∈ members, FloatFree member.2 := by
  induction members with
  | nil => simp [FloatFree, FloatFreeMembers]
  | cons member rest ih =>
    rw [List.forall_mem_cons, ← ih]
    simp only [FloatFree, FloatFreeMembers]

namespace Numeral

theorem absorb_lt {significand : Nat} (small : significand < significandLimit) (taken : Nat) (digits : List Nat) :
    (absorb significand taken digits).1 < significandLimit := by
  induction digits generalizing significand taken with
  | nil => exact small
  | cons digit rest ih =>
    rw [absorb]
    split
    next fits => exact ih fits _
    next beyond => exact small

theorem portable_value? {numeral : Numeral} {value : Json} (known : numeral.value? = some value)
    (floatFree : value.FloatFree) : Portable 0 value := by
  have small : (absorb 0 0 numeral.whole).1 < 18446744073709551616 := absorb_lt (by decide) 0 numeral.whole
  have noFloat (made : numeral.float?.map Json.float = some value) : Portable 0 value := by
    obtain ⟨number, -, rfl⟩ := Option.map_eq_some_iff.mp made
    exact floatFree.elim
  have integer {number : Int} (fits : Fits number) (made : some (Json.integer number) = some value) :
      Portable 0 value := by
    cases made
    exact ⟨fits, floatFree, Nat.le_refl 0⟩
  rw [value?] at known
  dsimp only at known
  split at known
  next =>
    split at known
    next => exact integer ⟨by omega, by omega⟩ known
    next =>
      split at known
      next bounded => exact integer ⟨by omega, by omega⟩ known
      next => exact noFloat known
  next => exact noFloat known

end Numeral

namespace Reader

theorem portable_number {negative : Bool} {input rest : Bytes} {value : Json}
    (read : number negative input = .ok (value, rest)) (floatFree : value.FloatFree) : Portable 0 value := by
  rw [number] at read
  split at read
  next => cases read
  next numeral behind _ =>
    split at read
    next known =>
      cases read
      exact Numeral.portable_value? known floatFree
    next => cases read

theorem map_eq_ok {First Second : Type} {outcome : Except Flaw First} {f : First → Second} {value : Second}
    (read : outcome.map f = .ok value) : ∃ first, outcome = .ok first ∧ f first = value := by
  cases outcome with
  | error flaw => cases read
  | ok first =>
    cases read
    exact ⟨first, rfl, rfl⟩

theorem portable_scalar {steps : Nat} {first : UInt8} {input rest : Bytes} {value : Json}
    (read : scalar steps first input = .ok (value, rest)) (floatFree : value.FloatFree) : Portable 0 value := by
  have plain {Found : Type} {outcome : Except Flaw Found} {f : Found → Json × Bytes}
      (read : outcome.map f = .ok (value, rest)) (atom : ∀ found, Portable 0 (f found).1) : Portable 0 value := by
    obtain ⟨found, -, same⟩ := map_eq_ok read
    have here := atom found
    rwa [same] at here
  rw [scalar] at read
  split_ifs at read with isNull isTrue isFalse isMinus digit isText
  · exact plain read fun _ => ⟨trivial, trivial, Nat.le_refl 0⟩
  · exact plain read fun _ => ⟨trivial, trivial, Nat.le_refl 0⟩
  · exact plain read fun _ => ⟨trivial, trivial, Nat.le_refl 0⟩
  · exact portable_number read floatFree
  · exact portable_number read floatFree
  · exact plain read fun _ => ⟨trivial, trivial, Nat.le_refl 0⟩

/-- What the reader finds within so many steps. -/
structure ReadsPortable (steps : Nat) : Prop where
  value : ∀ {levels : Nat} {input rest : Bytes} {value : Json},
    Reader.value steps levels input = .ok (value, rest) → value.FloatFree → Portable levels value
  items : ∀ {levels : Nat} {isFirst : Bool} {input rest : Bytes} {values : List Json},
    Reader.items steps levels isFirst input = .ok (values, rest) →
      ∀ item ∈ values, item.FloatFree → Portable levels item
  members : ∀ {levels : Nat} {isFirst : Bool} {before entries : List (String × Json)} {input rest : Bytes},
    Reader.members steps levels isFirst before input = .ok (entries, rest) →
      (∀ entry ∈ before, entry.2.FloatFree → Portable levels entry.2) →
        (before.map Prod.fst).Pairwise (· < ·) →
          (∀ entry ∈ entries, entry.2.FloatFree → Portable levels entry.2) ∧
            (entries.map Prod.fst).Pairwise (· < ·)

namespace ReadsPortable
variable {steps levels : Nat} {input rest : Bytes}

theorem value_step (within : ReadsPortable steps) {value : Json}
    (read : Reader.value (steps + 1) levels input = .ok (value, rest)) (floatFree : value.FloatFree) :
    Portable levels value := by
  rw [Reader.value] at read
  split at read
  next => cases read
  next first more _ =>
    split_ifs at read with isArray isObject
    · cases levels with
      | zero => cases read
      | succ levels =>
        obtain ⟨⟨items, behind⟩, inside, same⟩ := map_eq_ok read
        cases same
        exact portable_array.mpr fun item member =>
          within.items inside item member (floatFree_array.mp floatFree item member)
    · cases levels with
      | zero => cases read
      | succ levels =>
        obtain ⟨⟨members, behind⟩, inside, same⟩ := map_eq_ok read
        cases same
        obtain ⟨each, ascending⟩ := within.members inside (List.forall_mem_nil _) .nil
        exact portable_object.mpr
          ⟨fun entry member => each entry member (floatFree_object.mp floatFree entry member), ascending⟩
    · exact (portable_scalar read floatFree).mono (Nat.zero_le levels)

theorem items_step (within : ReadsPortable steps) {isFirst : Bool} {items : List Json}
    (read : Reader.items (steps + 1) levels isFirst input = .ok (items, rest)) :
    ∀ item ∈ items, item.FloatFree → Portable levels item := by
  rw [Reader.items] at read
  split at read
  next => cases read
  next =>
    cases read
    intro item member
    cases member
  next =>
    split at read
    next => cases read
    next here =>
      obtain ⟨⟨others, behind⟩, later, same⟩ := map_eq_ok read
      cases same
      exact List.forall_mem_cons.mpr ⟨within.value here, within.items later⟩

theorem members_step (within : ReadsPortable steps) {isFirst : Bool} {before entries : List (String × Json)}
    (read : Reader.members (steps + 1) levels isFirst before input = .ok (entries, rest))
    (each : ∀ entry ∈ before, entry.2.FloatFree → Portable levels entry.2)
    (ascending : (before.map Prod.fst).Pairwise (· < ·)) :
    (∀ entry ∈ entries, entry.2.FloatFree → Portable levels entry.2) ∧
      (entries.map Prod.fst).Pairwise (· < ·) := by
  rw [Reader.members] at read
  split at read
  next => cases read
  next =>
    cases read
    exact ⟨each, ascending⟩
  next =>
    split at read
    next => cases read
    next key _ _ =>
      split at read
      next => cases read
      next =>
        split at read
        next => cases read
        next value _ here =>
          refine within.members read (fun entry member => ?_) (Table.ascending_insert ascending key value)
          rcases Table.mem_of_mem_insert member with rfl | old
          · exact within.value here
          · exact each entry old

end ReadsPortable

theorem readsPortable (steps : Nat) : ReadsPortable steps := by
  induction steps with
  | zero =>
    constructor
    · intro _ _ _ _ read
      cases read
    · intro _ _ _ _ _ read
      cases read
    · intro _ _ _ _ _ _ read
      cases read
  | succ steps ih => exact ⟨ih.value_step, ih.items_step, ih.members_step⟩

end Reader

/-- Unless there is a floating-point number in it, a value that was read comes back from its text. -/
theorem portable_read {levels : Nat} {bytes : List UInt8} {value : Json} (made : read levels bytes = .ok value)
    (floatFree : value.FloatFree) : Portable levels value := by
  rw [read] at made
  cases known : Reader.value (stepsFor bytes) levels bytes with
  | error flaw =>
    rw [known] at made
    cases made
  | ok found =>
    obtain ⟨found, rest⟩ := found
    rw [known, Reader.atEnd] at made
    split at made
    next =>
      cases made
      exact (Reader.readsPortable _).value known floatFree
    next => cases made

theorem readText_print {value : Json} (portable : Portable nesting value) : readText value.print = .ok value := by
  rw [readText, print, Text.toList_toUTF8]
  exact read_wire portable

end Inventory.Json
