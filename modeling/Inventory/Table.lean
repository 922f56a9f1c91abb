/-! Tables in key order. A table lists its entries by ascending key; inserting puts a new key in its place
and replaces the value of a key that is there. Looking a key up after an insertion does not depend on
the order, only on the keys being told apart. -/
namespace Inventory

abbrev Table (Key Value : Type) := List (Key × Value)

namespace Table
variable {Key Value : Type} [DecidableEq Key] [Ord Key]

def find? (table : Table Key Value) (key : Key) : Option Value :=
  match table with
  | [] => none
  | (other, value) :: rest => if key = other then some value else find? rest key

def contains (table : Table Key Value) (key : Key) : Bool :=
  (table.find? key).isSome

def insert (table : Table Key Value) (key : Key) (value : Value) : Table Key Value :=
  match table with
  | [] => [(key, value)]
  | (other, present) :: rest =>
      if key = other then (key, value) :: rest
      else if compare key other = .lt then (key, value) :: (other, present) :: rest
      else (other, present) :: insert rest key value

def values (table : Table Key Value) : List Value :=
  List.map Prod.snd table

def keys (table : Table Key Value) : List Key :=
  List.map Prod.fst table

theorem find?_insert (table : Table Key Value) (key other : Key) (value : Value) :
    (table.insert key value).find? other = if other = key then some value else table.find? other := by
  induction table with
  | nil => simp [insert, find?]
  | cons entry rest ih =>
      obtain ⟨present, old⟩ := entry
      by_cases same : key = present
      · subst same
        by_cases asked : other = key <;> simp [insert, find?, asked]
      · by_cases before : compare key present = .lt
        · by_cases asked : other = key <;> simp [insert, find?, asked, same, before]
        · by_cases asked : other = key
          · subst asked
            simp [insert, find?, same, before, ih]
          · simp [insert, find?, same, before, ih, asked]

@[simp] theorem find?_insert_self (table : Table Key Value) (key : Key) (value : Value) :
    (table.insert key value).find? key = some value := by
  simp [find?_insert]

end Table

end Inventory
