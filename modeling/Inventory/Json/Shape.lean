import Inventory.Json.Flaw

/-! Records with named fields of fixed kinds. A record is decoded from an object, whose members may stand in
any order among unknown ones, or from an array of its fields in the order of declaration. Of several
flaws in an object the first in key order counts, and a missing field only when all present ones are
sound. -/
namespace Inventory.Json

inductive Kind where
  | text
  | natural32
  | natural64
  | integer64
  | any
deriving DecidableEq

abbrev Kind.Carrier : Kind → Type
  | .text => String
  | .natural32 => UInt32
  | .natural64 => Nat
  | .integer64 => Int
  | .any => Json

def Kind.expected : Kind → String
  | .text => "a string"
  | .natural32 => "u32"
  | .natural64 => "u64"
  | .integer64 => "i64"
  | .any => "any value"

def Kind.decode : (kind : Kind) → Json → Except Flaw kind.Carrier
  | .text, .text value => .ok value
  | .natural32, .integer value =>
      if 0 ≤ value ∧ value < 4294967296 then .ok (UInt32.ofNat value.toNat)
      else .error (.outOfRange value "u32")
  | .natural64, .integer value =>
      if 0 ≤ value ∧ value < 18446744073709551616 then .ok value.toNat
      else .error (.outOfRange value "u64")
  | .integer64, .integer value =>
      if -9223372036854775808 ≤ value ∧ value < 9223372036854775808 then .ok value
      else .error (.outOfRange value "i64")
  | .any, value => .ok value
  | kind, value => .error (.wrongType value kind.expected)

def Kind.encode : (kind : Kind) → kind.Carrier → Json
  | .text, value => .text value
  | .natural32, value => .natural value.toNat
  | .natural64, value => .natural value
  | .integer64, value => .integer value
  | .any, value => value

structure Field where
  name : String
  kind : Kind
  /-- The value of a field that is left out; one without has to be there. -/
  fallback : Option kind.Carrier := none

abbrev Row : List Field → Type
  | [] => Unit
  | field :: rest => field.kind.Carrier × Row rest

abbrev Draft : List Field → Type
  | [] => Unit
  | field :: rest => Option field.kind.Carrier × Draft rest

def Draft.blank : (fields : List Field) → Draft fields
  | [] => ()
  | _ :: rest => (none, blank rest)

/-- A member is decoded by the field of its name; an unknown one is passed over. -/
def Draft.put : (fields : List Field) → Draft fields → String → Json → Except Flaw (Draft fields)
  | [], draft, _, _ => .ok draft
  | field :: rest, (cell, others), name, value =>
      if field.name = name then
        match field.kind.decode value with
        | .error flaw => .error flaw
        | .ok decoded => .ok (some decoded, others)
      else
        match put rest others name value with
        | .error flaw => .error flaw
        | .ok others => .ok (cell, others)

def Draft.putAll (fields : List Field) (draft : Draft fields) :
    List (String × Json) → Except Flaw (Draft fields)
  | [] => .ok draft
  | (name, value) :: rest =>
      match put fields draft name value with
      | .error flaw => .error flaw
      | .ok draft => putAll fields draft rest

def Draft.complete : (fields : List Field) → Draft fields → Except Flaw (Row fields)
  | [], _ => .ok ()
  | field :: rest, (cell, others) =>
      match cell <|> field.fallback with
      | none => .error (.missingField field.name)
      | some value =>
          match complete rest others with
          | .error flaw => .error flaw
          | .ok row => .ok (value, row)

structure Shape where
  title : String
  fields : List Field

def Shape.expected (shape : Shape) : String :=
  "struct " ++ shape.title

def Shape.tooShort (shape : Shape) (length : Nat) : Flaw :=
  let count := shape.fields.length
  .wrongLength length (shape.expected ++ " with " ++ toString count ++
    (if count = 1 then " element" else " elements"))

/-- Fills the fields from the items of an array and gives back the items that are left. -/
def Shape.rowOfItems (shape : Shape) :
    (fields : List Field) → Nat → List Json → Except Flaw (Row fields × List Json)
  | [], _, items => .ok ((), items)
  | field :: rest, index, [] =>
      match field.fallback with
      | none => .error (shape.tooShort index)
      | some value =>
          match rowOfItems shape rest (index + 1) [] with
          | .error flaw => .error flaw
          | .ok (row, left) => .ok ((value, row), left)
  | field :: rest, index, item :: items =>
      match field.kind.decode item with
      | .error flaw => .error flaw
      | .ok value =>
          match rowOfItems shape rest (index + 1) items with
          | .error flaw => .error flaw
          | .ok (row, left) => .ok ((value, row), left)

def Shape.decode (shape : Shape) : Json → Except Flaw (Row shape.fields)
  | .object members =>
      match Draft.putAll shape.fields (Draft.blank shape.fields) members with
      | .error flaw => .error flaw
      | .ok draft => Draft.complete shape.fields draft
  | .array items =>
      match shape.rowOfItems shape.fields 0 items with
      | .error flaw => .error flaw
      | .ok (row, []) => .ok row
      | .ok (_, _ :: _) => .error (.wrongLength items.length "fewer elements in array")
  | value => .error (.wrongType value shape.expected)

def Row.members : (fields : List Field) → Row fields → List (String × Json)
  | [], _ => []
  | field :: rest, (value, others) => (field.name, field.kind.encode value) :: members rest others

/-- A record as an object, whose members then stand in key order. -/
def Shape.encode (shape : Shape) (row : Row shape.fields) : Json :=
  ofMembers (Row.members shape.fields row)

end Inventory.Json
