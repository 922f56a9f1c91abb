import Inventory.Json.Shape
import Inventory.Json.Skipper

/-! Reading a record straight from bytes: each field is decoded as its member is met, so a value of the
wrong kind is found before a break in the grammar behind it. Here a field may not come twice. -/
namespace Inventory.Json.Reader

def ofKind (steps levels : Nat) : (kind : Kind) → Bytes → Outcome kind.Carrier
  | .any, input => value steps levels input
  | kind, input =>
      match skipBlanks input with
      | [] => .error .truncated
      | first :: rest =>
          if first = openBracket then .error (.wrongType (.array []) kind.expected)
          else if first = openBrace then .error (.wrongType (.object []) kind.expected)
          else
            match scalar steps first rest with
            | .error flaw => .error flaw
            | .ok (found, rest) =>
                match kind.decode found with
                | .error flaw => .error flaw
                | .ok decoded => .ok (decoded, rest)

/-- The member of a known field from the colon on; none when there is no such field. -/
def draftMember (steps levels : Nat) :
    (fields : List Field) → Draft fields → String → Bytes → Except Flaw (Option (Draft fields × Bytes))
  | [], _, _, _ => .ok none
  | field :: rest, (cell, others), name, input =>
      if field.name = name then
        if cell.isSome then .error (.duplicateField name)
        else
          match afterColon input with
          | .error flaw => .error flaw
          | .ok input =>
              match ofKind steps levels field.kind input with
              | .error flaw => .error flaw
              | .ok (decoded, input) => .ok (some ((some decoded, others), input))
      else
        match draftMember steps levels rest others name input with
        | .error flaw => .error flaw
        | .ok none => .ok none
        | .ok (some (others, input)) => .ok (some ((cell, others), input))

def member (steps levels : Nat) (fields : List Field) (draft : Draft fields) (input : Bytes) :
    Outcome (Draft fields) :=
  match key steps input with
  | .error flaw => .error flaw
  | .ok (name, input) =>
      match draftMember steps levels fields draft name input with
      | .error flaw => .error flaw
      | .ok (some found) => .ok found
      | .ok none =>
          match afterColon input with
          | .error flaw => .error flaw
          | .ok input =>
              match skip steps input with
              | .error flaw => .error flaw
              | .ok rest => .ok (draft, rest)

/-- The members behind the opening brace, and the record when the closing one is met. -/
def recordMembers (levels : Nat) (fields : List Field) :
    Nat → Bool → Draft fields → Bytes → Outcome (Row fields)
  | 0, _, _, _ => .error .truncated
  | steps + 1, isFirst, draft, input =>
      match nextItem closeBrace isFirst input with
      | .error flaw => .error flaw
      | .ok (none, rest) =>
          match Draft.complete fields draft with
          | .error flaw => .error flaw
          | .ok row => .ok (row, rest)
      | .ok (some start, _) =>
          match member steps levels fields draft start with
          | .error flaw => .error flaw
          | .ok (draft, rest) => recordMembers levels fields steps false draft rest

def recordItems (steps levels : Nat) (shape : Shape) :
    (fields : List Field) → Nat → Bytes → Outcome (Row fields)
  | [], _, input =>
      match skipBlanks input with
      | [] => .error .truncated
      | byte :: rest => if byte = closeBracket then .ok ((), rest) else .error .malformed
  | field :: others, index, input =>
      match nextItem closeBracket (index == 0) input with
      | .error flaw => .error flaw
      | .ok (none, _) =>
          match field.fallback with
          | none => .error (shape.tooShort index)
          | some value =>
              match recordItems steps levels shape others (index + 1) input with
              | .error flaw => .error flaw
              | .ok (row, rest) => .ok ((value, row), rest)
      | .ok (some start, _) =>
          match ofKind steps levels field.kind start with
          | .error flaw => .error flaw
          | .ok (value, rest) =>
              match recordItems steps levels shape others (index + 1) rest with
              | .error flaw => .error flaw
              | .ok (row, rest) => .ok ((value, row), rest)

def record (steps levels : Nat) (shape : Shape) (input : Bytes) : Outcome (Row shape.fields) :=
  match skipBlanks input with
  | [] => .error .truncated
  | first :: rest =>
      if first = openBrace then
        match levels with
        | 0 => .error .malformed
        | levels + 1 =>
            recordMembers levels shape.fields steps true (Draft.blank shape.fields) rest
      else if first = openBracket then
        match levels with
        | 0 => .error .malformed
        | levels + 1 => recordItems steps levels shape shape.fields 0 rest
      else
        match scalar steps first rest with
        | .error flaw => .error flaw
        | .ok (found, _) => .error (.wrongType found shape.expected)

end Inventory.Json.Reader

namespace Inventory.Json

def Shape.read (shape : Shape) (bytes : List UInt8) : Except Flaw (Row shape.fields) :=
  Reader.atEnd (Reader.record (stepsFor bytes) nesting shape bytes)

end Inventory.Json
