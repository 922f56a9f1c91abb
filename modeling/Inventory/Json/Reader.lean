import Inventory.Json.Flaw
import Inventory.Json.Number
import Inventory.Text.Hex

/-! Reading a value from bytes, from the first byte on: the first flaw in the order of the text decides.
Arrays and objects nest at most as deep as the caller allows, texts are checked to be UTF-8 when their
closing mark is reached, and what is merely skipped is held to the grammar alone. The recursive functions
take the number of steps they may make; no byte costs more than two. -/
namespace Inventory.Json.Reader

abbrev Bytes := List UInt8

/-- What was read and the bytes behind it. -/
abbrev Outcome (Value : Type) := Except Flaw (Value × Bytes)

abbrev quote : UInt8 := 0x22
abbrev comma : UInt8 := 0x2C
abbrev minus : UInt8 := 0x2D
abbrev point : UInt8 := 0x2E
abbrev colon : UInt8 := 0x3A
abbrev openBracket : UInt8 := 0x5B
abbrev backslash : UInt8 := 0x5C
abbrev closeBracket : UInt8 := 0x5D
abbrev openBrace : UInt8 := 0x7B
abbrev closeBrace : UInt8 := 0x7D

def isBlank (byte : UInt8) : Bool :=
  byte == 0x20 || byte == 0x0A || byte == 0x0D || byte == 0x09

def isDigit (byte : UInt8) : Bool :=
  0x30 ≤ byte && byte ≤ 0x39

def skipBlanks (input : Bytes) : Bytes :=
  input.dropWhile isBlank

def word : List UInt8 → Bytes → Except Flaw Bytes
  | [], input => .ok input
  | _ :: _, [] => .error .truncated
  | expected :: more, byte :: rest => if byte = expected then word more rest else .error .malformed

def hexUnit? (first second third fourth : UInt8) : Option Nat := do
  let first ← Text.Hex.value? (Char.ofNat first.toNat)
  let second ← Text.Hex.value? (Char.ofNat second.toNat)
  let third ← Text.Hex.value? (Char.ofNat third.toNat)
  let fourth ← Text.Hex.value? (Char.ofNat fourth.toNat)
  pure (((first.val * 16 + second.val) * 16 + third.val) * 16 + fourth.val)

def unit : Bytes → Outcome Nat
  | first :: second :: third :: fourth :: rest =>
      match hexUnit? first second third fourth with
      | some value => .ok (value, rest)
      | none => .error .malformed
  | _ => .error .truncated

def encodeCode (code : Nat) : List UInt8 :=
  String.utf8EncodeChar (Char.ofNat code)

/-- The second escape of a pair, after a high surrogate. -/
def lowHalf (high : Nat) : Bytes → Outcome (List UInt8)
  | [] => .error .truncated
  | [mark] => if mark = backslash then .error .truncated else .error .malformed
  | mark :: letter :: rest =>
      if mark = backslash ∧ letter = 0x75 then
        match unit rest with
        | .error flaw => .error flaw
        | .ok (low, rest) =>
            if 0xDC00 ≤ low ∧ low ≤ 0xDFFF then
              .ok (encodeCode (0x10000 + (high - 0xD800) * 0x400 + (low - 0xDC00)), rest)
            else .error .malformed
      else .error .malformed

def shortEscape? (letter : UInt8) : Option UInt8 :=
  if letter = quote ∨ letter = backslash ∨ letter = 0x2F then some letter
  else if letter = 0x62 then some 0x08
  else if letter = 0x66 then some 0x0C
  else if letter = 0x6E then some 0x0A
  else if letter = 0x72 then some 0x0D
  else if letter = 0x74 then some 0x09
  else none

/-- What stands behind a backslash, as the bytes it means. -/
def escape : Bytes → Outcome (List UInt8)
  | [] => .error .truncated
  | letter :: rest =>
      match shortEscape? letter with
      | some byte => .ok ([byte], rest)
      | none =>
          if letter = 0x75 then
            match unit rest with
            | .error flaw => .error flaw
            | .ok (code, rest) =>
                if 0xDC00 ≤ code ∧ code ≤ 0xDFFF then .error .malformed
                else if 0xD800 ≤ code ∧ code ≤ 0xDBFF then lowHalf code rest
                else .ok (encodeCode code, rest)
          else .error .malformed

/-- The bytes of a text behind its opening mark; those already taken come last first. -/
def textBytes : Nat → List UInt8 → Bytes → Outcome (List UInt8)
  | 0, _, _ => .error .truncated
  | _ + 1, _, [] => .error .truncated
  | steps + 1, taken, byte :: rest =>
      if byte = quote then .ok (taken.reverse, rest)
      else if byte = backslash then
        match escape rest with
        | .error flaw => .error flaw
        | .ok (decoded, rest) => textBytes steps (decoded.reverse ++ taken) rest
      else if byte < 0x20 then .error .malformed
      else textBytes steps (byte :: taken) rest

def text (steps : Nat) (input : Bytes) : Outcome String :=
  match textBytes steps [] input with
  | .error flaw => .error flaw
  | .ok (bytes, rest) =>
      match String.fromUTF8? (ByteArray.mk bytes.toArray) with
      | some text => .ok (text, rest)
      | none => .error .malformed

def digits (input : Bytes) : List Nat :=
  (input.takeWhile isDigit).map fun byte => byte.toNat - 0x30

def ofDigits (digits : List Nat) : Nat :=
  digits.foldl (fun value digit => value * 10 + digit) 0

def someDigits (input : Bytes) : Outcome (List Nat) :=
  match input with
  | [] => .error .truncated
  | byte :: _ =>
      if isDigit byte then .ok (digits input, input.dropWhile isDigit) else .error .malformed

def power (input : Bytes) : Outcome Int :=
  match input with
  | [] => .error .truncated
  | sign :: rest =>
      let negative := sign == minus
      let unsigned := if sign = minus ∨ sign = 0x2B then rest else input
      match someDigits unsigned with
      | .error flaw => .error flaw
      | .ok (digits, rest) =>
          .ok (if negative then -(ofDigits digits : Int) else ofDigits digits, rest)

def numeralPower (numeral : Numeral) (input : Bytes) : Outcome Numeral :=
  match input with
  | [] => .ok (numeral, [])
  | byte :: rest =>
      if byte = 0x65 ∨ byte = 0x45 then
        match power rest with
        | .error flaw => .error flaw
        | .ok (power, rest) => .ok (⟨numeral.negative, numeral.whole, numeral.fraction, some power⟩, rest)
      else .ok (numeral, input)

def numeralFraction (negative : Bool) (whole : List Nat) (input : Bytes) : Outcome Numeral :=
  match input with
  | [] => .ok (⟨negative, whole, [], none⟩, [])
  | byte :: rest =>
      if byte = point then
        match someDigits rest with
        | .error flaw => .error flaw
        | .ok (fraction, rest) => numeralPower ⟨negative, whole, fraction, none⟩ rest
      else numeralPower ⟨negative, whole, [], none⟩ input

/-- A numeral behind its sign; a zero in front of another digit is none. -/
def numeral (negative : Bool) (input : Bytes) : Outcome Numeral :=
  match someDigits input with
  | .error flaw => .error flaw
  | .ok (whole, rest) =>
      if whole.head? = some 0 ∧ 1 < whole.length then .error .malformed
      else numeralFraction negative whole rest

def number (negative : Bool) (input : Bytes) : Outcome Json :=
  match numeral negative input with
  | .error flaw => .error flaw
  | .ok (numeral, rest) =>
      match numeral.value? with
      | some value => .ok (value, rest)
      | none => .error .malformed

def scalar (steps : Nat) (first : UInt8) (rest : Bytes) : Outcome Json :=
  if first = 0x6E then (word [0x75, 0x6C, 0x6C] rest).map fun rest => (.null, rest)
  else if first = 0x74 then (word [0x72, 0x75, 0x65] rest).map fun rest => (.boolean true, rest)
  else if first = 0x66 then
    (word [0x61, 0x6C, 0x73, 0x65] rest).map fun rest => (.boolean false, rest)
  else if first = minus then number true rest
  else if isDigit first then number false (first :: rest)
  else if first = quote then (text steps rest).map fun (text, rest) => (.text text, rest)
  else .error .malformed

/-- Where the next item of a sequence starts: none at the closing byte, and behind a comma unless the
item is the first one. -/
def nextItem (closing : UInt8) (isFirst : Bool) (input : Bytes) : Except Flaw (Option Bytes × Bytes) :=
  match skipBlanks input with
  | [] => .error .truncated
  | byte :: rest =>
      if byte = closing then .ok (none, rest)
      else if isFirst then .ok (some (byte :: rest), [])
      else if byte = comma then
        match skipBlanks rest with
        | [] => .error .truncated
        | next :: more => if next = closing then .error .malformed else .ok (some (next :: more), [])
      else .error .malformed

def key (steps : Nat) (input : Bytes) : Outcome String :=
  match input with
  | [] => .error .truncated
  | byte :: rest => if byte = quote then text steps rest else .error .malformed

def afterColon (input : Bytes) : Except Flaw Bytes :=
  match skipBlanks input with
  | [] => .error .truncated
  | byte :: rest => if byte = colon then .ok rest else .error .malformed

mutual
/-- A value with at most `levels` arrays and objects around its innermost part. -/
def value (steps levels : Nat) (input : Bytes) : Outcome Json :=
  match steps with
  | 0 => .error .truncated
  | steps + 1 =>
      match skipBlanks input with
      | [] => .error .truncated
      | first :: rest =>
          if first = openBracket then
            match levels with
            | 0 => .error .malformed
            | levels + 1 => (items steps levels true rest).map fun (items, rest) => (.array items, rest)
          else if first = openBrace then
            match levels with
            | 0 => .error .malformed
            | levels + 1 =>
                (members steps levels true [] rest).map fun (members, rest) => (.object members, rest)
          else scalar steps first rest

def items (steps levels : Nat) (isFirst : Bool) (input : Bytes) : Outcome (List Json) :=
  match steps with
  | 0 => .error .truncated
  | steps + 1 =>
      match nextItem closeBracket isFirst input with
      | .error flaw => .error flaw
      | .ok (none, rest) => .ok ([], rest)
      | .ok (some start, _) =>
          match value steps levels start with
          | .error flaw => .error flaw
          | .ok (item, rest) =>
              (items steps levels false rest).map fun (items, rest) => (item :: items, rest)

/-- The members behind those already read; of two with one key the later counts. -/
def members (steps levels : Nat) (isFirst : Bool) (sofar : List (String × Json)) (input : Bytes) :
    Outcome (List (String × Json)) :=
  match steps with
  | 0 => .error .truncated
  | steps + 1 =>
      match nextItem closeBrace isFirst input with
      | .error flaw => .error flaw
      | .ok (none, rest) => .ok (sofar, rest)
      | .ok (some start, _) =>
          match key steps start with
          | .error flaw => .error flaw
          | .ok (key, rest) =>
              match afterColon rest with
              | .error flaw => .error flaw
              | .ok rest =>
                  match value steps levels rest with
                  | .error flaw => .error flaw
                  | .ok (value, rest) =>
                      members steps levels false (Table.insert sofar key value) rest
end

def atEnd {Value : Type} (outcome : Outcome Value) : Except Flaw Value :=
  match outcome with
  | .error flaw => .error flaw
  | .ok (value, rest) => if (skipBlanks rest).isEmpty then .ok value else .error .malformed

end Inventory.Json.Reader

namespace Inventory.Json

/-- How many arrays and objects may stand around the innermost value of what is stored and sent. -/
def nesting : Nat :=
  127

def stepsFor (bytes : List UInt8) : Nat :=
  2 * bytes.length + 2

def read (levels : Nat) (bytes : List UInt8) : Except Flaw Json :=
  Reader.atEnd (Reader.value (stepsFor bytes) levels bytes)

def readText (text : String) : Except Flaw Json :=
  read nesting text.toUTF8.toList

end Inventory.Json
