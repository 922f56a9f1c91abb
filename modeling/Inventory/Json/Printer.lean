import Inventory.Decimal.Layout
import Inventory.Json.Value
import Inventory.Text.Hex

/-! The compact text of a value: no space between tokens, members in key order, and only the quotation
mark, the backslash and the control characters below the space escaped. -/
namespace Inventory.Json

/-- The fewest digits that read back, positional from `0.00001` to below ten to the sixteenth. -/
def floatLayout : Decimal.Layout :=
  { tie := .even, least := some (-5), greatest := some 15, pointed := true, signed := true
    powerWidth := 1 }

def escapeChar (character : Char) : List Char :=
  if character = '"' then ['\\', '"']
  else if character = '\\' then ['\\', '\\']
  else if character.toNat = 0x08 then ['\\', 'b']
  else if character.toNat = 0x0C then ['\\', 'f']
  else if character = '\n' then ['\\', 'n']
  else if character = '\r' then ['\\', 'r']
  else if character = '\t' then ['\\', 't']
  else if character.toNat < 0x20 then
    '\\' :: 'u' :: '0' :: '0' :: Text.Hex.byte (UInt8.ofNat character.toNat)
  else [character]

def printText (text : String) : List Char :=
  '"' :: text.toList.flatMap escapeChar ++ ['"']

def printInteger (value : Int) : List Char :=
  match value with
  | .ofNat magnitude => Nat.toDigits 10 magnitude
  | .negSucc magnitude => '-' :: Nat.toDigits 10 (magnitude + 1)

/-- There is no text for what is no number, nor for the infinities. -/
def printFloat (value : Float) : List Char :=
  if value.isFinite then (floatLayout.render value).toList else "null".toList

mutual
def printChars : Json → List Char
  | .null => "null".toList
  | .boolean true => "true".toList
  | .boolean false => "false".toList
  | .integer value => printInteger value
  | .float value => printFloat value
  | .text value => printText value
  | .array items => '[' :: printItems items
  | .object members => '\x7b' :: printMembers members

def printItems : List Json → List Char
  | [] => [']']
  | item :: rest => printChars item ++ printLaterItems rest

def printLaterItems : List Json → List Char
  | [] => [']']
  | item :: rest => ',' :: (printChars item ++ printLaterItems rest)

def printMembers : List (String × Json) → List Char
  | [] => ['\x7d']
  | (key, value) :: rest => printText key ++ ':' :: (printChars value ++ printLaterMembers rest)

def printLaterMembers : List (String × Json) → List Char
  | [] => ['\x7d']
  | (key, value) :: rest => ',' :: (printText key ++ ':' :: (printChars value ++ printLaterMembers rest))
end

def print (value : Json) : String :=
  String.ofList (printChars value)

end Inventory.Json
