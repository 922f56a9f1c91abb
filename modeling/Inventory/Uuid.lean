import Inventory.Text.Hex

/-! Universally unique identifiers as thirty-two hexadecimal digits. One is written hyphenated in lower
case; it is read in that form, without hyphens, in braces or behind `urn:uuid:`, in either case. -/
namespace Inventory

structure Uuid where
  digits : List (Fin 16)
  complete : digits.length = 32
deriving DecidableEq

namespace Uuid

instance : Ord Uuid where
  compare first second := compare (first.digits.map Fin.val) (second.digits.map Fin.val)

def ofDigits? (digits : List (Fin 16)) : Option Uuid :=
  if complete : digits.length = 32 then some ⟨digits, complete⟩ else none

def hyphenate (digits : List Char) : List Char :=
  digits.take 8 ++ '-' :: (digits.drop 8).take 4 ++ '-' :: (digits.drop 12).take 4 ++
    '-' :: (digits.drop 16).take 4 ++ '-' :: digits.drop 20

def chars (uuid : Uuid) : List Char :=
  hyphenate (uuid.digits.map Text.Hex.digit)

def text (uuid : Uuid) : String :=
  String.ofList uuid.chars

def plain? (text : List Char) : Option Uuid :=
  (text.mapM Text.Hex.value?).bind ofDigits?

def hyphenated? (text : List Char) : Option Uuid :=
  if text.length = 36 ∧ text[8]? = some '-' ∧ text[13]? = some '-' ∧ text[18]? = some '-' ∧
      text[23]? = some '-' then
    plain? (text.take 8 ++ (text.drop 9).take 4 ++ (text.drop 14).take 4 ++ (text.drop 19).take 4 ++
      text.drop 24)
  else none

def braced? (text : List Char) : Option Uuid :=
  if text.length = 38 ∧ text.head? = some '\x7b' ∧ text.getLast? = some '\x7d' then
    hyphenated? ((text.drop 1).take 36)
  else none

def urn : List Char :=
  "urn:uuid:".toList

def named? (text : List Char) : Option Uuid :=
  if (text.take urn.length).map Char.toLower = urn then hyphenated? (text.drop urn.length) else none

def parse? (text : String) : Option Uuid :=
  let text := text.toList
  if text.length = 32 then plain? text
  else if text.length = 36 then hyphenated? text
  else if text.length = 38 then braced? text
  else if text.length = 45 then named? text
  else none

end Uuid

end Inventory
