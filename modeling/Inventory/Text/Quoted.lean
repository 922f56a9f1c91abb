import Inventory.Text.Hex
import Inventory.Text.Hidden

/-! A text between quotation marks, as messages show it: the mark, the backslash and the usual control
characters have short escapes, and a character that would not be seen is spelled by its number. -/
namespace Inventory.Text

def quotedChar (character : Char) : List Char :=
  if character = '"' then ['\\', '"']
  else if character = '\\' then ['\\', '\\']
  else if character = '\n' then ['\\', 'n']
  else if character = '\r' then ['\\', 'r']
  else if character = '\t' then ['\\', 't']
  else if character.toNat = 0 then ['\\', '0']
  else if Hidden.isHidden character then
    '\\' :: 'u' :: '{' :: (Nat.toDigits 16 character.toNat ++ ['}'])
  else [character]

def quoted (text : String) : String :=
  String.ofList ('"' :: (text.toList.flatMap quotedChar ++ ['"']))

end Inventory.Text
