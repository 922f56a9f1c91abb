/-! Hexadecimal digits, lower case when written and of either case when read. -/
namespace Inventory.Text.Hex

def digit (value : Fin 16) : Char :=
  if value.val < 10 then Char.ofNat (0x30 + value.val) else Char.ofNat (0x57 + value.val)

def value? (character : Char) : Option (Fin 16) :=
  let code := character.toNat
  if 0x30 ≤ code ∧ code ≤ 0x39 then some (Fin.ofNat 16 (code - 0x30))
  else if 0x61 ≤ code ∧ code ≤ 0x66 then some (Fin.ofNat 16 (code - 0x57))
  else if 0x41 ≤ code ∧ code ≤ 0x46 then some (Fin.ofNat 16 (code - 0x37))
  else none

@[simp] theorem value?_digit (value : Fin 16) : value? (digit value) = some value := by
  revert value
  decide

def byte (octet : UInt8) : List Char :=
  [digit (Fin.ofNat 16 (octet.toNat / 16)), digit (Fin.ofNat 16 octet.toNat)]

def bytes (octets : List UInt8) : String :=
  String.ofList (octets.flatMap byte)

/-- Every pair of digits is one byte; an odd digit at the end has no meaning. -/
def readBytes? : List Char → Option (List UInt8)
  | [] => some []
  | [_] => none
  | high :: low :: rest => do
      let high ← value? high
      let low ← value? low
      let rest ← readBytes? rest
      pure (UInt8.ofNat (16 * high.val + low.val) :: rest)

def numeral (number : Nat) : String :=
  String.ofList (Nat.toDigits 16 number)

end Inventory.Text.Hex
