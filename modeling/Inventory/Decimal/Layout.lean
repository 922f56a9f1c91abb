import Inventory.Decimal.Shortest

/-! How the digits of a floating-point number are laid out: positionally within a range of magnitudes and
with a power of ten outside it. The choices of one format are one `Layout`. -/
namespace Inventory.Decimal

structure Layout where
  tie : Tie
  /-- The least power of the leading digit that is written positionally; none is too small when absent. -/
  least : Option Int
  greatest : Option Int
  /-- A whole number ends in `.0`. -/
  pointed : Bool
  /-- A positive power carries its sign. -/
  signed : Bool
  powerWidth : Nat

def zeros (count : Nat) : List Char :=
  List.replicate count '0'

/-- Digits with the point placed `whole` digits from the left. -/
def positional (layout : Layout) (digits : List Char) (whole : Int) : List Char :=
  if whole ≤ 0 then '0' :: '.' :: (zeros (-whole).toNat ++ digits)
  else
    let whole := whole.toNat
    if digits.length ≤ whole then
      digits ++ zeros (whole - digits.length) ++ (if layout.pointed then ['.', '0'] else [])
    else digits.take whole ++ '.' :: digits.drop whole

def scientific (layout : Layout) (digits : List Char) (leading : Int) : List Char :=
  let fraction := if digits.length ≤ 1 then [] else '.' :: digits.drop 1
  let sign := if leading < 0 then ['-'] else if layout.signed then ['+'] else []
  let power := Nat.toDigits 10 leading.natAbs
  digits.take 1 ++ fraction ++ 'e' :: sign ++ zeros (layout.powerWidth - power.length) ++ power

def magnitude (layout : Layout) (decimal : Scaled) : List Char :=
  let digits := Nat.toDigits 10 decimal.digits
  let leading := digits.length + decimal.power - 1
  if layout.least.all (· ≤ leading) && layout.greatest.all (leading ≤ ·) then
    positional layout digits (leading + 1)
  else scientific layout digits leading

def Layout.render (layout : Layout) (value : Float) : String :=
  let bits := value.toBits
  let negative := bits >>> 63 == 1
  let body :=
    if value.isNaN then "NaN".toList
    else if value.isInf then "inf".toList
    else if bits <<< 1 == 0 then '0' :: (if layout.pointed then ['.', '0'] else [])
    else magnitude layout ((Binary.ofBits bits).shortest layout.tie)
  String.ofList (if negative && !value.isNaN then '-' :: body else body)

end Inventory.Decimal
