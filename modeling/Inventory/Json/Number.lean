import Inventory.Json.Value

/-! Numerals and their values. An integer that fits in sixty-four bits is exact. Every other numeral is the
product of a significand of at most sixty-four bits and a power of ten, rounded once when the significand
becomes a floating-point number and once when it is scaled. -/
namespace Inventory.Json

/-- A numeral taken apart: its sign and the values of its digits. -/
structure Numeral where
  negative : Bool
  whole : List Nat
  fraction : List Nat := []
  power : Option Int := none

namespace Numeral

def significandLimit : Nat :=
  18446744073709551616

/-- The digits that fit in sixty-four bits after those already taken, and how many were taken. -/
def absorb (significand taken : Nat) : List Nat → Nat × Nat
  | [] => (significand, taken)
  | digit :: rest =>
      if significand * 10 + digit < significandLimit then absorb (significand * 10 + digit) (taken + 1) rest
      else (significand, taken)

/-- The greatest power of ten that is scaled by in one step. -/
def powerStep : Nat :=
  308

def powerOfTen (power : Nat) : Float :=
  Float.ofScientific 1 false power

/-- Scales by a power of ten; none when the result is beyond the greatest floating-point number. -/
def scale? (value : Float) (power : Int) : Option Float :=
  if 0 ≤ power then
    if power.toNat ≤ powerStep then
      let scaled := value * powerOfTen power.toNat
      if scaled.isInf then none else some scaled
    else if value == 0 then some value
    else none
  else down value (-power).toNat
where
  down (value : Float) (power : Nat) : Option Float :=
    if power ≤ powerStep then some (value / powerOfTen power)
    else if value == 0 then some value
    else down (value / powerOfTen powerStep) (power - powerStep)
  termination_by power
  decreasing_by simp only [powerStep] at *; omega

/-- The exponents of numerals are kept within thirty-two bits. -/
def clampPower (power : Int) : Int :=
  max (-2147483648) (min 2147483647 power)

def float? (numeral : Numeral) : Option Float :=
  let (significand, taken) := absorb 0 0 numeral.whole
  let (significand, fractionTaken) := absorb significand 0 numeral.fraction
  let start : Int := (numeral.whole.length - taken : Nat) - (fractionTaken : Nat)
  let magnitude := match numeral.power with
    | none => scale? (Float.ofNat significand) start
    | some power =>
        if power.natAbs < 2147483648 then scale? (Float.ofNat significand) (clampPower (start + power))
        else if significand ≠ 0 ∧ 0 < power then none
        else some 0
  magnitude.map fun value => if numeral.negative then -value else value

def value? (numeral : Numeral) : Option Json :=
  let (significand, taken) := absorb 0 0 numeral.whole
  if numeral.fraction.isEmpty ∧ numeral.power.isNone ∧ taken = numeral.whole.length then
    if !numeral.negative then some (.integer significand)
    else if 0 < significand ∧ significand ≤ 9223372036854775808 then some (.integer (-significand))
    else numeral.float?.map .float
  else numeral.float?.map .float

end Numeral

end Inventory.Json
