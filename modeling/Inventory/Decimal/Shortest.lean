/-! The fewest decimal digits that read back to a binary floating-point number. The number is taken apart
into a mantissa and a power of two, and a decimal is tested against the interval of reals that round to
it, by cross-multiplying natural numbers. Grids of falling powers of ten are searched for a point inside
that interval: the first grid with a hit has the fewest digits. -/
namespace Inventory.Decimal

/-- The positive number `mantissa * 2 ^ exponent`. -/
structure Binary where
  mantissa : Nat
  exponent : Int
  /-- The gap to the number below is half the gap to the number above. -/
  narrowBelow : Bool

/-- The number with these bits, the sign left aside; not meant for infinities and what is no number. -/
def Binary.ofBits (bits : UInt64) : Binary :=
  let biased := ((bits >>> 52) &&& 0x7FF).toNat
  let fraction := (bits &&& 0xFFFFFFFFFFFFF).toNat
  if biased = 0 then ⟨fraction, -1074, false⟩
  else ⟨0x10000000000000 + fraction, biased - 1075, fraction == 0 && biased > 1⟩

/-- The number `digits * 10 ^ power`. -/
structure Scaled where
  digits : Nat
  power : Int
deriving DecidableEq, Repr

inductive Tie where
  | even
  | up

def compareScaled (decimal : Scaled) (mantissa : Nat) (exponent : Int) : Ordering :=
  compare (decimal.digits * Nat.pow 10 decimal.power.toNat * Nat.pow 2 (-exponent).toNat)
    (mantissa * Nat.pow 2 exponent.toNat * Nat.pow 10 (-decimal.power).toNat)

/-- The decimal lies among the reals that round to the number. -/
def Binary.readsBack (number : Binary) (decimal : Scaled) : Bool :=
  let low := if number.narrowBelow then 4 * number.mantissa - 1 else 4 * number.mantissa - 2
  let high := 4 * number.mantissa + 2
  let closed := number.mantissa % 2 == 0
  let fromLow := compareScaled decimal low (number.exponent - 2)
  let fromHigh := compareScaled decimal high (number.exponent - 2)
  (fromLow == .gt || (closed && fromLow == .eq)) && (fromHigh == .lt || (closed && fromHigh == .eq))

/-- The point of the grid `10 ^ power` next below the number, or the number itself. -/
def Binary.below (number : Binary) (power : Int) : Scaled :=
  { digits := number.mantissa * Nat.pow 2 number.exponent.toNat * Nat.pow 10 (-power).toNat
      / (Nat.pow 2 (-number.exponent).toNat * Nat.pow 10 power.toNat)
    power }

def Binary.onGrid? (number : Binary) (tie : Tie) (power : Int) : Option Scaled :=
  let low := number.below power
  let high : Scaled := ⟨low.digits + 1, power⟩
  let middle : Scaled := ⟨2 * low.digits + 1, power⟩
  let nearer := match compareScaled middle (2 * number.mantissa) number.exponent with
    | .gt => low
    | .lt => high
    | .eq => match tie with
      | .up => high
      | .even => if low.digits % 2 = 0 then low else high
  match number.readsBack low, number.readsBack high with
  | true, true => some nearer
  | true, false => some low
  | false, true => some high
  | false, false => none

def Binary.ceiling (number : Binary) : Int :=
  (number.mantissa.log2 + 1 + number.exponent) * 30103 / 100000 + 1

def Binary.exact (number : Binary) : Scaled :=
  ⟨number.mantissa * Nat.pow 2 number.exponent.toNat * Nat.pow 5 (-number.exponent).toNat,
    min number.exponent 0⟩

def Binary.search (number : Binary) (tie : Tie) : Nat → Int → Scaled
  | 0, _ => number.exact
  | grids + 1, power =>
      match number.onGrid? tie power with
      | some decimal => decimal
      | none => number.search tie grids (power - 1)

/-- Seventeen digits always suffice, and the bound on the leading power is at most two too high. -/
def Binary.shortest (number : Binary) (tie : Tie) : Scaled :=
  number.search tie 20 number.ceiling

end Inventory.Decimal
