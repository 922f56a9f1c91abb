import Inventory.Json.Reader
import Inventory.Proofs.Json.Text
import Mathlib.Tactic.Common

/-! Integers come back from their numerals. A numeral without fraction and power is exact as long as its
value fits in sixty-four bits, for then none of its digits is left out of the significand. -/
namespace Inventory.Json

open Text

namespace Reader

/-- Nothing that would carry a numeral on. -/
def EndsNumeral (rest : Bytes) : Prop :=
  ∀ byte ∈ rest.head?, isDigit byte = false ∧ byte ≠ point ∧ byte ≠ 0x65 ∧ byte ≠ 0x45

theorem endsNumeral_nil : EndsNumeral [] := by
  intro byte none
  cases none

theorem endsNumeral_cons {byte : UInt8} (rest : Bytes)
    (other : isDigit byte = false ∧ byte ≠ point ∧ byte ≠ 0x65 ∧ byte ≠ 0x45) : EndsNumeral (byte :: rest) := by
  intro first same
  cases same
  exact other

def digitsOf (magnitude : Nat) : List Nat :=
  (Nat.toDigits 10 magnitude).map fun digit => digit.toNat - 0x30

theorem toNat_of_isDigit {digit : Char} (is : digit.isDigit = true) :
    0x30 ≤ digit.toNat ∧ digit.toNat ≤ 0x39 := by
  simp only [Char.isDigit, Bool.and_eq_true, decide_eq_true_eq] at is
  exact is

theorem utf8_digits {characters : List Char} (digits : ∀ digit ∈ characters, digit.isDigit = true) :
    utf8 characters = characters.map fun digit => UInt8.ofNat digit.toNat := by
  induction characters with
  | nil => rfl
  | cons digit rest ih =>
    have bounds := toNat_of_isDigit (digits digit List.mem_cons_self)
    rw [utf8_cons, utf8EncodeChar_ascii (by omega), ih fun other member =>
      digits other (List.mem_cons_of_mem digit member)]
    rfl

theorem isDigit_ofNat {digit : Char} (is : digit.isDigit = true) :
    isDigit (UInt8.ofNat digit.toNat) = true ∧ (UInt8.ofNat digit.toNat).toNat = digit.toNat := by
  have bounds := toNat_of_isDigit is
  have small : (UInt8.ofNat digit.toNat).toNat = digit.toNat := by
    rw [UInt8.toNat_ofNat']
    exact Nat.mod_eq_of_lt (by omega)
  refine ⟨?_, small⟩
  simp only [isDigit, Bool.and_eq_true, decide_eq_true_eq, UInt8.le_iff_toNat_le, small]
  exact bounds

theorem someDigits_toDigits (magnitude : Nat) {rest : Bytes} (ends : EndsNumeral rest) :
    someDigits (utf8 (Nat.toDigits 10 magnitude) ++ rest) = .ok (digitsOf magnitude, rest) := by
  have digits (digit : Char) (member : digit ∈ Nat.toDigits 10 magnitude) : digit.isDigit = true :=
    Nat.isDigit_of_mem_toDigits (by decide) (by decide) member
  have all (byte : UInt8) (member : byte ∈ utf8 (Nat.toDigits 10 magnitude)) : isDigit byte = true := by
    rw [utf8_digits digits] at member
    obtain ⟨digit, inside, rfl⟩ := List.mem_map.mp member
    exact (isDigit_ofNat (digits digit inside)).1
  have taken : (utf8 (Nat.toDigits 10 magnitude) ++ rest).takeWhile isDigit =
      utf8 (Nat.toDigits 10 magnitude) := by
    rw [List.takeWhile_append_of_pos all]
    cases rest with
    | nil => simp
    | cons byte more =>
      rw [List.takeWhile_cons_of_neg, List.append_nil]
      exact Bool.eq_false_iff.mp (ends byte rfl).1
  have dropped : (utf8 (Nat.toDigits 10 magnitude) ++ rest).dropWhile isDigit = rest := by
    rw [List.dropWhile_append_of_pos all]
    cases rest with
    | nil => rfl
    | cons byte more =>
      rw [List.dropWhile_cons_of_neg]
      exact Bool.eq_false_iff.mp (ends byte rfl).1
  have values : Reader.digits (utf8 (Nat.toDigits 10 magnitude) ++ rest) = digitsOf magnitude := by
    rw [Reader.digits, taken, utf8_digits digits, List.map_map, digitsOf]
    apply List.map_congr_left
    intro digit member
    change (UInt8.ofNat digit.toNat).toNat - 0x30 = digit.toNat - 0x30
    rw [(isDigit_ofNat (digits digit member)).2]
  cases bytes : utf8 (Nat.toDigits 10 magnitude) ++ rest with
  | nil =>
    rw [List.append_eq_nil_iff, utf8_digits digits, List.map_eq_nil_iff] at bytes
    exact absurd bytes.1 Nat.toDigits_ne_nil
  | cons byte more =>
    have first : isDigit byte = true := by
      apply all
      cases front : utf8 (Nat.toDigits 10 magnitude) with
      | nil =>
        rw [utf8_digits digits, List.map_eq_nil_iff] at front
        exact absurd front Nat.toDigits_ne_nil
      | cons other others =>
        rw [front] at bytes
        cases bytes
        exact List.mem_cons_self
    rw [someDigits, if_pos first, ← bytes, values, dropped]

theorem head?_digitsOf (magnitude : Nat) :
    ¬((digitsOf magnitude).head? = some 0 ∧ 1 < (digitsOf magnitude).length) := by
  have positive (magnitude : Nat) (some : 0 < magnitude) : (digitsOf magnitude).head? ≠ .some 0 := by
    induction magnitude using Nat.strongRecOn with
    | ind magnitude ih =>
      by_cases small : magnitude < 10
      · have digit : ∀ value < 10, 0 < value → (Nat.digitChar value).toNat - 0x30 ≠ 0 := by decide
        rw [digitsOf, Nat.toDigits_of_lt_base small]
        simpa using digit magnitude small some
      · have before := ih (magnitude / 10) (by omega) (by omega)
        have front : digitsOf (magnitude / 10) ≠ [] := List.map_eq_nil_iff.not.mpr Nat.toDigits_ne_nil
        rw [digitsOf, Nat.toDigits_of_base_le (by decide) (Nat.le_of_not_lt small), List.map_append,
          List.head?_append]
        change (digitsOf (magnitude / 10)).head?.or _ ≠ _
        rw [List.head?_eq_some_head front] at before ⊢
        exact before
  rintro ⟨zero, long⟩
  cases magnitude with
  | zero => exact absurd long (by decide)
  | succ magnitude => exact positive (magnitude + 1) (Nat.succ_pos magnitude) zero

theorem foldl_digitsOf (magnitude : Nat) :
    (digitsOf magnitude).foldl (fun value digit => value * 10 + digit) 0 = magnitude := by
  have whole : Nat.ofDigitChars 10 (Nat.toDigits 10 magnitude) 0 = magnitude := Nat.ofDigitChars_ten_toDigits
  rw [Nat.ofDigitChars_eq_foldl] at whole
  rw [digitsOf, List.foldl_map]
  simpa only [Nat.mul_comm 10, show '0'.toNat = 0x30 from rfl] using whole

theorem numeral_toDigits (negative : Bool) (magnitude : Nat) {rest : Bytes} (ends : EndsNumeral rest) :
    numeral negative (utf8 (Nat.toDigits 10 magnitude) ++ rest) =
      .ok (⟨negative, digitsOf magnitude, [], none⟩, rest) := by
  rw [numeral, someDigits_toDigits magnitude ends]
  dsimp only
  rw [if_neg (head?_digitsOf magnitude)]
  cases rest with
  | nil => rfl
  | cons byte more =>
    obtain ⟨_, noPoint, noPower⟩ := ends byte rfl
    have noPower : ¬(byte = 0x65 ∨ byte = 0x45) := not_or.mpr noPower
    simp only [numeralFraction, if_neg noPoint, numeralPower, if_neg noPower]

end Reader

namespace Numeral

theorem absorb_eq {digits : List Nat} {start : Nat} (taken : Nat)
    (fits : digits.foldl (fun value digit => value * 10 + digit) start < significandLimit) :
    absorb start taken digits =
      (digits.foldl (fun value digit => value * 10 + digit) start, taken + digits.length) := by
  have grows (digits : List Nat) (start : Nat) :
      start ≤ digits.foldl (fun value digit => value * 10 + digit) start := by
    induction digits generalizing start with
    | nil => exact Nat.le_refl start
    | cons digit rest ih =>
      have later := ih (start * 10 + digit)
      rw [List.foldl_cons]
      omega
  induction digits generalizing start taken with
  | nil => rfl
  | cons digit rest ih =>
    rw [List.foldl_cons] at fits
    rw [absorb, if_pos (Nat.lt_of_le_of_lt (grows rest _) fits), ih (taken + 1) fits, List.foldl_cons,
      List.length_cons]
    exact congrArg _ (by omega)

theorem value?_digitsOf {magnitude : Nat} (negative : Bool) (fits : magnitude < significandLimit)
    (signed : negative = true → 0 < magnitude ∧ magnitude ≤ 9223372036854775808) :
    value? ⟨negative, Reader.digitsOf magnitude, [], none⟩ =
      some (.integer (if negative then -magnitude else magnitude)) := by
  have whole : absorb 0 0 (Reader.digitsOf magnitude) = (magnitude, (Reader.digitsOf magnitude).length) := by
    rw [absorb_eq 0 (by rw [Reader.foldl_digitsOf]; exact fits), Reader.foldl_digitsOf, Nat.zero_add]
  cases negative with
  | false => simp [value?, whole]
  | true => simp [value?, whole, signed rfl]

end Numeral

namespace Reader

/-- A printed integer is read as that integer, whatever follows that does not carry it on. -/
theorem number_printInteger {value : Int} (fits : Fits value) :
    ∃ first more, utf8 (printInteger value) = first :: more ∧
      (first = minus ∨ isDigit first = true ∧ first ≠ minus) ∧
        ∀ rest, EndsNumeral rest →
          (if first = minus then number true (more ++ rest) else number false (first :: (more ++ rest))) =
            .ok (.integer value, rest) := by
  obtain ⟨least, greatest⟩ := fits
  cases value with
  | ofNat magnitude =>
    have small : magnitude < Numeral.significandLimit := Int.ofNat_lt.mp greatest
    cases bytes : utf8 (Nat.toDigits 10 magnitude) with
    | nil =>
      have first := someDigits_toDigits magnitude endsNumeral_nil
      rw [bytes] at first
      cases first
    | cons first more =>
      have digit : isDigit first = true := by
        have read := someDigits_toDigits magnitude endsNumeral_nil
        rw [bytes, List.append_nil, someDigits] at read
        by_contra none
        rw [if_neg none] at read
        cases read
      have unsigned : first ≠ minus := by
        rintro rfl
        exact absurd digit (by decide)
      refine ⟨first, more, bytes, .inr ⟨digit, unsigned⟩, ?_⟩
      intro rest ends
      rw [if_neg unsigned, ← List.cons_append, ← bytes, number, numeral_toDigits false magnitude ends]
      dsimp only
      rw [Numeral.value?_digitsOf false small fun negative => nomatch negative]
      rfl
  | negSucc magnitude =>
    refine ⟨minus, utf8 (Nat.toDigits 10 (magnitude + 1)), rfl, .inl rfl, ?_⟩
    intro rest ends
    have small : magnitude + 1 ≤ 9223372036854775808 := by omega
    rw [if_pos rfl, number, numeral_toDigits true (magnitude + 1) ends]
    dsimp only
    rw [Numeral.value?_digitsOf true _ fun _ => ⟨Nat.succ_pos magnitude, small⟩]
    · rfl
    · rw [Numeral.significandLimit]
      omega

end Reader

end Inventory.Json
