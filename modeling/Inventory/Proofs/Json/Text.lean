import Inventory.Json.Reader
import Mathlib.Tactic.Common

/-! Texts come back from their printed form. A character is either escaped, and then stands in the printed
form as a backslash with what the reader takes for it, or its bytes stand for themselves: none of them is a
mark that the reader would stop at, for every byte of a character beyond ASCII has its highest bit set. -/
namespace Inventory

namespace Text

def utf8 (characters : List Char) : List UInt8 :=
  characters.flatMap String.utf8EncodeChar

@[simp] theorem utf8_nil : utf8 [] = [] := rfl

@[simp] theorem utf8_cons (first : Char) (rest : List Char) :
    utf8 (first :: rest) = String.utf8EncodeChar first ++ utf8 rest := rfl

@[simp] theorem utf8_append (front back : List Char) : utf8 (front ++ back) = utf8 front ++ utf8 back :=
  List.flatMap_append

theorem toByteArray_utf8 (characters : List Char) :
    (utf8 characters).toByteArray = (String.ofList characters).toByteArray :=
  String.toByteArray_ofList.symm

theorem toList_toByteArray (bytes : List UInt8) : bytes.toByteArray.toList = bytes := by
  have loop (array : ByteArray) (index : Nat) (taken : List UInt8) :
      ByteArray.toList.loop array index taken = taken.reverse ++ array.data.toList.drop index := by
    fun_induction ByteArray.toList.loop array index taken with
    | case1 index taken inside ih =>
      have here : array.get! index = array.data.toList[index] := by
        simp [ByteArray.get!, getElem!_pos, inside]
      rw [ih, here, List.reverse_cons, List.append_assoc, List.singleton_append,
        List.drop_eq_getElem_cons inside]
    | case2 index taken outside =>
      rw [List.drop_eq_nil_of_le (Nat.le_of_not_lt outside), List.append_nil]
  rw [ByteArray.toList, loop, List.data_toByteArray]
  rfl

theorem toList_toUTF8 (characters : List Char) :
    (String.ofList characters).toUTF8.toList = utf8 characters := by
  rw [String.toUTF8_eq_toByteArray, ← toByteArray_utf8, toList_toByteArray]

theorem fromUTF8?_utf8 (text : String) :
    String.fromUTF8? (ByteArray.mk (utf8 text.toList).toArray) = some text := by
  have bytes : ByteArray.mk (utf8 text.toList).toArray = text.toByteArray := by
    rw [← List.data_toByteArray, toByteArray_utf8, String.ofList_toList]
  rw [bytes, String.fromUTF8?, dif_pos text.isValidUTF8]
  rfl

theorem utf8EncodeChar_ascii {character : Char} (ascii : character.toNat < 128) :
    String.utf8EncodeChar character = [UInt8.ofNat character.toNat] := by
  rw [String.utf8EncodeChar]
  exact if_pos (Nat.le_of_lt_succ ascii)

theorem le_of_mem_utf8EncodeChar {character : Char} (beyond : 128 ≤ character.toNat) {byte : UInt8}
    (member : byte ∈ String.utf8EncodeChar character) : 128 ≤ byte.toNat := by
  have beyond : ¬character.val.toNat ≤ 127 := by
    change 128 ≤ character.val.toNat at beyond
    omega
  have small : character.val.toNat < 1114112 := by
    have valid := character.valid
    simp only [UInt32.isValidChar, Nat.isValidChar] at valid
    omega
  simp only [String.utf8EncodeChar, if_neg beyond] at member
  split at member
  · simp only [List.mem_cons, List.not_mem_nil, or_false] at member
    rcases member with rfl | rfl <;> simp only [UInt8.toNat_ofNat'] <;> omega
  · split at member
    · simp only [List.mem_cons, List.not_mem_nil, or_false] at member
      rcases member with rfl | rfl | rfl <;> simp only [UInt8.toNat_ofNat'] <;> omega
    · simp only [List.mem_cons, List.not_mem_nil, or_false] at member
      rcases member with rfl | rfl | rfl | rfl <;> simp only [UInt8.toNat_ofNat'] <;> omega

end Text

namespace Json.Reader
open Text

/-- A byte within a text that stands for itself. -/
def IsPlain (byte : UInt8) : Prop :=
  byte ≠ quote ∧ byte ≠ backslash ∧ ¬byte < 0x20

theorem textBytes_plain {bytes : Bytes} (plain : ∀ byte ∈ bytes, IsPlain byte) (steps : Nat)
    (taken : List UInt8) (rest : Bytes) :
    textBytes (bytes.length + steps) taken (bytes ++ rest) =
      textBytes steps (bytes.reverse ++ taken) rest := by
  induction bytes generalizing taken with
  | nil => simp
  | cons byte more ih =>
    obtain ⟨noQuote, noEscape, visible⟩ := plain byte List.mem_cons_self
    rw [List.length_cons, Nat.add_right_comm, List.cons_append, textBytes, if_neg noQuote, if_neg noEscape,
      if_neg visible, ih fun other member => plain other (List.mem_cons_of_mem byte member)]
    simp

theorem isPlain_of_mem {character : Char} (visible : 0x20 ≤ character.toNat) (noQuote : character ≠ '"')
    (noEscape : character ≠ '\\') {byte : UInt8} (member : byte ∈ String.utf8EncodeChar character) :
    IsPlain byte := by
  have plain_of_toNat (bound : 0x20 ≤ byte.toNat) (other : byte.toNat ≠ 0x22 ∧ byte.toNat ≠ 0x5C) :
      IsPlain byte := by
    refine ⟨?_, ?_, ?_⟩
    · rintro rfl
      exact other.1 rfl
    · rintro rfl
      exact other.2 rfl
    · rw [UInt8.lt_iff_toNat_lt]
      exact Nat.not_lt_of_le bound
  by_cases ascii : character.toNat < 128
  · rw [utf8EncodeChar_ascii ascii, List.mem_singleton] at member
    have same : byte.toNat = character.toNat := by
      rw [member, UInt8.toNat_ofNat']
      exact Nat.mod_eq_of_lt (Nat.lt_trans ascii (by decide))
    have other (code : Char) (differs : character ≠ code) : byte.toNat ≠ code.toNat := by
      rw [same]
      intro equal
      exact differs (Char.toNat_inj.mp equal)
    exact plain_of_toNat (same ▸ visible) ⟨other '"' noQuote, other '\\' noEscape⟩
  · have high := le_of_mem_utf8EncodeChar (Nat.le_of_not_lt ascii) member
    exact plain_of_toNat (by omega) ⟨by omega, by omega⟩

theorem unit_byte (octet : UInt8) (rest : Bytes) :
    unit (utf8 ('0' :: '0' :: Text.Hex.byte octet) ++ rest) = .ok (octet.toNat, rest) := by
  have digit (value : Fin 16) : String.utf8EncodeChar (Text.Hex.digit value) =
      [UInt8.ofNat (Text.Hex.digit value).toNat] ∧
        Char.ofNat (UInt8.ofNat (Text.Hex.digit value).toNat).toNat = Text.Hex.digit value := by
    revert value
    decide
  have zero : Text.Hex.value? (Char.ofNat (UInt8.toNat 0x30)) = some 0 := rfl
  have whole := UInt8.toNat_lt octet
  have read : hexUnit? 0x30 0x30 (UInt8.ofNat (Text.Hex.digit (Fin.ofNat 16 (octet.toNat / 16))).toNat)
      (UInt8.ofNat (Text.Hex.digit (Fin.ofNat 16 octet.toNat)).toNat) = some octet.toNat := by
    simp only [hexUnit?, zero, (digit _).2, Text.Hex.value?_digit, Option.bind_eq_bind, Option.bind_some,
      Option.pure_def, Fin.val_ofNat, Option.some.injEq]
    change ((0 * 16 + 0) * 16 + octet.toNat / 16 % 16) * 16 + octet.toNat % 16 = octet.toNat
    omega
  simp only [Text.Hex.byte, utf8_cons, (digit _).1, utf8_nil, List.append_nil]
  change unit (0x30 :: 0x30 :: _ :: _ :: rest) = _
  rw [unit, read]

/-- A character is printed as itself or as a backslash and what it is read from. -/
theorem escapeChar_cases (character : Char) :
    (escapeChar character = [character] ∧ ∀ byte ∈ String.utf8EncodeChar character, IsPlain byte) ∨
      ∃ escaped, escapeChar character = '\\' :: escaped ∧
        ∀ rest, escape (utf8 escaped ++ rest) = .ok (String.utf8EncodeChar character, rest) := by
  have named {code : Nat} (same : character.toNat = code) : character = Char.ofNat code := by
    rw [← same, Char.ofNat_toNat]
  unfold escapeChar
  split
  next same =>
    subst same
    exact .inr ⟨['"'], rfl, fun rest => rfl⟩
  next noQuote =>
  split
  next same =>
    subst same
    exact .inr ⟨['\\'], rfl, fun rest => rfl⟩
  next noEscape =>
  split
  next same =>
    rw [named same]
    exact .inr ⟨['b'], rfl, fun rest => rfl⟩
  split
  next same =>
    rw [named same]
    exact .inr ⟨['f'], rfl, fun rest => rfl⟩
  split
  next same =>
    subst same
    exact .inr ⟨['n'], rfl, fun rest => rfl⟩
  split
  next same =>
    subst same
    exact .inr ⟨['r'], rfl, fun rest => rfl⟩
  split
  next same =>
    subst same
    exact .inr ⟨['t'], rfl, fun rest => rfl⟩
  split
  next control =>
    refine .inr ⟨_, rfl, fun rest => ?_⟩
    have octet : (UInt8.ofNat character.toNat).toNat = character.toNat := by
      rw [UInt8.toNat_ofNat']
      exact Nat.mod_eq_of_lt (Nat.lt_trans control (by decide))
    have code := unit_byte (UInt8.ofNat character.toNat) rest
    rw [octet] at code
    have letter : shortEscape? 0x75 = none := rfl
    change escape (0x75 :: (utf8 ('0' :: '0' :: Text.Hex.byte (UInt8.ofNat character.toNat)) ++ rest)) = _
    simp only [escape, letter, if_true, code]
    rw [if_neg (by omega), if_neg (by omega), encodeCode, Char.ofNat_toNat]
  next visible =>
    exact .inl ⟨rfl, fun byte member => isPlain_of_mem (Nat.le_of_not_lt visible) noQuote noEscape member⟩

theorem textBytes_escapeChar (character : Char) :
    ∃ used, used ≤ (utf8 (escapeChar character)).length ∧ ∀ steps taken rest,
      textBytes (used + steps) taken (utf8 (escapeChar character) ++ rest) =
        textBytes steps ((String.utf8EncodeChar character).reverse ++ taken) rest := by
  rcases escapeChar_cases character with ⟨same, plain⟩ | ⟨escaped, same, read⟩
  · rw [same, utf8_cons, utf8_nil, List.append_nil]
    exact ⟨_, Nat.le_refl _, textBytes_plain plain⟩
  · refine ⟨1, ?_, ?_⟩
    · rw [same, utf8_cons, List.length_append]
      exact Nat.le_add_right 1 _
    · intro steps taken rest
      rw [same, Nat.add_comm 1 steps]
      change textBytes (steps + 1) taken (backslash :: (utf8 escaped ++ rest)) = _
      simp only [textBytes, if_neg (show backslash ≠ quote by decide), if_true, read]

theorem textBytes_printed (characters : List Char) {steps : Nat} (taken : List UInt8) (rest : Bytes)
    (enough : (utf8 (characters.flatMap escapeChar)).length < steps) :
    textBytes steps taken (utf8 (characters.flatMap escapeChar) ++ quote :: rest) =
      .ok (taken.reverse ++ utf8 characters, rest) := by
  induction characters generalizing steps taken with
  | nil =>
    obtain ⟨steps, rfl⟩ := Nat.exists_eq_add_of_lt enough
    simp [textBytes]
  | cons character more ih =>
    obtain ⟨used, bound, read⟩ := textBytes_escapeChar character
    rw [List.flatMap_cons, utf8_append, List.length_append] at enough
    obtain ⟨left, rfl⟩ := Nat.exists_eq_add_of_le (show used ≤ steps by omega)
    rw [List.flatMap_cons, utf8_append, List.append_assoc, read, ih _ (by omega)]
    simp

theorem text_printText (value : String) {steps : Nat} (rest : Bytes)
    (enough : (utf8 (printText value)).length ≤ steps + 1) :
    ∃ more, utf8 (printText value) = quote :: more ∧ text steps (more ++ rest) = .ok (value, rest) := by
  refine ⟨utf8 (value.toList.flatMap escapeChar) ++ [quote], by simp [printText]; rfl, ?_⟩
  have shorter : (utf8 (value.toList.flatMap escapeChar)).length < steps := by
    have marks : String.utf8EncodeChar '"' = [quote] := rfl
    simp only [printText, utf8_append, utf8_cons, utf8_nil, marks, List.length_append, List.length_cons,
      List.length_nil] at enough
    omega
  rw [List.append_assoc, List.singleton_append, text, textBytes_printed _ _ _ shorter, List.reverse_nil,
    List.nil_append]
  dsimp only
  rw [fromUTF8?_utf8]

end Json.Reader

end Inventory
