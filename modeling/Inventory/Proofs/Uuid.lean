import Inventory.Uuid
import Mathlib.Tactic.Common

/-! The forms that an identifier is read in: the one that it is written in, its digits in a row, the written form in
braces and the written form behind `urn:uuid:`. Letters may be of either case. A text is read as an identifier just
where it spells that identifier in one of these forms; so an identifier comes back from what is written. -/
namespace Inventory

namespace Text

theorem toNat_toLower (character : Char) : character.toLower.toNat =
    if 65 ≤ character.toNat ∧ character.toNat ≤ 90 then character.toNat + 32 else character.toNat := by
  unfold Char.toLower
  split
  next upper =>
    obtain ⟨low, high⟩ : 65 ≤ character.toNat ∧ character.toNat ≤ 90 := upper
    rw [if_pos ⟨low, high⟩]
    change (character.val + 32).toNat = character.val.toNat + 32
    rw [UInt32.toNat_add]
    exact Nat.mod_eq_of_lt (show character.toNat + 32 < 2 ^ 32 by omega)
  next other => exact (if_neg other).symm

theorem toLower_eq_iff {character mark : Char} (apart : mark.toNat < 65 ∨ 122 < mark.toNat) :
    character.toLower = mark ↔ character = mark := by
  rw [← Char.toNat_inj, ← Char.toNat_inj (c := character), toNat_toLower]
  split <;> omega

theorem Hex.toNat_digit (value : Fin 16) :
    (digit value).toNat = if value.val < 10 then 0x30 + value.val else 0x57 + value.val := by
  revert value
  decide

theorem Hex.toLower_digit (value : Fin 16) : (digit value).toLower = digit value := by
  revert value
  decide

theorem Hex.value?_eq_some {character : Char} {value : Fin 16} :
    value? character = some value ↔ character.toLower = digit value := by
  have small := value.isLt
  have reads (number : Nat) : some (Fin.ofNat 16 number) = some value ↔ number % 16 = value.val := by
    rw [Option.some_inj, Fin.ext_iff]
    rfl
  rw [← Char.toNat_inj, toNat_toLower, toNat_digit]
  simp only [value?]
  split_ifs <;> simp only [reads, false_iff] <;> omega

end Text

namespace Uuid

theorem length_digits (uuid : Uuid) : (uuid.digits.map Text.Hex.digit).length = 32 := by
  rw [List.length_map, uuid.complete]

theorem length_hyphenate {digits : List Char} (complete : digits.length = 32) :
    (hyphenate digits).length = 36 := by
  simp only [hyphenate, List.length_append, List.length_cons, List.length_take, List.length_drop, complete]
  omega

def groups (text : List Char) : List Char :=
  text.take 8 ++ (text.drop 9).take 4 ++ (text.drop 14).take 4 ++ (text.drop 19).take 4 ++ text.drop 24

theorem groups_hyphenate {digits : List Char} (complete : digits.length = 32) :
    groups (hyphenate digits) = digits := by
  have regroup (start count : Nat) :
      (digits.drop start).take count ++ digits.drop (start + count) = digits.drop start := by
    rw [← List.drop_drop]
    exact List.take_append_drop count (digits.drop start)
  simp [groups, hyphenate, List.drop_append, complete, List.drop_take]
  rw [regroup 16 4, regroup 12 4, regroup 8 4, List.take_append_drop]

theorem map_groups (text : List Char) (change : Char → Char) : (groups text).map change = groups (text.map change) := by
  simp only [groups, List.map_append, List.map_take, List.map_drop]

theorem map_toLower_hyphenate (digits : List Char) :
    (hyphenate digits).map Char.toLower = hyphenate (digits.map Char.toLower) := by
  simp only [hyphenate, List.map_append, List.map_cons, List.map_take, List.map_drop]
  rfl

def Hyphened (text : List Char) : Prop :=
  text.length = 36 ∧ text[8]? = some '-' ∧ text[13]? = some '-' ∧ text[18]? = some '-' ∧ text[23]? = some '-'

instance (text : List Char) : Decidable (Hyphened text) :=
  inferInstanceAs (Decidable (_ ∧ _))

theorem hyphened_hyphenate {digits : List Char} (complete : digits.length = 32) : Hyphened (hyphenate digits) := by
  refine ⟨length_hyphenate complete, ?_, ?_, ?_, ?_⟩ <;> simp [hyphenate, complete]

theorem hyphenate_append {first second third fourth : List Char} (rest : List Char) (eight : first.length = 8)
    (four : second.length = 4) (next : third.length = 4) (last : fourth.length = 4) :
    hyphenate (first ++ second ++ third ++ fourth ++ rest) =
      first ++ '-' :: second ++ '-' :: third ++ '-' :: fourth ++ '-' :: rest := by
  simp (disch := omega) [hyphenate, List.drop_append, eight, four, next, List.drop_of_length_le]

theorem hyphenate_groups {text : List Char} (hyphened : Hyphened text) : hyphenate (groups text) = text := by
  obtain ⟨length, first, second, third, fourth⟩ := hyphened
  have part {start count : Nat} (mark : text[start + count]? = some '-') :
      text.drop start = (text.drop start).take count ++ '-' :: text.drop (start + count + 1) := by
    obtain ⟨inside, same⟩ := List.getElem?_eq_some_iff.mp mark
    have split := List.take_append_drop count (text.drop start)
    rw [List.drop_drop, List.drop_eq_getElem_cons inside, same] at split
    exact split.symm
  have whole : text = text.take 8 ++ '-' :: (text.drop 9).take 4 ++ '-' :: (text.drop 14).take 4 ++
      '-' :: (text.drop 19).take 4 ++ '-' :: text.drop 24 := by
    have parts := @part 0 8 first
    rw [@part 9 4 second, @part 14 4 third, @part 19 4 fourth] at parts
    simpa using parts
  have count {start : Nat} (within : start + 4 ≤ 36) : ((text.drop start).take 4).length = 4 := by
    rw [List.length_take, List.length_drop, length]
    omega
  refine (hyphenate_append (text.drop 24) ?_ (count ?_) (count ?_) (count ?_)).trans whole.symm
  · rw [List.length_take, length]
    rfl
  all_goals omega

theorem plain?_eq_some {text : List Char} {uuid : Uuid} :
    plain? text = some uuid ↔ text.map Char.toLower = uuid.digits.map Text.Hex.digit := by
  have digits (values : List (Fin 16)) :
      text.mapM Text.Hex.value? = some values ↔ text.map Char.toLower = values.map Text.Hex.digit := by
    induction text generalizing values with
    | nil => cases values <;> simp
    | cons first rest ih =>
      cases values with
      | nil => simp [Option.bind_eq_some_iff]
      | cons value others => simp [Option.bind_eq_some_iff, Text.Hex.value?_eq_some, ih]
  rw [plain?, Option.bind_eq_some_iff]
  constructor
  · rintro ⟨values, read, complete⟩
    unfold ofDigits? at complete
    split at complete
    · cases complete
      exact (digits values).mp read
    · cases complete
  · intro same
    exact ⟨uuid.digits, (digits uuid.digits).mpr same, dif_pos uuid.complete⟩

theorem hyphenated?_eq_some {text : List Char} {uuid : Uuid} :
    hyphenated? text = some uuid ↔ text.map Char.toLower = uuid.chars := by
  have reads : hyphenated? text = some uuid ↔ Hyphened text ∧ plain? (groups text) = some uuid := by
    change (if Hyphened text then plain? (groups text) else none) = some uuid ↔ _
    split_ifs with hyphened <;> simp [hyphened]
  rw [reads, plain?_eq_some, map_groups]
  constructor
  · rintro ⟨hyphened, same⟩
    rw [chars, ← same, ← map_groups, ← map_toLower_hyphenate, hyphenate_groups hyphened]
  · intro same
    rw [chars] at same
    have mark {position : Nat} (there : (hyphenate (uuid.digits.map Text.Hex.digit))[position]? = some '-') :
        text[position]? = some '-' := by
      rw [← same, List.getElem?_map, Option.map_eq_some_iff] at there
      obtain ⟨character, found, lower⟩ := there
      rw [found, (Text.toLower_eq_iff (by decide)).mp lower]
    obtain ⟨length, first, second, third, fourth⟩ := hyphened_hyphenate uuid.length_digits
    refine ⟨⟨?_, mark first, mark second, mark third, mark fourth⟩, ?_⟩
    · rw [← List.length_map (f := Char.toLower), same, length]
    · rw [same, groups_hyphenate uuid.length_digits]

/-- How an identifier can be put down. -/
inductive Form where
  | written
  | plain
  | braced
  | urn
deriving DecidableEq, Repr

def Form.chars (uuid : Uuid) : Form → List Char
  | .written => uuid.chars
  | .plain => uuid.digits.map Text.Hex.digit
  | .braced => '\x7b' :: (uuid.chars ++ ['\x7d'])
  | .urn => Uuid.urn ++ uuid.chars

theorem length_chars (uuid : Uuid) : uuid.chars.length = 36 :=
  length_hyphenate uuid.length_digits

theorem braced?_cons {middle : List Char} (long : middle.length = 36) :
    braced? ('\x7b' :: (middle ++ ['\x7d'])) = hyphenated? middle := by
  have inside : (('\x7b' :: (middle ++ ['\x7d'])).drop 1).take 36 = middle := List.take_left' long
  rw [braced?, inside, if_pos]
  simp [List.getLast?_cons, long]

theorem eq_cons_of_braced? {text : List Char} {uuid : Uuid} (read : braced? text = some uuid) :
    ∃ middle, text = '\x7b' :: (middle ++ ['\x7d']) ∧ middle.length = 36 := by
  unfold braced? at read
  split at read
  next braces =>
    obtain ⟨long, opened, closed⟩ := braces
    obtain ⟨front, rfl⟩ := List.getLast?_eq_some_iff.mp closed
    cases front with
    | nil => cases long
    | cons first middle =>
      cases opened
      exact ⟨middle, rfl, by simpa using long⟩
  next => cases read

theorem braced?_eq_some {text : List Char} {uuid : Uuid} :
    braced? text = some uuid ↔ text.map Char.toLower = Form.braced.chars uuid := by
  constructor
  · intro read
    obtain ⟨middle, rfl, long⟩ := eq_cons_of_braced? read
    rw [braced?_cons long, hyphenated?_eq_some] at read
    rw [Form.chars, ← read, List.map_cons, List.map_append]
    rfl
  · intro same
    obtain ⟨first, rest, rfl, opened, others⟩ := List.map_eq_cons_iff.mp same
    obtain ⟨middle, last, rfl, lower, closed⟩ := List.map_eq_append_iff.mp others
    obtain ⟨final, rfl, ended⟩ := List.map_eq_singleton_iff.mp closed
    obtain rfl := (Text.toLower_eq_iff (by decide)).mp opened
    obtain rfl := (Text.toLower_eq_iff (by decide)).mp ended
    have long : middle.length = 36 := by
      rw [← List.length_map (f := Char.toLower), lower, length_chars]
    rw [braced?_cons long]
    exact hyphenated?_eq_some.mpr lower

theorem named?_eq_some {text : List Char} {uuid : Uuid} :
    named? text = some uuid ↔ text.map Char.toLower = Form.urn.chars uuid := by
  constructor
  · intro read
    unfold named? at read
    split at read
    next front =>
      rw [Form.chars, ← front, ← hyphenated?_eq_some.mp read, ← List.map_append, List.take_append_drop]
    next => cases read
  · intro same
    have front : (text.take urn.length).map Char.toLower = urn := by
      rw [List.map_take, same, Form.chars, List.take_left]
    rw [named?, if_pos front, hyphenated?_eq_some, List.map_drop, same, Form.chars, List.drop_left]

/-- The text puts the identifier down in one of its forms, in letters of either case. -/
def Spells (text : String) (uuid : Uuid) : Prop :=
  ∃ form : Form, text.toList.map Char.toLower = form.chars uuid

theorem parse?_eq_some {text : String} {uuid : Uuid} : parse? text = some uuid ↔ Spells text uuid := by
  simp only [parse?]
  constructor
  · intro read
    split_ifs at read
    · exact ⟨.plain, plain?_eq_some.mp read⟩
    · exact ⟨.written, hyphenated?_eq_some.mp read⟩
    · exact ⟨.braced, braced?_eq_some.mp read⟩
    · exact ⟨.urn, named?_eq_some.mp read⟩
  · rintro ⟨form, same⟩
    have length : text.toList.length = (form.chars uuid).length := by
      rw [← same, List.length_map]
    cases form with
    | written =>
      have long : text.toList.length = 36 := length.trans uuid.length_chars
      simpa [long] using hyphenated?_eq_some.mpr same
    | plain =>
      have long : text.toList.length = 32 := by
        rw [length, Form.chars, length_digits]
      simpa [long] using plain?_eq_some.mpr same
    | braced =>
      have long : text.toList.length = 38 := by
        rw [length, Form.chars, List.length_cons, List.length_append, length_chars, List.length_singleton]
      simpa [long] using braced?_eq_some.mpr same
    | urn =>
      have long : text.toList.length = 45 := by
        rw [length, Form.chars, List.length_append, length_chars]
        rfl
      simpa [long] using named?_eq_some.mpr same

theorem map_toLower_chars (uuid : Uuid) : uuid.chars.map Char.toLower = uuid.chars := by
  rw [chars, map_toLower_hyphenate, List.map_map]
  exact congrArg hyphenate (List.map_congr_left fun value _ => Text.Hex.toLower_digit value)

theorem parse?_text (uuid : Uuid) : parse? uuid.text = some uuid := by
  apply parse?_eq_some.mpr
  refine ⟨.written, ?_⟩
  rw [text, String.toList_ofList, map_toLower_chars]
  rfl

/-- Groups of eight, four, four, four and twelve lower-case digits, with hyphens between them. -/
def Canonical (text : String) : Prop :=
  Hyphened text.toList ∧ ∀ character ∈ groups text.toList, character ∈ "0123456789abcdef".toList

theorem canonical_text (uuid : Uuid) : Canonical uuid.text := by
  have lower (value : Fin 16) : Text.Hex.digit value ∈ "0123456789abcdef".toList := by
    revert value
    decide
  rw [Canonical, text, String.toList_ofList, chars, groups_hyphenate uuid.length_digits]
  refine ⟨hyphened_hyphenate uuid.length_digits, ?_⟩
  intro character member
  obtain ⟨value, _, rfl⟩ := List.mem_map.mp member
  exact lower value

end Uuid

end Inventory
