import Inventory.Proofs.Json.Numeral
import Inventory.Proofs.Json.Shape
import Mathlib.Tactic.Common

/-! Values come back from their text. A reader that has twice as many steps as a value has bytes reads it and
stops behind it, wherever the value stands. The members of an object come in key order, so each is put behind
those before it. -/
namespace Inventory

namespace Table
variable {Value : Type}

theorem compare_eq_lt {first second : String} : compare first second = .lt ↔ first < second :=
  compareOfLessAndEq_eq_lt

theorem insert_last {table : Table String Value} {key : String} (last : ∀ other ∈ table.keys, other < key)
    (value : Value) : table.insert key value = table ++ [(key, value)] := by
  induction table with
  | nil => rfl
  | cons entry rest ih =>
    obtain ⟨present, old⟩ := entry
    have before : present < key := last present List.mem_cons_self
    have other : key ≠ present := fun same => String.lt_irrefl key (same ▸ before)
    have above : compare key present ≠ .lt := fun below =>
      String.lt_asymm before (compare_eq_lt.mp below)
    rw [insert, if_neg other, if_neg above, ih fun later member => last later (List.mem_cons_of_mem _ member)]
    rfl

theorem ascending_insert {table : Table String Value} (ascending : table.keys.Pairwise (· < ·)) (key : String)
    (value : Value) : (table.insert key value).keys.Pairwise (· < ·) := by
  induction table with
  | nil => exact List.pairwise_singleton _ _
  | cons entry rest ih =>
    obtain ⟨present, old⟩ := entry
    obtain ⟨least, others⟩ := List.pairwise_cons.mp ascending
    rw [insert]
    split
    next same =>
      subst same
      exact List.pairwise_cons.mpr ⟨least, others⟩
    next other =>
      split
      next below =>
        have lower := compare_eq_lt.mp below
        refine List.pairwise_cons.mpr ⟨fun later member => ?_, ascending⟩
        rcases List.mem_cons.mp member with rfl | member
        · exact lower
        · exact String.lt_trans lower (least later member)
      next notBelow =>
        have above : present < key :=
          Std.lt_of_le_of_ne (String.not_lt.mp fun below => notBelow (compare_eq_lt.mpr below)) (Ne.symm other)
        refine List.pairwise_cons.mpr ⟨fun later member => ?_, ih others⟩
        rcases mem_keys_insert.mp member with rfl | member
        · exact above
        · exact least later member

end Table

namespace Json
open Text

/-- Values that come back from their text when no more than so many others may stand around them. -/
@[mk_iff]
structure Portable (levels : Nat) (value : Json) : Prop where
  proper : Proper value
  floatFree : FloatFree value
  depth_le : depth value ≤ levels

theorem Portable.mono {levels more : Nat} {value : Json} (portable : Portable levels value) (le : levels ≤ more) :
    Portable more value :=
  ⟨portable.proper, portable.floatFree, Nat.le_trans portable.depth_le le⟩

theorem portable_array {levels : Nat} {items : List Json} :
    Portable (levels + 1) (.array items) ↔ ∀ item ∈ items, Portable levels item := by
  induction items with
  | nil => simp [portable_iff, Proper, ProperItems, FloatFree, FloatFreeItems, depth, depthOfItems]
  | cons item rest ih =>
    rw [List.forall_mem_cons, ← ih]
    simp only [portable_iff, Proper, ProperItems, FloatFree, FloatFreeItems, depth, depthOfItems]
    grind

theorem portable_object {levels : Nat} {members : List (String × Json)} :
    Portable (levels + 1) (.object members) ↔
      (∀ member ∈ members, Portable levels member.2) ∧ (members.map Prod.fst).Pairwise (· < ·) := by
  have inside (members : List (String × Json)) :
      (ProperMembers members ∧ FloatFreeMembers members ∧ depthOfMembers members ≤ levels) ↔
        ∀ member ∈ members, Portable levels member.2 := by
    induction members with
    | nil => simp [ProperMembers, FloatFreeMembers, depthOfMembers]
    | cons member rest ih =>
      rw [List.forall_mem_cons, ← ih]
      simp only [portable_iff, ProperMembers, FloatFreeMembers, depthOfMembers]
      grind
  rw [← inside]
  simp only [portable_iff, Proper, FloatFree, depth]
  grind

def wire (value : Json) : List UInt8 :=
  utf8 (printChars value)

namespace Reader

theorem skipBlanks_cons {first : UInt8} (visible : isBlank first = false) (rest : Bytes) :
    skipBlanks (first :: rest) = first :: rest := by
  rw [skipBlanks, List.dropWhile_cons_of_neg]
  simpa using visible

theorem ne_of_isDigit {byte other : UInt8} (digit : isDigit byte = true) (none : isDigit other = false) :
    byte ≠ other := by
  rintro rfl
  rw [digit] at none
  cases none

structure Begins (first : UInt8) : Prop where
  visible : isBlank first = false
  noClosing : first ≠ closeBracket

/-- The bytes of a value that is neither array nor object, and how they are read. -/
structure Spelled (value : Json) (steps : Nat) (first : UInt8) (more : Bytes) : Prop where
  wire_eq : value.wire = first :: more
  begins : Begins first
  noArray : first ≠ openBracket
  noObject : first ≠ openBrace
  scalar_eq : ∀ rest, EndsNumeral rest → scalar steps first (more ++ rest) = .ok (value, rest)

theorem spelled_integer {value : Int} (fits : Fits value) (steps : Nat) :
    ∃ first more, Spelled (.integer value) steps first more := by
  obtain ⟨first, more, bytes, start, read⟩ := number_printInteger fits
  have other (byte : UInt8) (noMinus : byte ≠ minus) (noDigit : isDigit byte = false) : first ≠ byte := by
    rcases start with rfl | ⟨digit, _⟩
    · exact noMinus.symm
    · exact ne_of_isDigit digit noDigit
  have visible : isBlank first = false := by
    simp only [isBlank, Bool.or_eq_false_iff, beq_eq_false_iff_ne]
    exact ⟨⟨⟨other _ (by decide) (by decide), other _ (by decide) (by decide)⟩,
      other _ (by decide) (by decide)⟩, other _ (by decide) (by decide)⟩
  refine ⟨first, more, bytes, ⟨visible, other _ (by decide) (by decide)⟩, other _ (by decide) (by decide),
    other _ (by decide) (by decide), ?_⟩
  intro rest ends
  have answer := read rest ends
  rw [scalar, if_neg (other 0x6E (by decide) (by decide)), if_neg (other 0x74 (by decide) (by decide)),
    if_neg (other 0x66 (by decide) (by decide))]
  rcases start with rfl | ⟨digit, unsigned⟩
  · exact answer
  · rw [if_neg unsigned] at answer ⊢
    rw [if_pos digit]
    exact answer

theorem spelled_text (value : String) {steps : Nat} (enough : (wire (.text value)).length ≤ steps + 1) :
    ∃ first more, Spelled (.text value) steps first more := by
  obtain ⟨more, bytes, _⟩ := text_printText value [] enough
  refine ⟨quote, more, bytes, ⟨rfl, by decide⟩, by decide, by decide, ?_⟩
  intro rest ends
  obtain ⟨others, again, read⟩ := text_printText value rest enough
  obtain rfl := (List.cons.inj (again.symm.trans bytes)).2
  change (text steps (others ++ rest)).map _ = _
  rw [read]
  rfl

theorem spelled {value : Json} (portable : Portable 0 value) {steps : Nat}
    (enough : value.wire.length ≤ steps + 1) : ∃ first more, Spelled value steps first more := by
  cases value with
  | null => exact ⟨0x6E, _, rfl, ⟨rfl, by decide⟩, by decide, by decide, fun rest ends => rfl⟩
  | boolean value =>
    cases value with
    | true => exact ⟨0x74, _, rfl, ⟨rfl, by decide⟩, by decide, by decide, fun rest ends => rfl⟩
    | false => exact ⟨0x66, _, rfl, ⟨rfl, by decide⟩, by decide, by decide, fun rest ends => rfl⟩
  | integer value => exact spelled_integer portable.proper steps
  | text value => exact spelled_text value enough
  | float value => exact portable.floatFree.elim
  | array items =>
    have deep := portable.depth_le
    simp [depth] at deep
  | object members =>
    have deep := portable.depth_le
    simp [depth] at deep

theorem nextItem_closing {closing : UInt8} (visible : isBlank closing = false) (isFirst : Bool) (rest : Bytes) :
    nextItem closing isFirst (closing :: rest) = .ok (none, rest) := by
  rw [nextItem, skipBlanks_cons visible]
  exact if_pos rfl

theorem nextItem_first {closing first : UInt8} (visible : isBlank first = false) (other : first ≠ closing)
    (rest : Bytes) : nextItem closing true (first :: rest) = .ok (some (first :: rest), []) := by
  rw [nextItem, skipBlanks_cons visible]
  dsimp only
  rw [if_neg other, if_pos rfl]

theorem nextItem_later {closing first : UInt8} (visible : isBlank first = false) (other : first ≠ closing)
    (noComma : comma ≠ closing) (rest : Bytes) :
    nextItem closing false (comma :: first :: rest) = .ok (some (first :: rest), []) := by
  rw [nextItem, skipBlanks_cons rfl]
  dsimp only
  rw [if_neg noComma, if_neg Bool.false_ne_true, if_pos rfl, skipBlanks_cons visible]
  exact if_neg other

theorem afterColon_colon (rest : Bytes) : afterColon (colon :: rest) = .ok rest := rfl

/-- A value is read from its text where so many others may stand around it. -/
def ReadsBack (levels : Nat) (value : Json) : Prop :=
  (∃ first more, value.wire = first :: more ∧ Begins first) ∧
    ∀ steps rest, 2 * value.wire.length ≤ steps → EndsNumeral rest →
      Reader.value steps levels (value.wire ++ rest) = .ok (value, rest)

theorem key_printText (key : String) {steps : Nat} (rest : Bytes)
    (enough : (utf8 (printText key)).length ≤ steps + 1) :
    ∃ more, utf8 (printText key) = quote :: more ∧ Reader.key steps (quote :: (more ++ rest)) = .ok (key, rest) := by
  obtain ⟨more, bytes, read⟩ := text_printText key rest enough
  exact ⟨more, bytes, by rw [Reader.key, if_pos rfl, read]⟩

section Items
variable {levels : Nat}

theorem endsNumeral_laterItems (values : List Json) (rest : Bytes) :
    EndsNumeral (utf8 (printLaterItems values) ++ rest) := by
  cases values <;> exact endsNumeral_cons _ (by decide)

theorem items_step {item : Json} (back : ReadsBack levels item) {values : List Json} {isFirst : Bool}
    {input skipped rest : Bytes} {steps : Nat} (enough : 2 * item.wire.length ≤ steps)
    (next : nextItem closeBracket isFirst input =
      .ok (some (item.wire ++ (utf8 (printLaterItems values) ++ rest)), skipped))
    (others : items steps levels false (utf8 (printLaterItems values) ++ rest) = .ok (values, rest)) :
    items (steps + 1) levels isFirst input = .ok (item :: values, rest) := by
  rw [items, next]
  dsimp only
  rw [back.2 steps _ enough (endsNumeral_laterItems values rest)]
  dsimp only
  rw [others]
  rfl

theorem items_printLaterItems {values : List Json} (back : ∀ item ∈ values, ReadsBack levels item)
    {steps : Nat} (rest : Bytes) (enough : 2 * (utf8 (printLaterItems values)).length ≤ steps) :
    items steps levels false (utf8 (printLaterItems values) ++ rest) = .ok (values, rest) := by
  induction values generalizing steps with
  | nil =>
    obtain ⟨steps, rfl⟩ := Nat.exists_eq_add_of_le' (show 1 ≤ steps from Nat.le_of_lt enough)
    change items (steps + 1) levels false (closeBracket :: rest) = _
    rw [items, nextItem_closing rfl]
  | cons item more ih =>
    have known := back item List.mem_cons_self
    obtain ⟨first, others, bytes, begins⟩ := known.1
    have whole : utf8 (printLaterItems (item :: more)) = comma :: (item.wire ++ utf8 (printLaterItems more)) := by
      rw [printLaterItems, utf8_cons, utf8_append]
      rfl
    rw [whole, List.length_cons, List.length_append] at enough
    obtain ⟨steps, rfl⟩ := Nat.exists_eq_add_of_le' (show 1 ≤ steps by omega)
    have next : nextItem closeBracket false (utf8 (printLaterItems (item :: more)) ++ rest) =
        .ok (some (item.wire ++ (utf8 (printLaterItems more) ++ rest)), []) := by
      rw [whole, List.cons_append, List.append_assoc, bytes, List.cons_append]
      exact nextItem_later begins.visible begins.noClosing (by decide) _
    exact items_step known (by omega) next
      (ih (fun other member => back other (List.mem_cons_of_mem item member)) (by omega))

theorem items_printItems {values : List Json} (back : ∀ item ∈ values, ReadsBack levels item)
    {steps : Nat} (rest : Bytes) (enough : 2 * (utf8 (printItems values)).length ≤ steps) :
    items steps levels true (utf8 (printItems values) ++ rest) = .ok (values, rest) := by
  obtain ⟨steps, rfl⟩ := Nat.exists_eq_add_of_le' (show 1 ≤ steps by
    cases values with
    | nil => exact Nat.le_of_lt enough
    | cons item more =>
      obtain ⟨first, others, bytes, _⟩ := (back item List.mem_cons_self).1
      change 2 * (utf8 (printChars item ++ printLaterItems more)).length ≤ steps at enough
      rw [utf8_append, ← wire, bytes, List.length_append, List.length_cons] at enough
      omega)
  cases values with
  | nil =>
    change items (steps + 1) levels true (closeBracket :: rest) = _
    rw [items, nextItem_closing rfl]
  | cons item more =>
    have known := back item List.mem_cons_self
    obtain ⟨first, others, bytes, begins⟩ := known.1
    have whole : utf8 (printItems (item :: more)) = item.wire ++ utf8 (printLaterItems more) := by
      rw [printItems, utf8_append]
      rfl
    have room : 1 ≤ item.wire.length ∧ 1 ≤ (utf8 (printLaterItems more)).length := by
      constructor
      · rw [bytes]
        exact Nat.le_add_left ..
      · cases more <;> exact Nat.le_add_left ..
    rw [whole, List.length_append] at enough
    have next : nextItem closeBracket true (utf8 (printItems (item :: more)) ++ rest) =
        .ok (some (item.wire ++ (utf8 (printLaterItems more) ++ rest)), []) := by
      rw [whole, List.append_assoc, bytes, List.cons_append]
      exact nextItem_first begins.visible begins.noClosing _
    exact items_step known (by omega) next
      (items_printLaterItems (fun other member => back other (List.mem_cons_of_mem item member)) rest
        (by omega))

end Items

section Members
variable {levels : Nat}

theorem endsNumeral_laterMembers (entries : List (String × Json)) (rest : Bytes) :
    EndsNumeral (utf8 (printLaterMembers entries) ++ rest) := by
  rcases entries with _ | ⟨⟨key, value⟩, more⟩ <;> exact endsNumeral_cons _ (by decide)

def memberBytes (entry : String × Json) : Bytes :=
  utf8 (printText entry.1) ++ colon :: entry.2.wire

theorem memberBytes_cons (entry : String × Json) :
    ∃ more, memberBytes entry = quote :: more ∧ 1 ≤ (memberBytes entry).length := by
  obtain ⟨others, bytes, _⟩ := text_printText entry.1 [] (Nat.le_succ _)
  refine ⟨others ++ colon :: entry.2.wire, by rw [memberBytes, bytes, List.cons_append], ?_⟩
  rw [memberBytes, bytes]
  exact Nat.le_add_left ..

theorem utf8_printLaterMembers (entry : String × Json) (more : List (String × Json)) :
    utf8 (printLaterMembers (entry :: more)) =
      comma :: (memberBytes entry ++ utf8 (printLaterMembers more)) := by
  obtain ⟨key, value⟩ := entry
  simp only [printLaterMembers, utf8_cons, utf8_append, memberBytes, List.append_assoc]
  rfl

theorem printLaterMembers_length (entries : List (String × Json)) :
    1 ≤ (utf8 (printLaterMembers entries)).length := by
  cases entries with
  | nil => exact Nat.le_refl 1
  | cons entry more =>
    rw [utf8_printLaterMembers]
    exact Nat.le_add_left ..

theorem utf8_printMembers (entry : String × Json) (more : List (String × Json)) :
    utf8 (printMembers (entry :: more)) = memberBytes entry ++ utf8 (printLaterMembers more) := by
  obtain ⟨key, value⟩ := entry
  simp only [printMembers, utf8_cons, utf8_append, memberBytes, List.append_assoc]
  rfl

theorem nextItem_laterMember (entry : String × Json) (more : List (String × Json)) (rest : Bytes) :
    nextItem closeBrace false (utf8 (printLaterMembers (entry :: more)) ++ rest) =
      .ok (some (memberBytes entry ++ (utf8 (printLaterMembers more) ++ rest)), []) := by
  obtain ⟨others, bytes, _⟩ := memberBytes_cons entry
  rw [utf8_printLaterMembers, List.cons_append, List.append_assoc, bytes, List.cons_append]
  exact nextItem_later rfl (by decide) (by decide) _

theorem nextItem_firstMember (entry : String × Json) (more : List (String × Json)) (rest : Bytes) :
    nextItem closeBrace true (utf8 (printMembers (entry :: more)) ++ rest) =
      .ok (some (memberBytes entry ++ (utf8 (printLaterMembers more) ++ rest)), []) := by
  obtain ⟨others, bytes, _⟩ := memberBytes_cons entry
  rw [utf8_printMembers, List.append_assoc, bytes, List.cons_append]
  exact nextItem_first rfl (by decide) _

theorem members_step {entry : String × Json} (back : ReadsBack levels entry.2)
    {before more : List (String × Json)} (last : ∀ key ∈ before.map Prod.fst, key < entry.1)
    {isFirst : Bool} {input skipped rest : Bytes} {steps : Nat}
    (enough : 2 * (memberBytes entry).length ≤ steps)
    (next : nextItem closeBrace isFirst input =
      .ok (some (memberBytes entry ++ (utf8 (printLaterMembers more) ++ rest)), skipped)) :
    members (steps + 1) levels isFirst before input =
      members steps levels false (before ++ [entry]) (utf8 (printLaterMembers more) ++ rest) := by
  obtain ⟨name, value⟩ := entry
  rw [memberBytes, List.length_append, List.length_cons] at enough
  dsimp only at enough
  obtain ⟨others, bytes, read⟩ := key_printText name
    (colon :: (value.wire ++ (utf8 (printLaterMembers more) ++ rest))) (show _ ≤ steps + 1 by omega)
  rw [memberBytes, bytes, List.append_assoc, List.cons_append, List.cons_append] at next
  rw [members, next]
  dsimp only
  rw [read]
  dsimp only
  rw [afterColon_colon]
  dsimp only
  rw [(show ReadsBack levels value from back).2 steps _ (by omega) (endsNumeral_laterMembers more rest)]
  dsimp only
  rw [Table.insert_last last]

theorem members_printLaterMembers {entries : List (String × Json)}
    (back : ∀ entry ∈ entries, ReadsBack levels entry.2) (before : List (String × Json))
    (ascending : ((before ++ entries).map Prod.fst).Pairwise (· < ·)) {steps : Nat} (rest : Bytes)
    (enough : 2 * (utf8 (printLaterMembers entries)).length ≤ steps) :
    members steps levels false before (utf8 (printLaterMembers entries) ++ rest) =
      .ok (before ++ entries, rest) := by
  induction entries generalizing before steps with
  | nil =>
    obtain ⟨steps, rfl⟩ := Nat.exists_eq_add_of_le' (show 1 ≤ steps from Nat.le_of_lt enough)
    change members (steps + 1) levels false before (closeBrace :: rest) = _
    rw [members, nextItem_closing rfl, List.append_nil]
  | cons entry more ih =>
    rw [utf8_printLaterMembers, List.length_cons, List.length_append] at enough
    obtain ⟨steps, rfl⟩ := Nat.exists_eq_add_of_le' (show 1 ≤ steps by omega)
    have last (key : String) (member : key ∈ before.map Prod.fst) : key < entry.1 := by
      rw [List.map_append, List.pairwise_append] at ascending
      exact ascending.2.2 key member entry.1 List.mem_cons_self
    rw [members_step (back entry List.mem_cons_self) last (by omega) (nextItem_laterMember entry more rest),
      List.append_cons before entry more]
    rw [List.append_cons] at ascending
    apply ih (fun other member => back other (List.mem_cons_of_mem entry member)) _ ascending
    omega

theorem members_printMembers {entries : List (String × Json)}
    (back : ∀ entry ∈ entries, ReadsBack levels entry.2)
    (ascending : (entries.map Prod.fst).Pairwise (· < ·)) {steps : Nat} (rest : Bytes)
    (enough : 2 * (utf8 (printMembers entries)).length ≤ steps) :
    members steps levels true [] (utf8 (printMembers entries) ++ rest) = .ok (entries, rest) := by
  cases entries with
  | nil =>
    obtain ⟨steps, rfl⟩ := Nat.exists_eq_add_of_le' (show 1 ≤ steps from Nat.le_of_lt enough)
    change members (steps + 1) levels true [] (closeBrace :: rest) = _
    rw [members, nextItem_closing rfl]
  | cons entry more =>
    obtain ⟨_, _, first⟩ := memberBytes_cons entry
    have room := printLaterMembers_length more
    rw [utf8_printMembers, List.length_append] at enough
    obtain ⟨steps, rfl⟩ := Nat.exists_eq_add_of_le' (show 1 ≤ steps by omega)
    have last (key : String) (member : key ∈ ([] : List (String × Json)).map Prod.fst) : key < entry.1 :=
      (List.not_mem_nil member).elim
    rw [members_step (back entry List.mem_cons_self) last (by omega) (nextItem_firstMember entry more rest)]
    exact members_printLaterMembers (fun other member => back other (List.mem_cons_of_mem entry member))
      [entry] ascending rest (by omega)

end Members

theorem readsBack_array {levels : Nat} {values : List Json} (back : ∀ item ∈ values, ReadsBack levels item) :
    ReadsBack (levels + 1) (.array values) := by
  have bytes : wire (.array values) = openBracket :: utf8 (printItems values) := by
    rw [wire, printChars, utf8_cons]
    rfl
  refine ⟨⟨openBracket, _, bytes, rfl, by decide⟩, fun steps rest enough _ => ?_⟩
  rw [bytes, List.length_cons] at enough
  obtain ⟨steps, rfl⟩ := Nat.exists_eq_add_of_le' (show 1 ≤ steps by omega)
  rw [bytes, List.cons_append, Reader.value, skipBlanks_cons rfl]
  dsimp only
  rw [if_pos rfl, items_printItems back rest (by omega)]
  rfl

theorem readsBack_object {levels : Nat} {entries : List (String × Json)}
    (back : ∀ entry ∈ entries, ReadsBack levels entry.2)
    (ascending : (entries.map Prod.fst).Pairwise (· < ·)) : ReadsBack (levels + 1) (.object entries) := by
  have bytes : wire (.object entries) = openBrace :: utf8 (printMembers entries) := by
    rw [wire, printChars, utf8_cons]
    rfl
  refine ⟨⟨openBrace, _, bytes, rfl, by decide⟩, fun steps rest enough _ => ?_⟩
  rw [bytes, List.length_cons] at enough
  obtain ⟨steps, rfl⟩ := Nat.exists_eq_add_of_le' (show 1 ≤ steps by omega)
  rw [bytes, List.cons_append, Reader.value, skipBlanks_cons rfl]
  dsimp only
  rw [if_neg (by decide), if_pos rfl, members_printMembers back ascending rest (by omega)]
  rfl

theorem readsBack_scalar {value : Json} (portable : Portable 0 value) (levels : Nat) :
    ReadsBack levels value := by
  obtain ⟨first, more, bytes, begins, _⟩ := spelled portable (Nat.le_succ _)
  refine ⟨⟨first, more, bytes, begins⟩, fun steps rest enough ends => ?_⟩
  have some : value.wire.length = more.length + 1 := by rw [bytes, List.length_cons]
  obtain ⟨steps, rfl⟩ := Nat.exists_eq_add_of_le' (show 1 ≤ steps by omega)
  obtain ⟨first, more, spelled⟩ := spelled portable (show _ ≤ steps + 1 by omega)
  rw [spelled.wire_eq, List.cons_append, Reader.value, skipBlanks_cons spelled.begins.visible]
  dsimp only
  rw [if_neg spelled.noArray, if_neg spelled.noObject, spelled.scalar_eq rest ends]

/-- Each level of nesting takes one of the levels allowed, so the induction is on these. -/
theorem readsBack {levels : Nat} {value : Json} (portable : Portable levels value) :
    ReadsBack levels value := by
  induction levels generalizing value with
  | zero => exact readsBack_scalar portable 0
  | succ levels ih =>
    cases value with
    | array values => exact readsBack_array fun item member => ih (portable_array.mp portable item member)
    | object entries =>
      obtain ⟨inside, ascending⟩ := portable_object.mp portable
      exact readsBack_object (fun entry member => ih (inside entry member)) ascending
    | null | boolean | integer | float | text =>
      exact readsBack_scalar ⟨portable.proper, portable.floatFree, Nat.le_refl 0⟩ (levels + 1)

end Reader

theorem read_wire {levels : Nat} {value : Json} (portable : Portable levels value) :
    read levels value.wire = .ok value := by
  have enough : 2 * value.wire.length ≤ stepsFor value.wire := Nat.le_add_right ..
  have answer := (Reader.readsBack portable).2 _ [] enough Reader.endsNumeral_nil
  rw [List.append_nil] at answer
  rw [read, answer]
  rfl

end Json

end Inventory
