import Inventory.Json.Streaming
import Inventory.Proofs.Json.Reader

/-! Records come back from their text as well as from their values. The members are met in the order of
declaration, so the fields that are filled while the text is read are those whose names stand before it. -/
namespace Inventory.Json.Reader
open Text

theorem ofKind_scalar {kind : Kind} (plain : kind ≠ .any) {value : kind.Carrier} (fits : kind.Fits value)
    (portable : Portable 0 (kind.encode value)) (levels : Nat) {steps : Nat}
    (enough : (kind.encode value).wire.length ≤ steps + 1) {rest : Bytes} (ends : EndsNumeral rest) :
    ofKind steps levels kind ((kind.encode value).wire ++ rest) = .ok (value, rest) := by
  obtain ⟨first, more, spelled⟩ := spelled portable enough
  rw [ofKind, spelled.wire_eq, List.cons_append, skipBlanks_cons spelled.begins.visible]
  · dsimp only
    rw [if_neg spelled.noArray, if_neg spelled.noObject, spelled.scalar_eq rest ends]
    dsimp only
    rw [kind.decode_encode value fits]
  · exact plain

theorem ofKind_encode {kind : Kind} {value : kind.Carrier} (fits : kind.Fits value) {levels : Nat}
    (portable : Portable levels (kind.encode value)) {steps : Nat}
    (enough : 2 * (kind.encode value).wire.length ≤ steps) {rest : Bytes} (ends : EndsNumeral rest) :
    ofKind steps levels kind ((kind.encode value).wire ++ rest) = .ok (value, rest) := by
  have flat : kind ≠ .any → depth (kind.encode value) = 0 := by
    cases kind <;> simp [Kind.encode, natural, depth]
  by_cases plain : kind = .any
  · subst plain
    exact (readsBack portable).2 steps rest enough ends
  · exact ofKind_scalar plain fits ⟨portable.proper, portable.floatFree, Nat.le_of_eq (flat plain)⟩ levels
      (by omega) ends

variable {levels : Nat} {fields : List Field} {row : Row fields}

theorem draftMember_ofRow (distinct : (fields.map Field.name).Nodup) (fits : Row.Fits fields row)
    {names : List String} {entry : String × Json} (member : entry ∈ Row.members fields row)
    (fresh : entry.1 ∉ names) (portable : Portable levels entry.2) {steps : Nat}
    (enough : 2 * entry.2.wire.length ≤ steps) {rest : Bytes} (ends : EndsNumeral rest) :
    draftMember steps levels fields (Draft.ofRow names fields row) entry.1
        (colon :: (entry.2.wire ++ rest)) =
      .ok (some (Draft.ofRow (entry.1 :: names) fields row, rest)) := by
  induction fields with
  | nil => cases member
  | cons field others ih =>
    obtain ⟨value, row⟩ := row
    rw [List.map_cons, List.nodup_cons] at distinct
    rw [Draft.ofRow, draftMember]
    rcases List.mem_cons.mp member with rfl | later
    · rw [if_pos rfl, if_neg fresh, if_neg (by exact Bool.false_ne_true), afterColon_colon]
      dsimp only
      rw [ofKind_encode fits.1 portable enough ends]
      simp [Draft.ofRow, Draft.ofRow_cons_of_not_mem row names distinct.1]
    · have other : field.name ≠ entry.1 := by
        intro same
        exact distinct.1 (same ▸ Draft.name_of_mem later)
      rw [if_neg other, ih distinct.2 fits.2 later]
      simp [Draft.ofRow, other]

theorem member_memberBytes (distinct : (fields.map Field.name).Nodup) (fits : Row.Fits fields row)
    {names : List String} {entry : String × Json} (known : entry ∈ Row.members fields row)
    (fresh : entry.1 ∉ names) (portable : Portable levels entry.2) {steps : Nat}
    (enough : 2 * (memberBytes entry).length ≤ steps) {rest : Bytes} (ends : EndsNumeral rest) :
    member steps levels fields (Draft.ofRow names fields row) (memberBytes entry ++ rest) =
      .ok (Draft.ofRow (entry.1 :: names) fields row, rest) := by
  rw [memberBytes, List.length_append, List.length_cons] at enough
  obtain ⟨others, bytes, read⟩ := key_printText entry.1 (colon :: (entry.2.wire ++ rest))
    (show _ ≤ steps + 1 by omega)
  rw [memberBytes, bytes, List.append_assoc, List.cons_append, List.cons_append, member, read]
  dsimp only
  rw [draftMember_ofRow distinct fits known fresh portable (by omega) ends]

/-- The names of the members that are still to be read have not been met, and with them all fields are filled. -/
structure Remaining (row : Row fields) (names : List String) (entries : List (String × Json)) : Prop where
  known : ∀ entry ∈ entries, entry ∈ Row.members fields row
  fresh : ∀ entry ∈ entries, entry.1 ∉ names
  distinct : (entries.map Prod.fst).Nodup
  all : ∀ name ∈ fields.map Field.name, name ∈ names ∨ name ∈ entries.map Prod.fst

theorem Remaining.tail {names : List String} {entry : String × Json} {entries : List (String × Json)}
    (remaining : Remaining row names (entry :: entries)) : Remaining row (entry.1 :: names) entries where
  known other member := remaining.known other (List.mem_cons_of_mem entry member)
  fresh other member := by
    have distinct := remaining.distinct
    rw [List.map_cons, List.nodup_cons] at distinct
    rw [List.mem_cons, not_or]
    exact ⟨fun same => distinct.1 (same ▸ List.mem_map_of_mem member),
      remaining.fresh other (List.mem_cons_of_mem entry member)⟩
  distinct := (List.nodup_cons.mp remaining.distinct).2
  all name member := by
    have found := remaining.all name member
    rw [List.map_cons, List.mem_cons] at found
    rw [List.mem_cons]
    exact found.elim (fun before => .inl (.inr before)) (Or.imp_left .inl)

theorem recordMembers_step (distinct : (fields.map Field.name).Nodup) (fits : Row.Fits fields row)
    {names : List String} {entry : String × Json} {more : List (String × Json)}
    (remaining : Remaining row names (entry :: more)) (portable : Portable levels entry.2) {isFirst : Bool}
    {input skipped rest : Bytes} {steps : Nat} (enough : 2 * (memberBytes entry).length ≤ steps)
    (next : nextItem closeBrace isFirst input =
      .ok (some (memberBytes entry ++ (utf8 (printLaterMembers more) ++ rest)), skipped)) :
    recordMembers levels fields (steps + 1) isFirst (Draft.ofRow names fields row) input =
      recordMembers levels fields steps false (Draft.ofRow (entry.1 :: names) fields row)
        (utf8 (printLaterMembers more) ++ rest) := by
  rw [recordMembers, next]
  dsimp only
  rw [member_memberBytes distinct fits (remaining.known entry List.mem_cons_self)
    (remaining.fresh entry List.mem_cons_self) portable enough (endsNumeral_laterMembers more rest)]

theorem recordMembers_end {names : List String} (remaining : Remaining row names []) (isFirst : Bool)
    (steps : Nat) (rest : Bytes) :
    recordMembers levels fields (steps + 1) isFirst (Draft.ofRow names fields row) (closeBrace :: rest) =
      .ok (row, rest) := by
  have all (name : String) (member : name ∈ fields.map Field.name) : name ∈ names :=
    (remaining.all name member).resolve_right List.not_mem_nil
  rw [recordMembers, nextItem_closing rfl]
  dsimp only
  rw [Draft.complete_ofRow row all]

theorem recordMembers_later (distinct : (fields.map Field.name).Nodup) (fits : Row.Fits fields row)
    {names : List String} {entries : List (String × Json)} (remaining : Remaining row names entries)
    (portable : ∀ entry ∈ entries, Portable levels entry.2) {steps : Nat}
    (enough : 2 * (utf8 (printLaterMembers entries)).length ≤ steps) (rest : Bytes) :
    recordMembers levels fields steps false (Draft.ofRow names fields row)
        (utf8 (printLaterMembers entries) ++ rest) = .ok (row, rest) := by
  induction entries generalizing names steps with
  | nil =>
    obtain ⟨steps, rfl⟩ := Nat.exists_eq_add_of_le' (show 1 ≤ steps from Nat.le_of_lt enough)
    exact recordMembers_end remaining false steps rest
  | cons entry more ih =>
    rw [utf8_printLaterMembers, List.length_cons, List.length_append] at enough
    obtain ⟨steps, rfl⟩ := Nat.exists_eq_add_of_le' (show 1 ≤ steps by omega)
    rw [recordMembers_step distinct fits remaining (portable entry List.mem_cons_self) (by omega)
      (nextItem_laterMember entry more rest)]
    exact ih remaining.tail (fun other member => portable other (List.mem_cons_of_mem entry member))
      (by omega)

theorem recordMembers_first (distinct : (fields.map Field.name).Nodup) (fits : Row.Fits fields row)
    {entries : List (String × Json)} (remaining : Remaining row [] entries)
    (portable : ∀ entry ∈ entries, Portable levels entry.2) {steps : Nat}
    (enough : 2 * (utf8 (printMembers entries)).length ≤ steps) (rest : Bytes) :
    recordMembers levels fields steps true (Draft.ofRow [] fields row)
        (utf8 (printMembers entries) ++ rest) = .ok (row, rest) := by
  cases entries with
  | nil =>
    obtain ⟨steps, rfl⟩ := Nat.exists_eq_add_of_le' (show 1 ≤ steps from Nat.le_of_lt enough)
    exact recordMembers_end remaining true steps rest
  | cons entry more =>
    obtain ⟨_, _, first⟩ := memberBytes_cons entry
    have room := printLaterMembers_length more
    rw [utf8_printMembers, List.length_append] at enough
    obtain ⟨steps, rfl⟩ := Nat.exists_eq_add_of_le' (show 1 ≤ steps by omega)
    rw [recordMembers_step distinct fits remaining (portable entry List.mem_cons_self) (by omega)
      (nextItem_firstMember entry more rest)]
    exact recordMembers_later distinct fits remaining.tail
      (fun other member => portable other (List.mem_cons_of_mem entry member)) (by omega) rest

end Inventory.Json.Reader

namespace Inventory.Json
open Text Reader

theorem Row.members_names (fields : List Field) (row : Row fields) :
    (Row.members fields row).map Prod.fst = fields.map Field.name := by
  induction fields with
  | nil => rfl
  | cons field rest ih =>
    obtain ⟨value, others⟩ := row
    rw [Row.members, List.map_cons, List.map_cons, ih]

/-- The text of a record lists the members in the order of declaration. One of the levels that may stand around a
value is the record itself. -/
theorem Shape.read_printMembers (shape : Shape) (row : Row shape.fields)
    (distinct : (shape.fields.map Field.name).Nodup) (fits : Row.Fits shape.fields row)
    (portable : ∀ entry ∈ Row.members shape.fields row, Portable 126 entry.2) :
    shape.read (utf8 ('\x7b' :: printMembers (Row.members shape.fields row))) = .ok row := by
  have bytes : utf8 ('\x7b' :: printMembers (Row.members shape.fields row)) =
      openBrace :: utf8 (printMembers (Row.members shape.fields row)) := by
    rw [utf8_cons]
    rfl
  have remaining : Remaining row [] (Row.members shape.fields row) := by
    refine ⟨fun entry member => member, fun entry _ => List.not_mem_nil, ?_, fun name member => .inr ?_⟩
    · rw [Row.members_names]
      exact distinct
    · rw [Row.members_names]
      exact member
  have enough : 2 * (utf8 (printMembers (Row.members shape.fields row))).length ≤
      stepsFor (openBrace :: utf8 (printMembers (Row.members shape.fields row))) := by
    rw [stepsFor, List.length_cons]
    omega
  have answer := recordMembers_first distinct fits remaining portable enough []
  rw [List.append_nil, Draft.ofRow_nil] at answer
  rw [bytes, read, record, skipBlanks_cons rfl]
  dsimp only [nesting]
  rw [if_pos rfl, answer]
  rfl

theorem Kind.portable_encode (kind : Kind) (plain : kind ≠ .any) {value : kind.Carrier}
    (fits : kind.Fits value) (levels : Nat) : Portable levels (kind.encode value) := by
  cases kind with
  | text => exact ⟨trivial, trivial, Nat.zero_le _⟩
  | natural32 =>
    have bound := UInt32.toNat_lt value
    refine ⟨?_, trivial, Nat.zero_le _⟩
    simp only [encode, natural, Proper, Json.Fits]
    omega
  | natural64 =>
    refine ⟨⟨?_, Int.ofNat_lt.mpr fits⟩, trivial, Nat.zero_le _⟩
    exact Int.le_trans (by decide) (Int.natCast_nonneg value)
  | integer64 => exact ⟨⟨fits.1, Int.lt_trans fits.2 (by decide)⟩, trivial, Nat.zero_le _⟩
  | any => exact absurd rfl plain

theorem Row.portable_members {fields : List Field} (plain : ∀ field ∈ fields, field.kind ≠ .any)
    {row : Row fields} (fits : Row.Fits fields row) (levels : Nat) :
    ∀ entry ∈ Row.members fields row, Portable levels entry.2 := by
  induction fields with
  | nil => exact fun entry member => (List.not_mem_nil member).elim
  | cons field rest ih =>
    obtain ⟨value, others⟩ := row
    rw [Row.members, List.forall_mem_cons]
    exact ⟨field.kind.portable_encode (plain field List.mem_cons_self) fits.1 levels,
      ih (fun other member => plain other (List.mem_cons_of_mem field member)) fits.2⟩

theorem portable_insertAll {levels : Nat} {members : List (String × Json)} {table : Table String Json}
    (inside : ∀ entry ∈ members, Portable levels entry.2)
    (portable : Portable (levels + 1) (.object table)) :
    Portable (levels + 1)
      (.object (members.foldl (fun table member => Table.insert table member.1 member.2) table)) := by
  induction members generalizing table with
  | nil => exact portable
  | cons entry rest ih =>
    obtain ⟨present, ascending⟩ := portable_object.mp portable
    apply ih (fun other member => inside other (List.mem_cons_of_mem entry member))
    refine portable_object.mpr ⟨fun other member => ?_, Table.ascending_insert ascending entry.1 entry.2⟩
    rcases Table.mem_of_mem_insert member with rfl | before
    · exact inside entry List.mem_cons_self
    · exact present other before

theorem portable_ofMembers {levels : Nat} {members : List (String × Json)}
    (inside : ∀ entry ∈ members, Portable levels entry.2) : Portable (levels + 1) (ofMembers members) :=
  portable_insertAll inside (portable_object.mpr ⟨fun _ none => (List.not_mem_nil none).elim, .nil⟩)

/-- A record without fields of any value is one level of nesting. -/
theorem Shape.portable_encode {shape : Shape} (plain : ∀ field ∈ shape.fields, field.kind ≠ .any)
    {row : Row shape.fields} (fits : Row.Fits shape.fields row) : Portable 1 (shape.encode row) :=
  portable_ofMembers (Row.portable_members plain fits 0)

end Inventory.Json
