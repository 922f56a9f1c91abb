import Inventory.Json.Shape
import Inventory.Proofs.Table

/-! Records come back from their values. The members of a value stand in key order, which is not the order of
the fields, so what is followed while they are read is which of the fields have been filled already. -/
namespace Inventory

namespace Json

/-- The values that a kind of field can hold when they are read. -/
def Kind.Fits : (kind : Kind) → kind.Carrier → Prop
  | .natural64, value => value < 18446744073709551616
  | .integer64, value => -9223372036854775808 ≤ value ∧ value < 9223372036854775808
  | .text, _ | .natural32, _ | .any, _ => True

instance (kind : Kind) (value : kind.Carrier) : Decidable (kind.Fits value) :=
  match kind with
  | .natural64 => inferInstanceAs (Decidable (_ < 18446744073709551616))
  | .integer64 => inferInstanceAs (Decidable (-9223372036854775808 ≤ _ ∧ _ < 9223372036854775808))
  | .text | .natural32 | .any => inferInstanceAs (Decidable True)

theorem Kind.decode_encode (kind : Kind) (value : kind.Carrier) (fits : kind.Fits value) :
    kind.decode (kind.encode value) = .ok value := by
  cases kind with
  | text => rfl
  | any => cases value <;> rfl
  | natural32 =>
    have bound := UInt32.toNat_lt value
    simp only [encode, natural, decode]
    rw [if_pos (by omega)]
    simp
  | natural64 =>
    simp only [encode, natural, decode]
    rw [if_pos ⟨Int.natCast_nonneg value, Int.ofNat_lt.mpr fits⟩]
    rfl
  | integer64 =>
    simp only [encode, decode]
    exact if_pos fits

def Row.Fits : (fields : List Field) → Row fields → Prop
  | [], _ => True
  | field :: rest, (value, others) => field.kind.Fits value ∧ Row.Fits rest others

/-- The draft of a row in which the fields of these names are filled. -/
def Draft.ofRow (names : List String) : (fields : List Field) → Row fields → Draft fields
  | [], _ => ()
  | field :: rest, (value, others) =>
      (if field.name ∈ names then some value else none, ofRow names rest others)

namespace Draft

theorem ofRow_nil (fields : List Field) (row : Row fields) : ofRow [] fields row = blank fields := by
  induction fields with
  | nil => rfl
  | cons field rest ih =>
    obtain ⟨value, others⟩ := row
    simp [ofRow, blank, ih]

theorem ofRow_cons_of_not_mem {fields : List Field} (row : Row fields) {name : String}
    (names : List String) (absent : name ∉ fields.map Field.name) :
    ofRow (name :: names) fields row = ofRow names fields row := by
  induction fields with
  | nil => rfl
  | cons field rest ih =>
    obtain ⟨value, others⟩ := row
    rw [List.map_cons, List.mem_cons, not_or] at absent
    simp [ofRow, ih others absent.2, Ne.symm absent.1]

theorem name_of_mem {fields : List Field} {row : Row fields} {name : String} {value : Json}
    (member : (name, value) ∈ Row.members fields row) : name ∈ fields.map Field.name := by
  induction fields with
  | nil => cases member
  | cons field rest ih =>
    obtain ⟨first, others⟩ := row
    rcases List.mem_cons.mp member with same | later
    · cases same
      exact List.mem_cons_self
    · exact List.mem_cons_of_mem _ (ih later)

theorem put_ofRow {fields : List Field} {row : Row fields} (distinct : (fields.map Field.name).Nodup)
    (fits : Row.Fits fields row) (names : List String) {name : String} {value : Json}
    (member : (name, value) ∈ Row.members fields row) :
    put fields (ofRow names fields row) name value = .ok (ofRow (name :: names) fields row) := by
  induction fields with
  | nil => cases member
  | cons field rest ih =>
    obtain ⟨first, others⟩ := row
    rw [List.map_cons, List.nodup_cons] at distinct
    rw [ofRow, put]
    rcases List.mem_cons.mp member with same | later
    · cases same
      simp [field.kind.decode_encode first fits.1, ofRow, ofRow_cons_of_not_mem others names distinct.1]
    · have other : field.name ≠ name := by
        rintro rfl
        exact distinct.1 (name_of_mem later)
      rw [if_neg other, ih distinct.2 fits.2 later]
      simp [ofRow, other]

theorem putAll_ofRow {fields : List Field} {row : Row fields} (distinct : (fields.map Field.name).Nodup)
    (fits : Row.Fits fields row) (names : List String) {members : List (String × Json)}
    (known : ∀ member ∈ members, member ∈ Row.members fields row) :
    putAll fields (ofRow names fields row) members =
      .ok (ofRow ((members.map Prod.fst).reverse ++ names) fields row) := by
  induction members generalizing names with
  | nil => rfl
  | cons member rest ih =>
    obtain ⟨name, value⟩ := member
    rw [putAll, put_ofRow distinct fits names (known (name, value) List.mem_cons_self)]
    dsimp only
    rw [ih _ fun member later => known member (List.mem_cons_of_mem _ later)]
    simp

theorem complete_ofRow {fields : List Field} (row : Row fields) {names : List String}
    (all : ∀ name ∈ fields.map Field.name, name ∈ names) :
    complete fields (ofRow names fields row) = .ok row := by
  induction fields with
  | nil => rfl
  | cons field rest ih =>
    obtain ⟨value, others⟩ := row
    rw [ofRow, if_pos (all field.name List.mem_cons_self), complete,
      ih others fun name member => all name (List.mem_cons_of_mem _ member)]
    rfl

end Draft

theorem Row.name_mem_members {fields : List Field} (row : Row fields) {name : String}
    (member : name ∈ fields.map Field.name) : ∃ value, (name, value) ∈ Row.members fields row := by
  induction fields with
  | nil => cases member
  | cons field rest ih =>
    obtain ⟨first, others⟩ := row
    rcases List.mem_cons.mp member with rfl | later
    · exact ⟨_, List.mem_cons_self⟩
    · obtain ⟨value, found⟩ := ih others later
      exact ⟨value, List.mem_cons_of_mem _ found⟩

theorem mem_insertAll (members : List (String × Json)) (table : Table String Json) :
    (∀ entry ∈ members.foldl (fun table member => Table.insert table member.1 member.2) table,
      entry ∈ members ∨ entry ∈ table) ∧
    ∀ name, (∃ value, (name, value) ∈ members) ∨ name ∈ table.keys →
      name ∈ Table.keys (members.foldl (fun table member => Table.insert table member.1 member.2) table) := by
  induction members generalizing table with
  | nil => exact ⟨fun entry member => .inr member, fun name known => by simpa using known⟩
  | cons first rest ih =>
    obtain ⟨old, names⟩ := ih (Table.insert table first.1 first.2)
    constructor
    · intro entry member
      rcases old entry member with later | earlier
      · exact .inl (List.mem_cons_of_mem _ later)
      · rcases Table.mem_of_mem_insert earlier with same | before
        · exact .inl (same ▸ List.mem_cons_self)
        · exact .inr before
    · intro name known
      apply names
      rcases known with ⟨value, member⟩ | before
      · rcases List.mem_cons.mp member with same | later
        · exact .inr (Table.mem_keys_insert.mpr (.inl (congrArg Prod.fst same)))
        · exact .inl ⟨value, later⟩
      · exact .inr (Table.mem_keys_insert.mpr (.inr before))

/-- A record comes back from its value when its fields have names of their own. -/
theorem Shape.decode_encode (shape : Shape) (row : Row shape.fields)
    (distinct : (shape.fields.map Field.name).Nodup) (fits : Row.Fits shape.fields row) :
    shape.decode (shape.encode row) = .ok row := by
  obtain ⟨known, names⟩ := mem_insertAll (Row.members shape.fields row) []
  simp only [encode, ofMembers, decode]
  rw [← Draft.ofRow_nil shape.fields row, Draft.putAll_ofRow distinct fits []]
  · apply Draft.complete_ofRow
    intro name member
    rw [List.append_nil, List.mem_reverse]
    exact names name (.inl (row.name_mem_members member))
  · intro entry member
    exact (known entry member).resolve_right List.not_mem_nil

end Json

end Inventory
