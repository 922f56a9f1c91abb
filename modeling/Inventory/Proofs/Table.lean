import Inventory.Table
import Mathlib.Data.List.Nodup
import Mathlib.Tactic.Common

/-! Tables in order. Inserting keeps the keys of a table ascending where keys are compared as they should be, so that a
key stands in it once and whatever stands in it is found. -/
namespace Inventory.Table
variable {Key Value : Type} [DecidableEq Key] [Ord Key]

theorem mem_of_mem_insert {table : Table Key Value} {key : Key} {value : Value} {entry : Key × Value}
    (member : entry ∈ table.insert key value) : entry = (key, value) ∨ entry ∈ table := by
  induction table with
  | nil => exact .inl (List.mem_singleton.mp member)
  | cons first rest ih =>
    obtain ⟨present, old⟩ := first
    rw [insert] at member
    split at member
    · rcases List.mem_cons.mp member with same | later
      · exact .inl same
      · exact .inr (List.mem_cons_of_mem _ later)
    · split at member
      · exact List.mem_cons.mp member
      · rcases List.mem_cons.mp member with same | later
        · exact .inr (same ▸ List.mem_cons_self)
        · exact (ih later).imp_right (List.mem_cons_of_mem _)

theorem mem_keys_insert {table : Table Key Value} {key other : Key} {value : Value} :
    other ∈ (table.insert key value).keys ↔ other = key ∨ other ∈ table.keys := by
  induction table with
  | nil => simp [insert, keys]
  | cons first rest ih =>
    obtain ⟨present, old⟩ := first
    rw [insert]
    split
    next same => simp [keys, same]
    next =>
      split
      · simp [keys]
      · simp only [keys, List.map_cons, List.mem_cons] at ih ⊢
        rw [ih]
        exact or_left_comm

omit [Ord Key] in
theorem mem_keys {table : Table Key Value} {key : Key} : key ∈ table.keys ↔ (table.find? key).isSome = true := by
  induction table with
  | nil => exact iff_of_false List.not_mem_nil Bool.false_ne_true
  | cons entry rest ih =>
    obtain ⟨present, value⟩ := entry
    rw [find?, keys, List.map_cons, List.mem_cons]
    split
    next same => exact iff_of_true (.inl same) rfl
    next other => exact (or_iff_right other).trans ih

/-- Every key stands before all greater ones and nowhere else. -/
def Sorted (table : Table Key Value) : Prop :=
  table.keys.Pairwise fun first second => compare first second = .lt

theorem Sorted.insert [Std.TransOrd Key] [Std.LawfulEqOrd Key] {table : Table Key Value} (sorted : table.Sorted)
    (key : Key) (value : Value) : (table.insert key value).Sorted := by
  induction table with
  | nil => exact List.pairwise_singleton ..
  | cons entry rest ih =>
    obtain ⟨present, old⟩ := entry
    obtain ⟨first, others⟩ := List.pairwise_cons.mp sorted
    rw [Table.insert]
    split
    next same =>
      subst same
      exact sorted
    next other =>
      split
      next before =>
        refine List.pairwise_cons.mpr ⟨fun later member => ?_, sorted⟩
        rcases List.mem_cons.mp member with rfl | behind
        · exact before
        · exact Std.TransCmp.lt_trans before (first later behind)
      next after =>
        refine List.pairwise_cons.mpr ⟨fun later member => ?_, ih others⟩
        rcases mem_keys_insert.mp member with rfl | behind
        · apply Std.OrientedCmp.lt_of_gt
          cases order : compare later present with
          | lt => exact absurd order after
          | eq => exact absurd (Std.LawfulEqCmp.compare_eq_iff_eq.mp order) other
          | gt => rfl
        · exact first later behind

omit [DecidableEq Key] in
theorem Sorted.nodup_keys [Std.LawfulEqOrd Key] {table : Table Key Value} (sorted : table.Sorted) :
    table.keys.Nodup := by
  refine List.Pairwise.imp ?_ sorted
  rintro first second before rfl
  have same : compare first first = .eq := Std.LawfulEqCmp.compare_eq_iff_eq.mpr rfl
  rw [same] at before
  cases before

theorem Sorted.filter_key [Std.LawfulEqOrd Key] {table : Table Key Value} (sorted : table.Sorted) (key : Key) :
    table.filter (·.1 = key) = ((table.find? key).map fun value => (key, value)).toList := by
  induction table with
  | nil => rfl
  | cons entry rest ih =>
    obtain ⟨present, old⟩ := entry
    obtain ⟨first, others⟩ := List.pairwise_cons.mp sorted
    rw [find?]
    split
    next same =>
      subst same
      have elsewhere : rest.filter (·.1 = key) = [] := by
        rw [List.filter_eq_nil_iff]
        intro later member again
        have before : compare key later.1 = .lt := first later.1 (List.mem_map_of_mem member)
        have same : compare key later.1 = .eq := Std.LawfulEqCmp.compare_eq_iff_eq.mpr (of_decide_eq_true again).symm
        rw [same] at before
        cases before
      rw [List.filter_cons_of_pos (by simp), elsewhere]
      rfl
    next other =>
      rw [List.filter_cons_of_neg (by simpa using Ne.symm other)]
      exact ih others

theorem Sorted.find?_of_mem [Std.LawfulEqOrd Key] {table : Table Key Value} (sorted : table.Sorted) {key : Key}
    {value : Value} (member : (key, value) ∈ table) : table.find? key = some value := by
  have alone : (key, value) ∈ table.filter (·.1 = key) := List.mem_filter.mpr ⟨member, decide_eq_true rfl⟩
  rw [sorted.filter_key key, Option.mem_toList, Option.map_eq_some_iff] at alone
  obtain ⟨found, there, same⟩ := alone
  cases same
  exact there

theorem Sorted.mem_of_find? [Std.LawfulEqOrd Key] {table : Table Key Value} (sorted : table.Sorted) {key : Key}
    {value : Value} (found : table.find? key = some value) : (key, value) ∈ table := by
  have alone : (key, value) ∈ table.filter (·.1 = key) := by
    rw [sorted.filter_key key, found]
    exact List.mem_singleton_self _
  exact (List.mem_filter.mp alone).1

theorem Sorted.mem_iff [Std.LawfulEqOrd Key] {table : Table Key Value} (sorted : table.Sorted) {entry : Key × Value} :
    entry ∈ table ↔ table.find? entry.1 = some entry.2 :=
  ⟨sorted.find?_of_mem, sorted.mem_of_find?⟩

omit [DecidableEq Key] in
theorem Sorted.nodup [Std.LawfulEqOrd Key] {table : Table Key Value} (sorted : table.Sorted) : table.Nodup :=
  .of_map _ sorted.nodup_keys

theorem Sorted.insert_perm [Std.TransOrd Key] [Std.LawfulEqOrd Key] {table : Table Key Value} (sorted : table.Sorted)
    (key : Key) (value : Value) : (table.insert key value).Perm ((key, value) :: table.filter (·.1 ≠ key)) := by
  have rest : (table.filter (·.1 ≠ key)).Nodup := sorted.nodup.filter _
  have apart : (key, value) ∉ table.filter (·.1 ≠ key) := by
    intro member
    exact of_decide_eq_true (List.mem_filter.mp member).2 rfl
  refine (List.perm_ext_iff_of_nodup (sorted.insert key value).nodup (rest.cons apart)).mpr ?_
  rintro ⟨other, present⟩
  rw [(sorted.insert key value).mem_iff, find?_insert, List.mem_cons, List.mem_filter, sorted.mem_iff]
  split
  next same =>
    subst same
    simp [eq_comm]
  next other => simp [other]

/-- Tables in order that answer alike are the same. -/
theorem Sorted.ext [Std.OrientedOrd Key] [Std.LawfulEqOrd Key] {first second : Table Key Value}
    (sorted : first.Sorted) (sortedSecond : second.Sorted) (alike : ∀ key, first.find? key = second.find? key) :
    first = second := by
  have perm : first.Perm second := by
    refine (List.perm_ext_iff_of_nodup sorted.nodup sortedSecond.nodup).mpr ?_
    rintro ⟨key, value⟩
    constructor
    · intro member
      exact sortedSecond.mem_of_find? (alike key ▸ sorted.find?_of_mem member)
    · intro member
      exact sorted.mem_of_find? ((alike key).symm ▸ sortedSecond.find?_of_mem member)
  refine perm.eq_of_pairwise ?_ (List.pairwise_map.mp sorted) (List.pairwise_map.mp sortedSecond)
  intro entry other _ _ before after
  exact absurd before (Std.OrientedCmp.not_lt_of_lt after)

end Inventory.Table
