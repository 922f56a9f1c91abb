import Inventory.Proofs.EventStore
import Mathlib.Data.List.Induction

/-! Streams in order. Whatever is put into a store, by other writers too, the versions of a stream ascend, so that the
last of them is the greatest and nothing above it is claimed. -/
namespace Inventory

/-- Records in the order of their versions, of which some may be alike. -/
def Record.Ascending (rows : List Record) : Prop :=
  rows.Pairwise fun first second => first.version ≤ second.version

/-- The version of the last record, zero where there is none. -/
def Record.top (rows : List Record) : Nat :=
  (rows.getLast?.map Record.version).getD 0

theorem Record.Ascending.le_top {rows : List Record} (ascending : Ascending rows) {row : Record}
    (member : row ∈ rows) : row.version ≤ top rows := by
  rcases List.eq_nil_or_concat rows with rfl | ⟨front, last, rfl⟩
  · cases member
  · rw [List.concat_eq_append] at member ascending ⊢
    rw [top, List.getLast?_concat]
    rcases List.mem_append.mp member with before | same
    · exact (List.pairwise_append.mp ascending).2.2 row before last List.mem_cons_self
    · rw [List.mem_singleton.mp same]
      exact Nat.le_refl _

theorem Record.top_le {rows : List Record} {bound : Nat} (below : ∀ row ∈ rows, row.version ≤ bound) :
    top rows ≤ bound := by
  rcases List.eq_nil_or_concat rows with rfl | ⟨front, last, rfl⟩
  · exact Nat.zero_le bound
  · rw [List.concat_eq_append] at below ⊢
    rw [top, List.getLast?_concat]
    exact below last (List.mem_append_right _ List.mem_cons_self)

def EventStore.Ordered (store : EventStore) : Prop :=
  ∀ stream, Record.Ascending (store.records stream)

namespace EventStore

theorem ascending_place {rows : List Record} (ascending : Record.Ascending rows) (record : Record) :
    Record.Ascending (place record rows) := by
  induction rows with
  | nil => exact List.pairwise_singleton ..
  | cons row rest ih =>
    obtain ⟨least, others⟩ := List.pairwise_cons.mp ascending
    rw [place]
    split
    next below =>
      refine List.pairwise_cons.mpr ⟨fun other member => ?_, ih others⟩
      rcases List.mem_cons.mp ((place_perm record rest).mem_iff.mp member) with rfl | old
      · exact below
      · exact least other old
    next above =>
      refine List.pairwise_cons.mpr ⟨fun other member => ?_, ascending⟩
      rcases List.mem_cons.mp member with rfl | old
      · omega
      · have later := least other old
        omega

theorem ascending_placeAll {rows : List Record} (ascending : Record.Ascending rows) (batch : List Record) :
    Record.Ascending (placeAll rows batch) := by
  induction batch generalizing rows with
  | nil => exact ascending
  | cons record rest ih => exact ih (ascending_place ascending record)

theorem Ordered.setRecords {store : EventStore} (ordered : store.Ordered) (stream : StreamId)
    {rows : List Record} (ascending : Record.Ascending rows) : (store.setRecords stream rows).Ordered := by
  intro other
  rw [records_setRecords]
  split
  · exact ascending
  · exact ordered other

theorem Ordered.insert {store : EventStore} (ordered : store.Ordered) (record : Record) :
    (store.insert record).Ordered :=
  ordered.setRecords _ (ascending_place (ordered record.stream) record)

/-- A store that other writers have filled. -/
def seeded (records : List Record) : EventStore :=
  records.foldl insert .empty

theorem seeded_concat (records : List Record) (record : Record) :
    seeded (records ++ [record]) = (seeded records).insert record := by
  rw [seeded, List.foldl_append]
  rfl

theorem ordered_seeded (records : List Record) : (seeded records).Ordered := by
  induction records using List.reverseRecOn with
  | nil => exact fun _ => .nil
  | append_singleton records record ih =>
    rw [seeded_concat]
    exact ih.insert record

end EventStore

theorem EventRegistry.lastVersion_eq_top {Data : Type} [Payload Data] {registry : EventRegistry Data}
    {rows : List Record} {history : List (Event Data)} (decoded : registry.decodeRecords rows = .ok history) :
    AggregateRegistry.lastVersion history = Record.top rows := by
  have versions := congrArg List.getLast? (decodeRecords_versions decoded)
  rw [List.getLast?_map, List.getLast?_map] at versions
  rw [Record.top, ← versions, AggregateRegistry.lastVersion]
  cases history.getLast? <;> rfl

end Inventory
