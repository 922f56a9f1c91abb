import Inventory.Proofs.EventStore
import Inventory.Proofs.Table

/-! How many rows there are. The streams of a store stand in it in order, each of them once, so that a batch makes the
rows in the streams of its type more by its own, and no others. -/
namespace Inventory

instance : Std.TransOrd AggregateType :=
  inferInstanceAs (Std.TransCmp (compareOn AggregateType.text))

instance : Std.TransOrd AggregateId :=
  inferInstanceAs (Std.TransCmp (compareOn AggregateId.text))

instance : Std.TransOrd StreamId :=
  inferInstanceAs (Std.TransCmp (compareLex (compareOn StreamId.aggregateType) (compareOn StreamId.aggregateId)))

instance : Std.LawfulEqOrd StreamId where
  eq_of_compare {first second} same := by
    have both : compare first.aggregateType.text second.aggregateType.text = .eq ∧
        compare first.aggregateId.text second.aggregateId.text = .eq := Ordering.then_eq_eq.mp same
    have type := Std.LawfulEqCmp.compare_eq_iff_eq.mp both.1
    have id := Std.LawfulEqCmp.compare_eq_iff_eq.mp both.2
    obtain ⟨⟨_⟩, ⟨_⟩⟩ := first
    obtain ⟨⟨_⟩, ⟨_⟩⟩ := second
    cases type
    cases id
    rfl

namespace EventStore

/-- The rows of all streams of one type of aggregate. -/
def rowsIn (streams : Table StreamId (List Record)) (aggregateType : String) : List Record :=
  (streams.filter fun entry => entry.1.aggregateType.text = aggregateType).flatMap Prod.snd

def rowsOf (store : EventStore) (aggregateType : String) : List Record :=
  rowsIn store.streams aggregateType

theorem length_rowsIn_perm {streams others : Table StreamId (List Record)} (same : streams.Perm others)
    (aggregateType : String) : (rowsIn streams aggregateType).length = (rowsIn others aggregateType).length :=
  ((same.filter _).flatMap_right _).length_eq

theorem length_rowsIn_append (streams others : Table StreamId (List Record)) (aggregateType : String) :
    (rowsIn (streams ++ others) aggregateType).length =
      (rowsIn streams aggregateType).length + (rowsIn others aggregateType).length := by
  rw [rowsIn, List.filter_append, List.flatMap_append, List.length_append]
  rfl

theorem length_rowsIn_single (stream : StreamId) (rows : List Record) (aggregateType : String) :
    (rowsIn [(stream, rows)] aggregateType).length =
      if stream.aggregateType.text = aggregateType then rows.length else 0 := by
  simp only [rowsIn, List.filter_cons, decide_eq_true_eq]
  split <;> simp

theorem length_rowsOf_setRecords {store : EventStore} (sorted : store.streams.Sorted) (stream : StreamId)
    (rows : List Record) (aggregateType : String) :
    ((store.setRecords stream rows).rowsOf aggregateType).length +
        (if stream.aggregateType.text = aggregateType then (store.records stream).length else 0) =
      (store.rowsOf aggregateType).length +
        if stream.aggregateType.text = aggregateType then rows.length else 0 := by
  have own : (rowsIn (store.streams.filter (·.1 = stream)) aggregateType).length =
      if stream.aggregateType.text = aggregateType then (store.records stream).length else 0 := by
    rw [sorted.filter_key, records]
    cases store.streams.find? stream with
    | none => simp [rowsIn]
    | some rows => exact length_rowsIn_single stream rows aggregateType
  have before := length_rowsIn_perm (List.filter_append_perm (·.1 = stream) store.streams) aggregateType
  have after := length_rowsIn_perm (sorted.insert_perm stream rows) aggregateType
  rw [length_rowsIn_append, own] at before
  rw [← List.singleton_append, length_rowsIn_append, length_rowsIn_single] at after
  have others : store.streams.filter (fun entry => !decide (entry.1 = stream)) =
      store.streams.filter fun entry => entry.1 ≠ stream := by
    congr 1
    funext entry
    simp
  rw [others] at before
  rw [rowsOf, rowsOf, ← before, setRecords, after]
  omega

end EventStore

end Inventory
