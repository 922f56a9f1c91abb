import Inventory.Proofs.Traffic.Totals

/-! What the counters show once every dispatch has ended. Where no labels are mistaken for others, a counter shows for
labels how many units have them, and for several labels together how many units have some of them. -/
namespace Inventory
variable {Data Handlers State Command : Type}

def Dispatch.labelsOf (aggregateTypes : List String) : List (List String) :=
  aggregateTypes.flatMap fun aggregateType => outcomes.map fun outcome => [aggregateType, outcome]

namespace Traffic
variable {traffic : Traffic Data Handlers State Command} {metrics : Metrics} {aggregateTypes : List String}

def Within (traffic : Traffic Data Handlers State Command) (aggregateTypes : List String) : Prop :=
  ∀ task ∈ traffic.tasks, task.assignment.aggregateType ∈ aggregateTypes

theorem Ended.forall_units (ended : traffic.Ended) {meter : Meter} (own : meter.isOfDispatch = true)
    {holds : List String → Prop}
    (each : ∀ task ∈ traffic.tasks, ∀ result, task.dispatch.result? = some result →
      ∀ unit ∈ task.units meter, holds unit) :
    ∀ unit ∈ traffic.units meter, holds unit := by
  intro unit member
  rw [traffic.units_of_tasks meter own] at member
  obtain ⟨task, inside, counted⟩ := mem_sum member
  obtain ⟨result, last⟩ := ended task inside
  exact each task inside result last unit counted

theorem Ended.mem_dispatched (ended : traffic.Ended) (within : traffic.Within aggregateTypes) :
    ∀ unit ∈ traffic.units .dispatched, unit ∈ Dispatch.labelsOf aggregateTypes := by
  refine ended.forall_units rfl fun task inside result last unit member => ?_
  rw [task.units_ended last] at member
  rw [Multiset.mem_singleton.mp member]
  exact List.mem_flatMap.mpr ⟨_, within task inside, List.mem_map_of_mem (Dispatch.label_mem result)⟩

theorem Ended.mem_durations (ended : traffic.Ended) (within : traffic.Within aggregateTypes) :
    ∀ unit ∈ traffic.units .durations, unit ∈ aggregateTypes.map fun aggregateType => [aggregateType] := by
  refine ended.forall_units rfl fun task inside result last unit member => ?_
  rw [task.units_ended last] at member
  rw [Multiset.mem_singleton.mp member]
  exact List.mem_map_of_mem (within task inside)

theorem Ended.mem_conflicts (ended : traffic.Ended) (within : traffic.Within aggregateTypes) :
    ∀ unit ∈ traffic.units .conflicts, unit ∈ aggregateTypes.map fun aggregateType => [aggregateType] := by
  refine ended.forall_units rfl fun task inside result last unit member => ?_
  rw [task.units_ended last] at member
  have same : unit = [task.assignment.aggregateType] := by
    rcases Multiset.mem_add.mp member with retried | final
    · exact Multiset.eq_of_mem_replicate retried
    · split at final
      · exact Multiset.mem_singleton.mp final
      · cases Multiset.notMem_zero unit final
  rw [same]
  exact List.mem_map_of_mem (within task inside)

theorem Ended.mem_retries (ended : traffic.Ended) : ∀ unit ∈ traffic.units .retries, unit ∈ [[Dispatch.operation]] := by
  refine ended.forall_units rfl fun task inside result last unit member => ?_
  rw [task.units_ended last] at member
  exact List.mem_singleton.mpr (Multiset.eq_of_mem_replicate member)

theorem Ended.mem_stored (ended : traffic.Ended) (signed : traffic.Signed) (within : traffic.Within aggregateTypes) :
    ∀ unit ∈ traffic.units .stored, unit ∈ aggregateTypes.map fun aggregateType => [aggregateType] := by
  intro unit member
  rw [ended.units_of_journal .stored rfl] at member
  obtain ⟨entry, noted, member⟩ := mem_sum member
  rw [entry.units_stored] at member
  cases found : entry.commit? with
  | none =>
    rw [found] at member
    cases Multiset.notMem_zero unit member
  | some commit =>
    rw [found] at member
    rw [Multiset.eq_of_mem_replicate member]
    obtain ⟨task, inside, same⟩ := List.mem_map.mp (List.mem_of_getElem? (signed entry noted))
    have own := within task inside
    rw [same, Entry.commit?_eq_some.mp found] at own
    exact List.mem_map_of_mem own

theorem Ended.mem_published [Payload Data] {registry : EventRegistry Data} {start : EventStore} (ended : traffic.Ended)
    (sound : Journal.Sound registry start traffic.journal) {eventTypes : List String}
    (within : ∀ record ∈ Journal.sent traffic.journal, record.eventType.text ∈ eventTypes) :
    ∀ unit ∈ traffic.units .published, unit ∈ eventTypes.map fun eventType => [eventType] := by
  intro unit member
  rw [ended.units_of_journal .published rfl] at member
  obtain ⟨entry, noted, own⟩ := mem_sum member
  rw [entry.units_published] at own
  cases found : entry.broadcast? with
  | none =>
    rw [found] at own
    cases Multiset.notMem_zero unit own
  | some broadcast =>
    rw [found] at own
    obtain ⟨eventType, _, rfl⟩ := List.mem_map.mp (Multiset.mem_coe.mp own)
    have many := Multiset.count_pos.mpr member
    rw [sound.count_published, List.countP_pos_iff] at many
    obtain ⟨record, sent, same⟩ := many
    rw [← of_decide_eq_true same]
    exact List.mem_map_of_mem (within record sent)

/-- Every dispatch is counted once, with one of the outcomes. -/
theorem Ended.sum_dispatched (ended : traffic.Ended) (shows : metrics.Shows traffic.units)
    (within : traffic.Within aggregateTypes) (apart : Samples.Apart (Dispatch.labelsOf aggregateTypes))
    {aggregateType : String} (inside : aggregateType ∈ aggregateTypes) :
    (Dispatch.outcomes.map fun outcome => metrics.dispatched.count [aggregateType, outcome]).sum =
      .ofNat (traffic.dispatchesTo aggregateType) := by
  have distinct : (Dispatch.outcomes.map fun outcome => [aggregateType, outcome]).Nodup := by
    refine List.Nodup.map (fun first second same => ?_) (by decide)
    simpa using same
  have labelled : ∀ unit ∈ Dispatch.outcomes.map fun outcome => [aggregateType, outcome],
      unit ∈ Dispatch.labelsOf aggregateTypes :=
    fun unit member => List.mem_flatMap.mpr ⟨aggregateType, inside, member⟩
  calc (Dispatch.outcomes.map fun outcome => metrics.dispatched.count [aggregateType, outcome]).sum
    _ = ((Dispatch.outcomes.map fun outcome => [aggregateType, outcome]).map metrics.dispatched.count).sum := by
        rw [List.map_map]
        rfl
    _ = .ofNat ((traffic.units .dispatched).countP
          (· ∈ Dispatch.outcomes.map fun outcome => [aggregateType, outcome])) :=
        (shows .dispatched).sum_eq distinct apart labelled (ended.mem_dispatched within)
    _ = .ofNat (traffic.dispatchesTo aggregateType) := by rw [ended.countP_dispatched]

theorem Ended.read_durations (ended : traffic.Ended) (shows : metrics.Shows traffic.units)
    (within : traffic.Within aggregateTypes)
    (apart : Samples.Apart (aggregateTypes.map fun aggregateType => [aggregateType])) {aggregateType : String}
    (inside : aggregateType ∈ aggregateTypes) :
    metrics.read .durations [aggregateType] = .ofNat (traffic.dispatchesTo aggregateType) := by
  calc metrics.read .durations [aggregateType]
    _ = .ofNat ((traffic.units .durations).count [aggregateType]) :=
        (shows .durations).eq_count apart (List.mem_map_of_mem inside) (ended.mem_durations within)
    _ = .ofNat (traffic.dispatchesTo aggregateType) := by rw [ended.count_durations]

/-- Every conflict is followed by another attempt or ends its dispatch. -/
theorem Ended.sum_conflicts (ended : traffic.Ended) (shows : metrics.Shows traffic.units)
    (within : traffic.Within aggregateTypes) (once : aggregateTypes.Nodup)
    (apart : Samples.Apart (aggregateTypes.map fun aggregateType => [aggregateType]))
    (labels : Samples.Apart (Dispatch.labelsOf aggregateTypes)) :
    (aggregateTypes.map fun aggregateType => metrics.conflicts.count [aggregateType]).sum =
      metrics.retries.count [Dispatch.operation] +
        (aggregateTypes.map fun aggregateType => metrics.dispatched.count [aggregateType, "conflict"]).sum := by
  have conflicts := (shows .conflicts).sum_eq (once.map List.singleton_injective) apart (fun unit member => member)
    (ended.mem_conflicts within)
  have alone : Samples.Apart [[Dispatch.operation]] :=
    fun one first other second _ => (List.mem_singleton.mp first).trans (List.mem_singleton.mp second).symm
  have retries := (shows .retries).eq_count alone List.mem_cons_self ended.mem_retries
  have distinct : (aggregateTypes.map fun aggregateType => [aggregateType, "conflict"]).Nodup :=
    once.map fun first second same => by simpa using same
  have labelled : ∀ unit ∈ aggregateTypes.map fun aggregateType => [aggregateType, "conflict"],
      unit ∈ Dispatch.labelsOf aggregateTypes := by
    intro unit member
    obtain ⟨aggregateType, inside, rfl⟩ := List.mem_map.mp member
    have outcome : "conflict" ∈ Dispatch.outcomes := by decide
    exact List.mem_flatMap.mpr ⟨aggregateType, inside, List.mem_map_of_mem outcome⟩
  have dispatched := (shows .dispatched).sum_eq distinct labels labelled (ended.mem_dispatched within)
  rw [List.map_map] at conflicts dispatched
  calc (aggregateTypes.map fun aggregateType => metrics.conflicts.count [aggregateType]).sum
    _ = .ofNat ((traffic.units .conflicts).countP (· ∈ aggregateTypes.map fun aggregateType => [aggregateType])) :=
        conflicts
    _ = .ofNat ((traffic.units .retries).count [Dispatch.operation]) +
          .ofNat ((traffic.units .dispatched).countP
            (· ∈ aggregateTypes.map fun aggregateType => [aggregateType, "conflict"])) := by
        rw [ended.countP_conflicts within, UInt64.ofNat_add]
    _ = metrics.retries.count [Dispatch.operation] +
          (aggregateTypes.map fun aggregateType => metrics.dispatched.count [aggregateType, "conflict"]).sum :=
        congrArg₂ (· + ·) retries.symm dispatched.symm

variable [Payload Data] {registry : EventRegistry Data}

theorem Ended.read_stored (ended : traffic.Ended) (shows : metrics.Shows traffic.units)
    (sound : traffic.Sound registry .empty) (signed : traffic.Signed) (within : traffic.Within aggregateTypes)
    (apart : Samples.Apart (aggregateTypes.map fun aggregateType => [aggregateType])) {aggregateType : String}
    (inside : aggregateType ∈ aggregateTypes) :
    metrics.stored.count [aggregateType] = .ofNat (traffic.world.store.rowsOf aggregateType).length := by
  calc metrics.stored.count [aggregateType]
    _ = .ofNat ((traffic.units .stored).count [aggregateType]) :=
        (shows .stored).eq_count apart (List.mem_map_of_mem inside) (ended.mem_stored signed within)
    _ = .ofNat (traffic.world.store.rowsOf aggregateType).length := by
        rw [ended.units_of_journal .stored rfl, sound.journal.count_stored.2 aggregateType, sound.store_eq]

theorem Ended.read_published (ended : traffic.Ended) (shows : metrics.Shows traffic.units)
    (sound : traffic.Sound registry .empty) {eventTypes : List String}
    (within : ∀ record ∈ Journal.sent traffic.journal, record.eventType.text ∈ eventTypes)
    (apart : Samples.Apart (eventTypes.map fun eventType => [eventType])) {eventType : String}
    (inside : eventType ∈ eventTypes) :
    metrics.published.count [eventType] =
      .ofNat ((Journal.sent traffic.journal).countP fun record => record.eventType.text = eventType) := by
  calc metrics.published.count [eventType]
    _ = .ofNat ((traffic.units .published).count [eventType]) :=
        (shows .published).eq_count apart (List.mem_map_of_mem inside) (ended.mem_published sound.journal within)
    _ = .ofNat ((Journal.sent traffic.journal).countP fun record => record.eventType.text = eventType) := by
        rw [ended.units_of_journal .published rfl, sound.journal.count_published eventType]

end Traffic

end Inventory
