import Inventory.Proofs.EventStore.Census
import Inventory.Proofs.Traffic.Reckoning

/-! What the units add up to. Once every dispatch has ended, each is counted with one outcome; the conflicts are the
retries and the dispatches that ended with one; and of each batch as many events were counted as the store and the log
have got. -/
namespace Inventory
variable {Data Handlers State Command : Type}

theorem sum_eq_countP {Item : Type} {measure : Item → Nat} {holds : Item → Prop} [DecidablePred holds]
    {items : List Item} (each : ∀ item ∈ items, measure item = if holds item then 1 else 0) :
    (items.map measure).sum = items.countP holds := by
  induction items with
  | nil => rfl
  | cons item rest ih =>
    obtain ⟨first, others⟩ := List.forall_mem_cons.mp each
    rw [List.map_cons, List.sum_cons, ih others, first, List.countP_cons, Nat.add_comm]
    simp only [decide_eq_true_eq]

def Dispatch.outcomes : List String :=
  ["ok", "rejected", "conflict", "configuration", "publish_failed", "error"]

theorem Dispatch.label_mem (result : Except Fault (Committed Data)) : label result ∈ outcomes := by
  cases result with
  | ok committed => simp [label, outcomes]
  | error fault =>
    cases fault <;>
      simp [label, outcomes, Fault.isRejected, Fault.isConflict, Fault.isConfiguration, Fault.isPublish]

theorem Dispatch.phase_of_result? {dispatch : Dispatch Data State Command} {result : Except Fault (Committed Data)}
    (ended : dispatch.result? = some result) : dispatch.phase = .finished result := by
  unfold result? at ended
  split at ended
  next phase =>
    cases ended
    exact phase
  next => cases ended

namespace Dispatch

theorem retryUnits_apply (aggregateType : String) (meter : Meter) :
    retryUnits aggregateType meter =
      match meter with
      | .conflicts => {[aggregateType]}
      | .retries => {[operation]}
      | .dispatched | .durations | .stored | .published => 0 := by
  cases meter <;> rfl

theorem endUnits_apply (aggregateType : String) (result : Except Fault (Committed Data)) (meter : Meter) :
    endUnits aggregateType result meter =
      match meter with
      | .conflicts => if label result = "conflict" then {[aggregateType]} else 0
      | .dispatched | .durations | .retries | .stored | .published => 0 := by
  unfold endUnits
  split <;> cases meter <;> rfl

end Dispatch

namespace Task
variable {task : Task Data Handlers State Command} {result : Except Fault (Committed Data)}

theorem units_ended (ended : task.dispatch.result? = some result) (meter : Meter) :
    task.units meter =
      match meter with
      | .dispatched => {[task.assignment.aggregateType, Dispatch.label result]}
      | .durations => {[task.assignment.aggregateType]}
      | .conflicts =>
          Multiset.replicate (task.dispatch.attempt - 1) [task.assignment.aggregateType] +
            if Dispatch.label result = "conflict" then {[task.assignment.aggregateType]} else 0
      | .retries => Multiset.replicate (task.dispatch.attempt - 1) [Dispatch.operation]
      | .stored | .published => 0 := by
  rw [units, Dispatch.units, Dispatch.phase_of_result? ended, Phase.units]
  simp only [Pi.add_apply, Pi.smul_apply, Dispatch.retryUnits_apply, Dispatch.endUnits_apply, MetricsCall.units]
  cases meter <;> simp [Multiset.nsmul_singleton]

end Task

/-- What is counted of dispatches themselves and not of their batches. -/
def Meter.isOfDispatch : Meter → Bool
  | .dispatched | .durations | .conflicts | .retries => true
  | .stored | .published => false

theorem Entry.units_of_isOfDispatch (entry : Entry Data Handlers State Command) {meter : Meter}
    (own : meter.isOfDispatch = true) : entry.units meter = 0 := by
  obtain ⟨attempt, deed⟩ := entry
  cases deed with
  | read => rfl
  | appended base events answer => cases answer <;> cases meter <;> first | rfl | cases own
  | published events answer => cases answer <;> cases meter <;> first | rfl | cases own

theorem Entry.units_stored (entry : Entry Data Handlers State Command) :
    entry.units .stored = entry.commit?.elim 0 fun commit =>
      Multiset.replicate commit.events.length [commit.stream.aggregateType.text] := by
  obtain ⟨attempt, deed⟩ := entry
  cases deed with
  | read | published => first | rfl | (next answer => cases answer <;> rfl)
  | appended base events answer => cases answer <;> rfl

theorem Entry.units_published (entry : Entry Data Handlers State Command) :
    entry.units .published =
      entry.broadcast?.elim 0 fun broadcast => (MetricsCall.ofBatch broadcast.events).units .published := by
  obtain ⟨attempt, deed⟩ := entry
  cases deed with
  | read => rfl
  | appended base events answer => cases answer <;> rfl
  | published events answer => cases answer <;> rfl

namespace Traffic
variable {traffic : Traffic Data Handlers State Command}

def Ended (traffic : Traffic Data Handlers State Command) : Prop :=
  ∀ task ∈ traffic.tasks, ∃ result, task.dispatch.result? = some result

def dispatchesTo (traffic : Traffic Data Handlers State Command) (aggregateType : String) : Nat :=
  traffic.tasks.countP fun task => task.assignment.aggregateType = aggregateType

theorem units_of_tasks (traffic : Traffic Data Handlers State Command) (meter : Meter)
    (own : meter.isOfDispatch = true) :
    traffic.units meter = (traffic.tasks.map fun task => task.units meter).sum := by
  have silent : (traffic.journal.map fun entry => entry.units meter).sum = 0 := by
    apply List.sum_eq_zero
    intro units member
    obtain ⟨entry, _, rfl⟩ := List.mem_map.mp member
    exact entry.units_of_isOfDispatch own
  rw [units, Pi.add_apply, Units.sum_apply, Units.sum_apply, silent, add_zero]

theorem Ended.countP_dispatched (ended : traffic.Ended) (aggregateType : String) :
    (traffic.units .dispatched).countP (· ∈ Dispatch.outcomes.map fun outcome => [aggregateType, outcome]) =
      traffic.dispatchesTo aggregateType := by
  rw [traffic.units_of_tasks .dispatched rfl, countP_sum]
  apply sum_eq_countP
  intro task member
  obtain ⟨result, last⟩ := ended task member
  rw [task.units_ended last]
  refine (countP_single ..).trans (if_congr ?_ rfl rfl)
  simp [Dispatch.label_mem, eq_comm]

theorem Ended.count_durations (ended : traffic.Ended) (aggregateType : String) :
    (traffic.units .durations).count [aggregateType] = traffic.dispatchesTo aggregateType := by
  rw [traffic.units_of_tasks .durations rfl, Multiset.count, countP_sum]
  apply sum_eq_countP
  intro task member
  obtain ⟨result, last⟩ := ended task member
  rw [task.units_ended last]
  refine (countP_single ..).trans (if_congr ?_ rfl rfl)
  simp [eq_comm]

theorem Ended.countP_conflicts (ended : traffic.Ended) {types : List String}
    (all : ∀ task ∈ traffic.tasks, task.assignment.aggregateType ∈ types) :
    (traffic.units .conflicts).countP (· ∈ types.map fun aggregateType => [aggregateType]) =
      (traffic.units .retries).count [Dispatch.operation] +
        (traffic.units .dispatched).countP (· ∈ types.map fun aggregateType => [aggregateType, "conflict"]) := by
  rw [traffic.units_of_tasks .conflicts rfl, traffic.units_of_tasks .retries rfl, 
    traffic.units_of_tasks .dispatched rfl,
    Multiset.count, countP_sum, countP_sum, countP_sum, ← List.sum_map_add]
  refine congrArg List.sum (List.map_congr_left fun task member => ?_)
  obtain ⟨result, last⟩ := ended task member
  have inside := all task member
  have dispatched : (task.units .dispatched).countP (· ∈ types.map fun aggregateType => [aggregateType, "conflict"]) =
      if Dispatch.label result = "conflict" then 1 else 0 := by
    rw [task.units_ended last]
    refine (countP_single ..).trans (if_congr ?_ rfl rfl)
    simp [inside, eq_comm]
  have retried : (task.units .retries).countP ([Dispatch.operation] = ·) = task.dispatch.attempt - 1 := by
    rw [task.units_ended last]
    exact (countP_replicate ..).trans (if_pos rfl)
  have conflicts : [task.assignment.aggregateType] ∈ types.map fun aggregateType => [aggregateType] :=
    List.mem_map_of_mem inside
  rw [dispatched, retried, task.units_ended last]
  dsimp only
  rw [Multiset.countP_add, countP_replicate, if_pos conflicts]
  split
  · rw [countP_single, if_pos conflicts]
  · rfl

theorem Ended.units_of_journal (ended : traffic.Ended) (meter : Meter) (batches : meter.isOfDispatch = false) :
    traffic.units meter = (traffic.journal.map fun entry => entry.units meter).sum := by
  have silent : (traffic.tasks.map fun task => task.units meter).sum = 0 := by
    apply List.sum_eq_zero
    intro units member
    obtain ⟨task, inside, rfl⟩ := List.mem_map.mp member
    obtain ⟨result, last⟩ := ended task inside
    rw [task.units_ended last]
    cases meter <;> first | rfl | cases batches
  rw [units, Pi.add_apply, Units.sum_apply, Units.sum_apply, silent, zero_add]

end Traffic

variable [Payload Data]

namespace Journal
variable {registry : EventRegistry Data} {journal : List (Entry Data Handlers State Command)}

theorem Sound.count_stored (sound : Sound registry .empty journal) :
    (store .empty journal).streams.Sorted ∧ ∀ aggregateType,
      (journal.map (Entry.units · .stored)).sum.count [aggregateType] =
        ((store .empty journal).rowsOf aggregateType).length := by
  induction journal using List.reverseRecOn with
  | nil => exact ⟨List.Pairwise.nil, fun _ => rfl⟩
  | append_singleton journal entry ih =>
    obtain ⟨sorted, counted⟩ := ih sound.of_append
    have split (aggregateType : String) :
        ((journal ++ [entry]).map (Entry.units · .stored)).sum.count [aggregateType] =
          ((store .empty journal).rowsOf aggregateType).length + (entry.units .stored).count [aggregateType] := by
      rw [List.map_append, List.sum_append, Multiset.count_add, counted aggregateType, List.map_cons, List.map_nil,
        List.sum_singleton]
    rw [store_concat]
    cases found : entry.commit? with
    | none =>
      rw [Entry.leave_of_commit?_none found]
      refine ⟨sorted, fun aggregateType => ?_⟩
      rw [split, entry.units_stored, found]
      rfl
    | some commit =>
      obtain ⟨made, _, behind⟩ := taken_in (Entry.commit?_eq_some.mp found ▸ sound.last)
      rw [Entry.commit?_eq_some.mp found] at split ⊢
      rw [behind]
      refine ⟨sorted.insert _ _, fun aggregateType => ?_⟩
      have more := EventStore.length_rowsOf_setRecords sorted commit.stream
        (EventStore.placeAll ((store .empty journal).records commit.stream) commit.records) aggregateType
      rw [(EventStore.placeAll_perm ..).length_eq, List.length_append, Event.toRecords_length made] at more
      rw [split, Entry.units_stored, Entry.commit?_eq_some.mpr rfl, Option.elim_some, Multiset.count, countP_replicate]
      by_cases same : commit.stream.aggregateType.text = aggregateType
      · rw [if_pos (congrArg (fun text => [text]) same.symm)]
        simp only [if_pos same] at more
        omega
      · rw [if_neg fun alike => same (List.singleton_inj.mp alike).symm]
        simp only [if_neg same] at more
        omega

theorem Sound.count_published {start : EventStore} (sound : Sound registry start journal) (eventType : String) :
    (journal.map (Entry.units · .published)).sum.count [eventType] =
      (sent journal).countP fun record => record.eventType.text = eventType := by
  have batch (broadcast : Broadcast Data Handlers State Command) (member : broadcast ∈ broadcasts journal) :
      ((MetricsCall.ofBatch broadcast.events).units .published).count [eventType] =
        broadcast.records.countP fun record => record.eventType.text = eventType := by
    obtain ⟨commit, stored, rfl⟩ := List.mem_map.mp (sound.mem_taken member)
    obtain ⟨earlier, justified⟩ := sound.justified_of_mem stored
    have types := congrArg (List.countP fun type : EventType => type.text = eventType)
      (Event.toRecords_eventTypes (taken_in justified).1)
    rw [List.countP_map, List.countP_map] at types
    refine Eq.trans ?_ types.symm
    rw [Multiset.count, MetricsCall.ofBatch, MetricsCall.units, Multiset.coe_countP, List.map_map, List.countP_map]
    apply List.countP_congr
    intro event inside
    simp [eq_comm]
  rw [sent, List.countP_flatMap]
  clear sound
  induction journal with
  | nil => rfl
  | cons entry rest ih =>
    rw [List.map_cons, List.sum_cons, Multiset.count_add, entry.units_published]
    rw [broadcasts, List.filterMap_cons] at batch ⊢
    cases found : entry.broadcast? with
    | none =>
      rw [found] at batch
      rw [ih batch]
      exact zero_add _
    | some broadcast =>
      rw [found] at batch
      obtain ⟨first, others⟩ := List.forall_mem_cons.mp batch
      rw [ih others, List.map_cons, List.sum_cons]
      exact congrArg (· + _) first

end Journal

end Inventory
