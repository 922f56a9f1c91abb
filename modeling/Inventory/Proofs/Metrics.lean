import Inventory.Dispatch
import Mathlib.Algebra.BigOperators.Group.List.Basic
import Mathlib.Algebra.Group.Pi.Basic
import Mathlib.Algebra.GroupWithZero.Nat
import Mathlib.Algebra.Order.Group.Multiset
import Mathlib.Data.List.Perm.Basic
import Mathlib.Data.UInt
import Mathlib.Tactic.Abel

/-! What the counters show. All that was ever counted is a multiset with the labels of each unit. A counter shows for
labels how many units have their fingerprint, modulo two to the 64th; where no others have it, that is how many units
have these labels. -/
namespace Inventory

/-- What a counter shows when these units were counted. -/
def Counts (reading : List String → UInt64) (units : Multiset (List String)) : Prop :=
  ∀ labels, reading labels =
    .ofNat (units.countP fun unit => Text.Fingerprint.ofTexts labels = Text.Fingerprint.ofTexts unit)

/-- These labels can be told apart by their fingerprints. -/
def Samples.Apart (labels : List (List String)) : Prop :=
  ∀ one ∈ labels, ∀ other ∈ labels, Text.Fingerprint.ofTexts one = Text.Fingerprint.ofTexts other → one = other

instance (labels : List (List String)) : Decidable (Samples.Apart labels) :=
  inferInstanceAs (Decidable (∀ one ∈ labels, ∀ other ∈ labels, _ → _))

theorem countP_mem_cons {first : List String} {rest : List (List String)} (absent : first ∉ rest)
    (units : Multiset (List String)) :
    units.countP (· ∈ first :: rest) = units.count first + units.countP (· ∈ rest) := by
  induction units using Multiset.induction with
  | empty => rfl
  | cons unit units ih =>
    rw [Multiset.countP_cons, Multiset.count_cons, Multiset.countP_cons, ih]
    by_cases same : first = unit
    · subst same
      rw [if_pos List.mem_cons_self, if_pos rfl, if_neg absent]
      omega
    · rw [if_neg same]
      simp only [List.mem_cons, Ne.symm same, false_or]
      omega

theorem countP_single (holds : List String → Prop) [DecidablePred holds] (unit : List String) :
    Multiset.countP holds {unit} = if holds unit then 1 else 0 := by
  rw [← Multiset.cons_zero, Multiset.countP_cons, Multiset.countP_zero, zero_add]

theorem countP_replicate (holds : List String → Prop) [DecidablePred holds] (amount : Nat) (unit : List String) :
    (Multiset.replicate amount unit).countP holds = if holds unit then amount else 0 := by
  rw [← Multiset.coe_replicate, Multiset.coe_countP, List.countP_replicate]
  simp only [decide_eq_true_eq]

theorem countP_sum {Item : Type} (measure : Item → Multiset (List String)) (holds : List String → Prop)
    [DecidablePred holds] (items : List Item) :
    (items.map measure).sum.countP holds = (items.map fun item => (measure item).countP holds).sum := by
  induction items with
  | nil => rfl
  | cons item rest ih => rw [List.map_cons, List.sum_cons, Multiset.countP_add, ih, List.map_cons, List.sum_cons]

theorem sum_map_set {Item Amount : Type} [AddCommMonoid Amount] (measure : Item → Amount) {items : List Item}
    {index : Nat} {old : Item} (found : items[index]? = some old) (new : Item) :
    ((items.set index new).map measure).sum + measure old = (items.map measure).sum + measure new := by
  obtain ⟨inside, rfl⟩ := List.getElem?_eq_some_iff.mp found
  have after := ((List.set_perm_cons_eraseIdx inside new).map measure).sum_eq
  have before := ((List.getElem_cons_eraseIdx_perm inside).map measure).sum_eq
  rw [after, ← before, List.map_cons, List.sum_cons, List.map_cons, List.sum_cons]
  abel

theorem mem_sum {Item : Type} {measure : Item → Multiset (List String)} {items : List Item} {unit : List String}
    (member : unit ∈ (items.map measure).sum) : ∃ item ∈ items, unit ∈ measure item := by
  induction items with
  | nil => cases Multiset.notMem_zero unit member
  | cons item rest ih =>
    rw [List.map_cons, List.sum_cons, Multiset.mem_add] at member
    rcases member with here | later
    · exact ⟨item, List.mem_cons_self, here⟩
    · obtain ⟨other, inside, there⟩ := ih later
      exact ⟨other, List.mem_cons_of_mem item inside, there⟩

namespace Counts
variable {reading : List String → UInt64} {units : Multiset (List String)} {labels : List (List String)}

theorem add {counter : Counter} (counts : Counts counter.count units) (unit : List String) (amount : Nat) :
    Counts (counter.add unit (.ofNat amount)).count (units + Multiset.replicate amount unit) := by
  intro others
  rw [Counter.count_add, Multiset.countP_add, UInt64.ofNat_add, counts others, countP_replicate]
  split
  · rfl
  · exact (UInt64.add_zero _).symm

theorem addAll {Item : Type} {counter : Counter} (counts : Counts counter.count units) (unit : Item → List String)
    (items : List Item) :
    Counts (items.foldl (fun counter item => counter.add (unit item) 1) counter).count (units + items.map unit) := by
  induction items generalizing counter units with
  | nil => exact (add_zero units).symm ▸ counts
  | cons item rest ih =>
    have one := ih (counts.add (unit item) 1)
    rw [Multiset.replicate_one, add_assoc, Multiset.singleton_add, Multiset.cons_coe] at one
    exact one

/-- What is shown for labels that no others are mistaken for is how many units have them. -/
theorem eq_count (counts : Counts reading units) {unit : List String} (apart : Samples.Apart labels)
    (inside : unit ∈ labels) (all : ∀ unit ∈ units, unit ∈ labels) : reading unit = .ofNat (units.count unit) := by
  rw [counts unit, Multiset.count]
  apply congrArg UInt64.ofNat
  refine Multiset.countP_congr rfl fun other member => propext ⟨?_, ?_⟩
  · exact apart unit inside other (all other member)
  · rintro rfl
    rfl

theorem sum_eq (counts : Counts reading units) {several : List (List String)} (distinct : several.Nodup)
    (apart : Samples.Apart labels) (inside : ∀ unit ∈ several, unit ∈ labels) (all : ∀ unit ∈ units, unit ∈ labels) :
    (several.map reading).sum = .ofNat (units.countP (· ∈ several)) := by
  induction several with
  | nil =>
    rw [Multiset.countP_eq_zero.mpr fun _ _ => List.not_mem_nil]
    rfl
  | cons first rest ih =>
    obtain ⟨absent, others⟩ := List.nodup_cons.mp distinct
    obtain ⟨firstInside, restInside⟩ := List.forall_mem_cons.mp inside
    rw [List.map_cons, List.sum_cons, ih others restInside, counts.eq_count apart firstInside all,
      countP_mem_cons absent, UInt64.ofNat_add]

end Counts

/-- The counters that dispatches and publishers write. -/
inductive Meter where
  | dispatched
  | durations
  | conflicts
  | retries
  | stored
  | published

abbrev Units :=
  Meter → Multiset (List String)

theorem Units.sum_apply {Item : Type} (measure : Item → Units) (items : List Item) (meter : Meter) :
    (items.map measure).sum meter = (items.map fun item => measure item meter).sum := by
  induction items with
  | nil => rfl
  | cons item rest ih => rw [List.map_cons, List.sum_cons, Pi.add_apply, ih, List.map_cons, List.sum_cons]

/-- What a counter shows; of durations it is how many there were. -/
def Metrics.read (metrics : Metrics) : Meter → List String → UInt64
  | .dispatched => metrics.dispatched.count
  | .durations => fun labels => .ofNat ((metrics.durations.find? labels).elim 0 Histogram.count)
  | .conflicts => metrics.conflicts.count
  | .retries => metrics.retries.count
  | .stored => metrics.stored.count
  | .published => metrics.published.count

def Metrics.Shows (metrics : Metrics) (units : Units) : Prop :=
  ∀ meter, Counts (metrics.read meter) (units meter)

/-- There are metrics behind a change if there were before, and their counters show the same. -/
def Metrics.Alike (before after : Option Metrics) : Prop :=
  ∀ metrics, before = some metrics → ∃ later, after = some later ∧ later.read = metrics.read

/-- Something that is counted. -/
inductive MetricsCall where
  | dispatched (aggregateType outcome : String) (seconds : Float)
  | conflict (aggregateType : String)
  | retry (operation : String)
  | stored (aggregateType : String) (amount : Nat)
  | published (eventTypes : List String)

namespace MetricsCall

def count (metrics : Metrics) : MetricsCall → Metrics
  | .dispatched aggregateType outcome seconds => metrics.countDispatch aggregateType outcome seconds
  | .conflict aggregateType => metrics.countConflict aggregateType
  | .retry operation => metrics.countRetry operation
  | .stored aggregateType amount => metrics.countStored aggregateType amount
  | .published eventTypes =>
      { metrics with
        published := eventTypes.foldl (fun counter eventType => counter.add [eventType] 1) metrics.published }

def units : MetricsCall → Units
  | .dispatched aggregateType outcome _, .dispatched => {[aggregateType, outcome]}
  | .dispatched aggregateType _ _, .durations => {[aggregateType]}
  | .conflict aggregateType, .conflicts => {[aggregateType]}
  | .retry operation, .retries => {[operation]}
  | .stored aggregateType amount, .stored => Multiset.replicate amount [aggregateType]
  | .published eventTypes, .published => eventTypes.map fun eventType => [eventType]
  | _, _ => 0

theorem units_dispatched (aggregateType outcome : String) (seconds : Float) :
    (dispatched aggregateType outcome seconds).units = (dispatched aggregateType outcome 0).units := by
  funext meter
  cases meter <;> rfl

def ofBatch {Data : Type} (events : List (Event Data)) : MetricsCall :=
  .published (events.map fun event => event.eventType.text)

theorem count_ofBatch {Data : Type} (metrics : Metrics) (events : List (Event Data)) :
    count metrics (ofBatch events) = metrics.countPublished events := by
  rw [ofBatch, count, List.foldl_map]
  rfl

theorem foldl_count_deliveries (metrics : Metrics) (metricsCalls : List MetricsCall) :
    (metricsCalls.foldl count metrics).deliveries = metrics.deliveries := by
  induction metricsCalls generalizing metrics with
  | nil => rfl
  | cons metricsCall rest ih =>
    rw [List.foldl_cons, ih]
    cases metricsCall <;> rfl

/-- What is shown after all of these were counted, if there are any metrics. -/
def countAll (metrics? : Option Metrics) (metricsCalls : List MetricsCall) : Option Metrics :=
  metrics?.map fun metrics => metricsCalls.foldl count metrics

theorem countAll_nil (metrics? : Option Metrics) : countAll metrics? ([] : List MetricsCall) = metrics? := by
  cases metrics? <;> rfl

theorem countAll_append (metrics? : Option Metrics) (metricsCalls more : List MetricsCall) :
    countAll metrics? (metricsCalls ++ more) = countAll (countAll metrics? metricsCalls) more := by
  cases metrics? with
  | none => rfl
  | some metrics => exact congrArg some List.foldl_append

end MetricsCall

namespace Metrics
variable {metrics : Metrics} {units : Units}

theorem shows_empty : empty.Shows 0 := by
  intro meter labels
  cases meter <;> rfl

theorem counts_durations (counts : Counts (metrics.read .durations) (units .durations))
    (aggregateType outcome : String) (seconds : Float) :
    Counts ((metrics.countDispatch aggregateType outcome seconds).read .durations)
      (units .durations + {[aggregateType]}) := by
  intro labels
  rw [Multiset.countP_add, UInt64.ofNat_add, ← counts labels]
  simp only [read, countDispatch, Samples.find?_insert]
  rw [← Multiset.cons_zero, Multiset.countP_cons, Multiset.countP_zero]
  split
  next same =>
    rw [Samples.find?_congr metrics.durations same]
    cases metrics.durations.find? [aggregateType] <;> exact UInt64.ofNat_add ..
  next => exact (UInt64.add_zero _).symm

theorem Shows.metricsCall (shows : metrics.Shows units) (metricsCall : MetricsCall) :
    (metricsCall.count metrics).Shows (units + metricsCall.units) := by
  intro meter
  have counts := shows meter
  rw [Pi.add_apply]
  cases metricsCall with
  | dispatched aggregateType outcome seconds =>
    cases meter with
    | dispatched => exact counts.add _ 1
    | durations => exact counts_durations counts aggregateType outcome seconds
    | conflicts | retries | stored | published => exact (add_zero (units _)).symm ▸ counts
  | conflict aggregateType =>
    cases meter with
    | conflicts => exact counts.add _ 1
    | dispatched | durations | retries | stored | published => exact (add_zero (units _)).symm ▸ counts
  | retry operation =>
    cases meter with
    | retries => exact counts.add _ 1
    | dispatched | durations | conflicts | stored | published => exact (add_zero (units _)).symm ▸ counts
  | stored aggregateType amount =>
    cases meter with
    | stored => exact counts.add _ amount
    | dispatched | durations | conflicts | retries | published => exact (add_zero (units _)).symm ▸ counts
  | published eventTypes =>
    cases meter with
    | published =>
      exact counts.addAll (fun eventType => [eventType]) eventTypes
    | dispatched | durations | conflicts | retries | stored => exact (add_zero (units _)).symm ▸ counts

theorem Shows.metricsCalls (shows : metrics.Shows units) (metricsCalls : List MetricsCall) :
    (metricsCalls.foldl MetricsCall.count metrics).Shows (units + (metricsCalls.map MetricsCall.units).sum) := by
  induction metricsCalls generalizing metrics units with
  | nil =>
    rw [List.map_nil, List.sum_nil, add_zero]
    exact shows
  | cons metricsCall rest ih =>
    rw [List.map_cons, List.sum_cons, ← add_assoc]
    exact ih (shows.metricsCall metricsCall)

end Metrics

end Inventory
