import Inventory.Broker.Publication
import Inventory.Metrics.Health
import Inventory.Proofs.Delivery
import Inventory.Proofs.EventBus.Publishing
import Inventory.Proofs.Metrics

/-! Publications to a broker, any number of them at a time. The breaker changes when a publication is admitted and when
its sending has ended, and each of these publications has its report still before it, in which the gauge is set to what
the breaker is by then. So the gauge is behind only as long as some publication has a report to give, and shows the
breaker once there is none. -/
namespace Inventory

namespace Counter

def total (counter : Counter) : UInt64 :=
  (counter.entries.map Prod.snd).sum

theorem total_add (counter : Counter) (labels : List String) : (counter.add labels 1).total = counter.total + 1 := by
  cases counter.grown_add labels with
  | found alike was becomes =>
    simp only [total, was, becomes, List.map_append, List.map_cons, List.sum_append, List.sum_cons]
    abel
  | begun apart was becomes =>
    simp only [total, was, becomes, List.map_append, List.map_cons, List.sum_append, List.sum_cons]
    abel

end Counter

/-- Between two moments these events were counted as published, one by one, and besides the gauge nothing has changed.
-/
structure Metrics.Grown {Data : Type} (before after : Metrics) (events : Multiset (Event Data)) : Prop where
  total : after.published.total = before.published.total + .ofNat events.card
  /-- What is shown for labels are all events whose types have their fingerprint. -/
  count : ∀ labels, after.published.count labels = before.published.count labels +
    .ofNat (events.countP fun event =>
      Text.Fingerprint.ofTexts labels = Text.Fingerprint.ofTexts [event.eventType.text])
  others : { after with published := before.published, breaker := before.breaker } = before

namespace Metrics
variable {Data : Type} {before after : Metrics} {counted : Multiset (Event Data)}

theorem grown_refl (metrics : Metrics) : metrics.Grown metrics (0 : Multiset (Event Data)) where
  total := (UInt64.add_zero _).symm
  count _ := (UInt64.add_zero _).symm
  others := rfl

theorem Grown.showBreaker (grown : before.Grown after counted) (state : Breaker.State) :
    before.Grown (after.showBreaker state) counted where
  total := grown.total
  count := grown.count
  others := grown.others

theorem Grown.countPublished (grown : before.Grown after counted) (events : List (Event Data)) :
    before.Grown (after.countPublished events) (counted + (events : Multiset (Event Data))) := by
  induction events generalizing after counted with
  | nil => exact (add_zero counted).symm ▸ grown
  | cons event rest ih =>
    have one : before.Grown (after.countPublished [event]) (counted + {event}) :=
      { total := by
          rw [Metrics.countPublished, List.foldl_cons, List.foldl_nil, Counter.total_add, grown.total,
            Multiset.card_add, Multiset.card_singleton, UInt64.ofNat_add, add_assoc]
          rfl
        count := by
          intro labels
          rw [Metrics.countPublished, List.foldl_cons, List.foldl_nil, Counter.count_add, grown.count,
            Multiset.countP_add,
            UInt64.ofNat_add, ← Multiset.cons_zero, Multiset.countP_cons, Multiset.countP_zero]
          split
          · rw [add_assoc]
            rfl
          · exact congrArg _ (UInt64.add_zero _).symm
        others := grown.others }
    have both := ih one
    rwa [add_assoc, Multiset.singleton_add, Multiset.cons_coe] at both

theorem unavailable_iff (metrics : Metrics) : metrics.health.status = 503 ↔ metrics.breakerState = .opened := by
  rw [health]
  cases metrics.breakerState <;> decide

theorem degraded_iff (metrics : Metrics) :
    metrics.health.body.member? "status" = some (.text "degraded") ↔ metrics.breakerState = .opened := by
  have status : metrics.health.body.member? "status" = some (.text (healthWord metrics.breakerState)) := by
    simp [health, Json.ofMembers, Json.member?, Table.find?_insert]
  rw [status]
  cases metrics.breakerState <;> simp [healthWord]

theorem Grown.count_eq (grown : before.Grown after counted) {types : List EventType}
    (apart : Samples.Apart (types.map fun eventType => [eventType.text]))
    (all : ∀ event ∈ counted, event.eventType ∈ types) {eventType : EventType} (inside : eventType ∈ types) :
    after.published.count [eventType.text] =
      before.published.count [eventType.text] + .ofNat (counted.countP fun event => event.eventType = eventType) := by
  rw [grown.count]
  congr 2
  refine Multiset.countP_congr rfl fun event member => propext ⟨fun same => ?_, ?_⟩
  · have labels := apart _ (List.mem_map_of_mem inside) _ (List.mem_map_of_mem (all event member)) same
    cases eventType
    cases kind : event.eventType
    simp_all
  · rintro rfl
    rfl

end Metrics

namespace Broker
variable {Data : Type} [Payload Data]

namespace Publication

/-- It has events, and all of them can be encoded. -/
def Sendable (publication : Publication Data) : Prop :=
  publication.events ≠ [] ∧ ∃ sent, messages publication.events = .ok sent

omit [Payload Data] in
def IsFinished (publication : Publication Data) : Prop :=
  ∃ result, publication.phase = .finished result

omit [Payload Data] in
/-- It has been admitted or refused, and its report is still to come. -/
def OwesReport (publication : Publication Data) : Prop :=
  match publication.phase with
  | .sending _ | .report _ => True
  | .encoding | .admission _ | .finished _ => False

omit [Payload Data] in
def delivered (publication : Publication Data) : Multiset (Event Data) :=
  match publication.phase with
  | .finished (.ok ()) => publication.events
  | _ => 0

/-- How far a publication has come fits its events: only what can be sent gets as far as the breaker. -/
def Fits (publication : Publication Data) : Prop :=
  match publication.phase with
  | .encoding => True
  | .admission _ | .sending _ | .report _ => publication.Sendable
  | .finished result => publication.Sendable ∨ (publication.events = [] ∧ result = .ok ()) ∨
      ∃ fault, messages publication.events = .error fault ∧ result = .error fault

inductive Passage (now : Duration) (publisher : Publisher) (publication : Publication Data) :
    Publication Data → Publisher → Prop
  | idle {result : Except Fault Unit} (found : publication.phase = .finished result) :
      Passage now publisher publication publication publisher
  | empty (found : publication.phase = .encoding) (none : publication.events = []) :
      Passage now publisher publication (publication.moveTo (.finished (.ok ()))) publisher
  | failed {fault : Fault} (found : publication.phase = .encoding)
      (unmade : messages publication.events = .error fault) :
      Passage now publisher publication (publication.moveTo (.finished (.error fault))) publisher
  | encoded {sent : List Message} (found : publication.phase = .encoding) (sendable : publication.Sendable) :
      Passage now publisher publication (publication.moveTo (.admission sent)) publisher
  | refused {sent : List Message} (found : publication.phase = .admission sent) :
      Passage now publisher publication (publication.moveTo (.report (.error .circuitOpen))) publisher
  | admitted {sent : List Message} {breaker : Breaker} (found : publication.phase = .admission sent)
      (entered : publisher.breaker.enter? breakerConfig now = some breaker) :
      Passage now publisher publication (publication.moveTo (.sending sent)) { publisher with breaker }
  | ended {sent : List Message} (found : publication.phase = .sending sent) (answer : Except Cause Unit) :
      Passage now publisher publication (publication.moveTo (.report (answer.mapError .failed)))
        { publisher with breaker := publisher.breaker.complete breakerConfig now (Breaker.outcomeOf answer) }
  | reported {result : Except (Breaker.Error Cause) Unit} (found : publication.phase = .report result) :
      Passage now publisher publication (publication.report publisher result).1 (publication.report publisher result).2

theorem step_passage (publication : Publication Data) (client : Client) (now : Duration) (publisher : Publisher) :
    Passage now publisher publication (publication.step client now publisher).1
      (publication.step client now publisher).2 := by
  unfold step
  split
  next found =>
    unfold encode
    split
    next none => exact .empty found (List.isEmpty_iff.mp none)
    next some =>
      split
      next fault unmade => exact .failed found unmade
      next sent made => exact .encoded found ⟨fun none => some (List.isEmpty_iff.mpr none), sent, made⟩
  next sent found =>
    unfold enter
    split
    next => exact .refused found
    next breaker entered => exact .admitted found entered
  next sent found => exact .ended found (client.sendAll sent)
  next result found => exact .reported found
  next result found => exact .idle found

section
variable {now : Duration} {publisher later : Publisher} {publication next : Publication Data}

theorem Passage.events_eq (passage : Passage now publisher publication next later) :
    next.events = publication.events := by
  cases passage <;> rfl

theorem Passage.fits (passage : Passage now publisher publication next later) (fits : publication.Fits) :
    next.Fits := by
  cases passage with
  | idle found => exact fits
  | empty found none => exact .inr (.inl ⟨none, rfl⟩)
  | failed found unmade => exact .inr (.inr ⟨_, unmade, rfl⟩)
  | encoded found sendable => exact sendable
  | refused found | admitted found entered | ended found answer =>
    rw [Fits, found] at fits
    exact fits
  | reported found =>
    rw [Fits, found] at fits
    exact .inl fits

theorem Passage.publisher_eq (passage : Passage now publisher publication next later) (fits : publication.Fits)
    (unsendable : ¬ publication.Sendable) : later = publisher := by
  cases passage with
  | idle found | empty found none | failed found unmade | encoded found sendable | refused found => rfl
  | admitted found entered | ended found answer | reported found =>
    rw [Fits, found] at fits
    exact absurd fits unsendable

/-- What a step does to the gauge and to the breaker: nothing at all, as the publication has not come to the breaker or
is done with it; or it has a report before it; or it has given it. -/
theorem Passage.gauge (passage : Passage now publisher publication next later) :
    (later = publisher ∧ ¬ publication.OwesReport ∧ (next.Sendable → next.IsFinished → publication.IsFinished)) ∨
      (next.OwesReport ∧ later.metrics = publisher.metrics) ∨
        ∀ shown ∈ later.metrics, shown.breakerState = later.breaker.state := by
  cases passage with
  | idle found => exact .inl ⟨rfl, by simp [OwesReport, found], fun _ finished => finished⟩
  | empty found none => exact .inl ⟨rfl, by simp [OwesReport, found], fun sendable => absurd none sendable.1⟩
  | failed found unmade =>
    refine .inl ⟨rfl, by simp [OwesReport, found], fun sendable => ?_⟩
    obtain ⟨_, sent, made⟩ := sendable
    cases unmade.symm.trans made
  | encoded found sendable => exact .inl ⟨rfl, by simp [OwesReport, found], fun _ ⟨_, finished⟩ => nomatch finished⟩
  | refused found => exact .inr (.inl ⟨trivial, rfl⟩)
  | admitted found entered => exact .inr (.inl ⟨trivial, rfl⟩)
  | ended found answer => exact .inr (.inl ⟨trivial, rfl⟩)
  | reported found =>
    refine .inr (.inr fun shown member => ?_)
    obtain ⟨before, _, rfl⟩ := Option.map_eq_some_iff.mp member
    split <;> exact Metrics.breakerState_showBreaker before publisher.breaker.state

theorem Passage.grown (passage : Passage now publisher publication next later) {start shown : Metrics}
    {counted : Multiset (Event Data)} (grown : start.Grown shown counted) (known : publisher.metrics = some shown) :
    ∃ after more, later.metrics = some after ∧ next.delivered = publication.delivered + more ∧
      start.Grown after (counted + more) := by
  have kept : start.Grown shown (counted + 0) := (add_zero counted).symm ▸ grown
  cases passage with
  | idle found => exact ⟨shown, 0, known, (add_zero _).symm, kept⟩
  | empty found none =>
    refine ⟨shown, 0, known, ?_, kept⟩
    simp [delivered, found, moveTo, none]
  | failed found unmade | encoded found sendable | refused found | admitted found entered | ended found answer =>
    refine ⟨shown, 0, known, ?_, kept⟩
    simp [delivered, found, moveTo]
  | @reported result found =>
    have seen := grown.showBreaker publisher.breaker.state
    cases result with
    | ok done =>
      refine ⟨_, publication.events, by rw [report, known]; rfl, ?_, seen.countPublished publication.events⟩
      simp [delivered, found, report, moveTo, outcome]
    | error reason =>
      refine ⟨_, 0, by rw [report, known]; rfl, ?_, (add_zero counted).symm ▸ seen⟩
      cases reason <;> simp [delivered, found, report, moveTo, outcome]

end

end Publication

/-- A publisher and all publications that were begun with it. -/
structure Outlet (Data : Type) where
  publisher : Publisher
  publications : List (Publication Data) := []

namespace Outlet

inductive Move (Data : Type) where
  | begin (events : List (Event Data))
  | advance (index : Nat) (client : Client) (now : Duration)

def step (outlet : Outlet Data) : Move Data → Outlet Data
  | .begin events => { outlet with publications := outlet.publications ++ [{ events }] }
  | .advance index client now =>
      match outlet.publications[index]? with
      | none => outlet
      | some publication =>
          let (next, publisher) := publication.step client now outlet.publisher
          { publisher, publications := outlet.publications.set index next }

def run (outlet : Outlet Data) (moves : List (Move Data)) : Outlet Data :=
  moves.foldl step outlet

omit [Payload Data] in
def delivered (outlet : Outlet Data) : Multiset (Event Data) :=
  (outlet.publications.map Publication.delivered).sum

/-- The gauge shows the breaker, or a report is due that will make it do so, or nothing has yet been reported. -/
def Shown (outlet : Outlet Data) (shown : Metrics) : Prop :=
  shown.breakerState = outlet.publisher.breaker.state ∨
    (∃ publication ∈ outlet.publications, publication.OwesReport) ∨
      ∀ publication ∈ outlet.publications, publication.Sendable → ¬ publication.IsFinished

/-- What holds of the publications and of what is shown of them. -/
structure Tracked (start shown : Metrics) (outlet : Outlet Data) : Prop where
  metrics : outlet.publisher.metrics = some shown
  fits : ∀ publication ∈ outlet.publications, publication.Fits
  gauge : outlet.Shown shown
  grown : start.Grown shown outlet.delivered

variable {outlet : Outlet Data} {start shown : Metrics}

theorem tracked_opening (breaker : Breaker) (metrics : Metrics) :
    Tracked metrics metrics ({ publisher := { breaker, metrics := some metrics } } : Outlet Data) where
  metrics := rfl
  fits := List.forall_mem_nil _
  gauge := .inr (.inr (List.forall_mem_nil _))
  grown := metrics.grown_refl

theorem Tracked.begin (tracked : outlet.Tracked start shown) (events : List (Event Data)) :
    (outlet.step (.begin events)).Tracked start shown where
  metrics := tracked.metrics
  fits := List.forall_mem_append.mpr ⟨tracked.fits, List.forall_mem_singleton.mpr trivial⟩
  gauge := by
    rcases tracked.gauge with same | ⟨publication, member, owes⟩ | unreported
    · exact .inl same
    · exact .inr (.inl ⟨publication, List.mem_append_left _ member, owes⟩)
    · refine .inr (.inr (List.forall_mem_append.mpr ⟨unreported, List.forall_mem_singleton.mpr ?_⟩))
      exact fun _ ⟨_, finished⟩ => nomatch finished
  grown := by
    have same : (outlet.step (.begin events)).delivered = outlet.delivered := by
      simp [delivered, step, Publication.delivered]
    rw [same]
    exact tracked.grown

theorem eq_or_mem_set {Item : Type} {items : List Item} {index : Nat} {old : Item} (found : items[index]? = some old)
    (new : Item) {item : Item} (member : item ∈ items) : item = old ∨ item ∈ items.set index new := by
  obtain ⟨place, there⟩ := List.mem_iff_getElem?.mp member
  by_cases same : index = place
  · subst same
    exact .inl (Option.some.inj (there.symm.trans found))
  · refine .inr (List.mem_iff_getElem?.mpr ⟨place, ?_⟩)
    rw [List.getElem?_set_ne same, there]

theorem Tracked.advance (tracked : outlet.Tracked start shown) {index : Nat} {publication next : Publication Data}
    {now : Duration} {publisher : Publisher} (found : outlet.publications[index]? = some publication)
    (passage : publication.Passage now outlet.publisher next publisher) :
    ∃ later, Tracked start later { publisher, publications := outlet.publications.set index next } := by
  have inside : next ∈ outlet.publications.set index next :=
    List.mem_set (List.getElem?_eq_some_iff.mp found).1 next
  obtain ⟨later, more, known, counts, grown⟩ := passage.grown tracked.grown tracked.metrics
  refine ⟨later, known, ?_, ?_, ?_⟩
  · intro other member
    rcases List.mem_or_eq_of_mem_set member with old | rfl
    · exact tracked.fits other old
    · exact passage.fits (tracked.fits publication (List.mem_of_getElem? found))
  · rcases passage.gauge with ⟨rfl, clear, finished⟩ | ⟨owes, _⟩ | shows
    · cases known.symm.trans tracked.metrics
      rcases tracked.gauge with same | ⟨other, member, owes⟩ | unreported
      · exact .inl same
      · rcases eq_or_mem_set found next member with rfl | kept
        · exact absurd owes clear
        · exact .inr (.inl ⟨other, kept, owes⟩)
      · refine .inr (.inr fun other member => ?_)
        rcases List.mem_or_eq_of_mem_set member with old | rfl
        · exact unreported other old
        · have before := unreported publication (List.mem_of_getElem? found)
          rw [Publication.Sendable, ← passage.events_eq] at before
          exact fun sendable done => before sendable (finished sendable done)
    · exact .inr (.inl ⟨next, inside, owes⟩)
    · exact .inl (shows later known)
  · have sum := sum_map_set Publication.delivered found next
    rw [counts, add_comm publication.delivered, ← add_assoc] at sum
    rw [delivered, add_right_cancel sum]
    exact grown

theorem Tracked.step (tracked : outlet.Tracked start shown) (move : Move Data) :
    ∃ later, Tracked start later (outlet.step move) := by
  cases move with
  | begin events => exact ⟨shown, tracked.begin events⟩
  | advance index client now =>
    simp only [Outlet.step]
    split
    next => exact ⟨shown, tracked⟩
    next publication found => exact tracked.advance found (publication.step_passage client now outlet.publisher)

theorem Tracked.run (tracked : outlet.Tracked start shown) (moves : List (Move Data)) :
    ∃ later, Tracked start later (outlet.run moves) := by
  induction moves generalizing outlet shown with
  | nil => exact ⟨shown, tracked⟩
  | cons move moves ih =>
    obtain ⟨later, next⟩ := tracked.step move
    exact ih next

theorem Tracked.publisher_eq (tracked : outlet.Tracked start shown) {index : Nat} {publication : Publication Data}
    (found : outlet.publications[index]? = some publication) (unsendable : ¬ publication.Sendable) (client : Client)
    (now : Duration) : (outlet.step (.advance index client now)).publisher = outlet.publisher := by
  have fits := tracked.fits publication (List.mem_of_getElem? found)
  simp only [Outlet.step, found]
  exact (publication.step_passage client now outlet.publisher).publisher_eq fits unsendable

/-- Once a batch has come to the breaker and no publication is under way, the gauge shows the breaker. -/
theorem Tracked.breakerState_eq (tracked : outlet.Tracked start shown)
    (rests : ∀ publication ∈ outlet.publications, publication.IsFinished)
    (reached : ∃ publication ∈ outlet.publications, publication.Sendable) :
    shown.breakerState = outlet.publisher.breaker.state := by
  rcases tracked.gauge with same | ⟨publication, member, owes⟩ | unreported
  · exact same
  · obtain ⟨result, finished⟩ := rests publication member
    rw [Publication.OwesReport, finished] at owes
    exact owes.elim
  · obtain ⟨publication, member, sendable⟩ := reached
    exact absurd (rests publication member) (unreported publication member sendable)

/-- However publications overlap, whatever the client answers and the clock shows: once a batch that can be sent has
been through and none is under way, the gauge shows the breaker, and the health report is that of a degraded service
just if the breaker is open. At any time the counter of published events has grown by the events of the publications
that came off, type by type where the types can be told apart, and besides the gauge nothing else in the metrics has
changed. A batch that cannot be sent, being empty or failing to be encoded, changes neither breaker nor metrics. -/
theorem tracked_run (breaker : Breaker) (metrics : Metrics) (moves : List (Move Data)) :
    let outlet := run { publisher := { breaker, metrics := some metrics } } moves
    ∃ shown, outlet.publisher.metrics = some shown ∧
      ((∀ publication ∈ outlet.publications, publication.IsFinished) →
        (∃ publication ∈ outlet.publications, publication.Sendable) →
          shown.breakerState = outlet.publisher.breaker.state ∧
            (shown.health.status = 503 ↔ outlet.publisher.breaker.state = .opened) ∧
            (shown.health.body.member? "status" = some (.text "degraded") ↔
              outlet.publisher.breaker.state = .opened)) ∧
      metrics.Grown shown outlet.delivered ∧
      (∀ types : List EventType, Samples.Apart (types.map fun eventType => [eventType.text]) →
        (∀ event ∈ outlet.delivered, event.eventType ∈ types) → ∀ eventType ∈ types,
          shown.published.count [eventType.text] = metrics.published.count [eventType.text] +
            .ofNat (outlet.delivered.countP fun event => event.eventType = eventType)) ∧
      ∀ index publication, outlet.publications[index]? = some publication → ¬ publication.Sendable →
        ∀ client now, (outlet.step (.advance index client now)).publisher = outlet.publisher := by
  intro outlet
  obtain ⟨shown, tracked⟩ := (tracked_opening breaker metrics).run moves
  refine ⟨shown, tracked.metrics, fun rests reached => ?_, tracked.grown,
    fun types apart all eventType inside => tracked.grown.count_eq apart all inside,
    fun index publication found unsendable client now => tracked.publisher_eq found unsendable client now⟩
  have same := tracked.breakerState_eq rests reached
  refine ⟨same, ?_, ?_⟩
  · rw [← same]
    exact shown.unavailable_iff
  · rw [← same]
    exact shown.degraded_iff

end Outlet

end Broker

namespace Household

/-- Three batches at a time, of which one cannot be encoded. Of the two that are being sent one fails and opens the
breaker, and then the other one comes off. -/
def overlappingBatches : List (Broker.Outlet.Move Parcel) :=
  let up : Broker.Client := fun _ => .ok ()
  let down : Broker.Client := fun _ => .error ⟨"broker down", []⟩
  [.begin [founding], .begin [parcel .unencodable 2], .begin [extension], .advance 0 up .zero, .advance 1 up .zero,
    .advance 2 up .zero, .advance 0 up .zero, .advance 2 up .zero, .advance 2 down .zero, .advance 0 up .zero,
    .advance 2 up .zero, .advance 0 up .zero]

def strained : Breaker where
  failures := 4

theorem tracked_overlappingBatches : ∃ shown,
    (Broker.Outlet.run { publisher := ⟨strained, some .empty⟩ } overlappingBatches).publisher.metrics = some shown ∧
      shown.breakerState = .opened ∧ shown.health.status = 503 ∧ shown.published.total = 1 := by
  obtain ⟨shown, known, gauge, grown, -⟩ := Broker.Outlet.tracked_run strained .empty overlappingBatches
  have ended : (Broker.Outlet.run { publisher := ⟨strained, some .empty⟩ } overlappingBatches).publications =
      [⟨[founding], .finished (.ok ())⟩,
        ⟨[parcel .unencodable 2], .finished (.error (.undecodable (.unencodable "no value")))⟩,
        ⟨[extension], .finished (.error (.publish ⟨"broker down", []⟩))⟩] := rfl
  have opened :
      (Broker.Outlet.run { publisher := ⟨strained, some .empty⟩ } overlappingBatches).publisher.breaker.state =
        .opened := rfl
  rw [ended, opened] at gauge
  have sendable : (⟨[founding], .finished (.ok ())⟩ : Broker.Publication Parcel).Sendable := ⟨nofun, _, rfl⟩
  obtain ⟨same, unavailable, -⟩ := gauge (by simp [Broker.Publication.IsFinished]) ⟨_, .head _, sendable⟩
  refine ⟨shown, known, same, unavailable.mpr rfl, ?_⟩
  have total := grown.total
  rw [Broker.Outlet.delivered, ended] at total
  exact total

end Household

end Inventory
