import Inventory.Delivery
import Inventory.Proofs.Traffic.Tally

/-! What a delivery comes to. A message is read as an envelope, held against the interest of the handler, and decoded;
the handler is called with what decoding yields, once, or not at all. A delivery with an outcome is one more in the
sample that the outcome is found by, and nothing else is counted. -/
namespace Inventory
variable {Data State : Type}

/-- One sample is greater by one, that with the fingerprint of these labels, or there was none with this fingerprint and
one begins; all other samples are what they were. -/
inductive Samples.Grown (labels : List String) (before after : Samples UInt64) : Prop
  | found {front behind : Table (List String) UInt64} {present : List String} {value : UInt64}
      (alike : Text.Fingerprint.ofTexts present = Text.Fingerprint.ofTexts labels)
      (was : before.entries = front ++ (present, value) :: behind)
      (becomes : after.entries = front ++ (present, value + 1) :: behind)
  | begun {front behind : Table (List String) UInt64}
      (apart : ∀ entry ∈ before.entries, Text.Fingerprint.ofTexts entry.1 ≠ Text.Fingerprint.ofTexts labels)
      (was : before.entries = front ++ behind) (becomes : after.entries = front ++ (labels, 1) :: behind)

namespace Samples

theorem findIn_eq_none {labels : List String} {entries : Table (List String) UInt64} :
    findIn labels entries = none ↔
      ∀ entry ∈ entries, Text.Fingerprint.ofTexts entry.1 ≠ Text.Fingerprint.ofTexts labels := by
  induction entries with
  | nil => simp [findIn]
  | cons entry rest ih =>
    obtain ⟨present, value⟩ := entry
    rw [findIn, List.forall_mem_cons]
    split
    next same => simp [same]
    next other => rw [ih, and_iff_right other]

theorem replaceIn_eq {labels : List String} {entries : Table (List String) UInt64} {value : UInt64}
    (found : findIn labels entries = some value) (next : UInt64) : ∃ front present behind,
      Text.Fingerprint.ofTexts present = Text.Fingerprint.ofTexts labels ∧
        entries = front ++ (present, value) :: behind ∧
          replaceIn labels next entries = front ++ (present, next) :: behind := by
  induction entries with
  | nil => cases found
  | cons entry rest ih =>
    obtain ⟨present, old⟩ := entry
    rw [findIn] at found
    rw [replaceIn]
    split at found
    next same =>
      cases found
      rw [if_pos same]
      exact ⟨[], present, rest, same, rfl, rfl⟩
    next other =>
      obtain ⟨front, first, behind, alike, whole, replaced⟩ := ih found
      rw [if_neg other, replaced, whole]
      exact ⟨(present, old) :: front, first, behind, alike, rfl, rfl⟩

theorem insert_eq {labels : List String} {entries : Table (List String) UInt64}
    (absent : ∀ entry ∈ entries, entry.1 ≠ labels) (value : UInt64) :
    ∃ front behind, entries = front ++ behind ∧ entries.insert labels value = front ++ (labels, value) :: behind := by
  induction entries with
  | nil => exact ⟨[], [], rfl, rfl⟩
  | cons entry rest ih =>
    obtain ⟨present, old⟩ := entry
    obtain ⟨other, others⟩ := List.forall_mem_cons.mp absent
    rw [Table.insert, if_neg (Ne.symm other)]
    split
    next => exact ⟨[], (present, old) :: rest, rfl, rfl⟩
    next =>
      obtain ⟨front, behind, whole, inserted⟩ := ih others
      rw [inserted, whole]
      exact ⟨(present, old) :: front, behind, rfl, rfl⟩

end Samples

theorem Counter.grown_add (counter : Counter) (labels : List String) :
    Samples.Grown labels counter (counter.add labels 1) := by
  cases found : Samples.findIn labels counter.entries with
  | some value =>
    have added : (counter.add labels 1).entries = Samples.replaceIn labels (value + 1) counter.entries := by
      simp [add, count, Samples.insert, Samples.find?, found]
    obtain ⟨front, present, behind, alike, was, replaced⟩ := Samples.replaceIn_eq found (value + 1)
    exact .found alike was (added.trans replaced)
  | none =>
    have added : (counter.add labels 1).entries = Table.insert counter.entries labels 1 := by
      simp [add, count, Samples.insert, Samples.find?, found]
    have apart := Samples.findIn_eq_none.mp found
    obtain ⟨front, behind, was, inserted⟩ := Samples.insert_eq
      (fun entry member same => apart entry member (by rw [same])) 1
    exact .begun apart was (added.trans inserted)

namespace Handler
variable [Payload Data] {registry : EventRegistry Data} {message : List UInt8} {record : Record}

omit [Payload Data] in
/-- The same handler, which also notes the events that it is called with. -/
def noting (handler : Handler Data State) : Handler Data (State × List (Event Data)) where
  name := handler.name
  interest := handler.interest
  handle noted event :=
    let (state, reaction) := handler.handle noted.1 event
    ((state, noted.2 ++ [event]), reaction)

theorem react_malformed (handler : Handler Data State) {fault : Fault}
    (unread : Record.read message = .error fault) (state : State) :
    handler.react registry state message = (state, some .undecodable) := by
  rw [react, unread]

theorem react_unwanted (handler : Handler Data State) (read : Record.read message = .ok record)
    (other : record.eventType ∉ handler.interest) (state : State) :
    handler.react registry state message = (state, some .skipped) := by
  rw [react, read]
  exact if_pos other

theorem react_wanted (handler : Handler Data State) (read : Record.read message = .ok record)
    (wanted : record.eventType ∈ handler.interest) (state : State) : handler.react registry state message =
      match registry.unmarshal message with
      | .error _ => (state, some .undecodable)
      | .ok event => ((handler.handle state event).1, (handler.handle state event).2.delivery?) := by
  rw [react, EventRegistry.unmarshal, read]
  exact if_neg (not_not_intro wanted)

/-- Noting the calls makes no difference to the handler. -/
theorem react_noting (handler : Handler Data State) (registry : EventRegistry Data)
    (noted : State × List (Event Data)) (message : List UInt8) :
    ((handler.noting.react registry noted message).1.1, (handler.noting.react registry noted message).2) =
      handler.react registry noted.1 message := by
  cases read : Record.read message with
  | error fault => rw [react_malformed _ read, react_malformed _ read]
  | ok record =>
    by_cases wanted : record.eventType ∈ handler.interest
    · rw [react_wanted handler read wanted, react_wanted handler.noting read wanted]
      cases registry.unmarshal message <;> rfl
    · rw [react_unwanted handler read wanted, react_unwanted handler.noting read wanted]

def counted (handler : Handler Data State) (metrics : Option Metrics) : Option Delivery → Option Metrics
  | none => metrics
  | some delivery => metrics.map (·.countDelivery handler.name delivery.label)

theorem deliver_eq (handler : Handler Data State) (metrics : Option Metrics) (state : State) :
    handler.deliver registry metrics state message =
      ((handler.react registry state message).2,
        handler.counted metrics (handler.react registry state message).2,
        (handler.react registry state message).1) := by
  rw [deliver]
  split
  next crashed =>
    rw [crashed]
    rfl
  next ended =>
    rw [ended]
    rfl

/-- For every message: one that is no envelope is undecodable, one of a type that is not wanted is skipped, whatever its
payload, and one that is wanted comes to what decoding it comes to. The handler is called only where there is an event,
with that event and once, and its answer is the outcome. Where there are metrics, one delivery more is shown in one
sample, and nothing else changes. -/
theorem delivered_as_decoded (handler : Handler Data State) (registry : EventRegistry Data)
    (metrics : Option Metrics) (state : State) (message : List UInt8) :
    let delivery := handler.noting.deliver registry metrics (state, []) message
    let outcome := delivery.1
    let counted := delivery.2.1
    let later := delivery.2.2.1
    let calls := delivery.2.2.2
    handler.deliver registry metrics state message = (outcome, counted, later) ∧
    (∀ fault, Record.read message = .error fault → outcome = some .undecodable ∧ calls = [] ∧ later = state) ∧
    (∀ record, Record.read message = .ok record → record.eventType ∉ handler.interest →
      outcome = some .skipped ∧ calls = [] ∧ later = state) ∧
    (∀ record, Record.read message = .ok record → record.eventType ∈ handler.interest →
      (∀ fault, registry.unmarshal message = .error fault →
        outcome = some .undecodable ∧ calls = [] ∧ later = state) ∧
      ∀ event, registry.unmarshal message = .ok event →
        calls = [event] ∧ later = (handler.handle state event).1 ∧
        (outcome = some .handled ↔ (handler.handle state event).2 = .handled) ∧
        (outcome = some .failed ↔ (handler.handle state event).2 = .failed) ∧
        (outcome = none ↔ (handler.handle state event).2 = .crashed)) ∧
    (metrics = none → counted = none) ∧
    ∀ before, metrics = some before →
      (outcome = none → counted = some before) ∧
      ∀ delivered, outcome = some delivered → ∃ after, counted = some after ∧
        Samples.Grown [handler.name, delivered.label] before.deliveries after.deliveries ∧
          after = { before with deliveries := after.deliveries } := by
  intro delivery outcome counted later calls
  have whole : delivery = _ := handler.noting.deliver_eq metrics (state, [])
  have outcome_eq : outcome = (handler.noting.react registry (state, []) message).2 := congrArg Prod.fst whole
  have counted_eq : counted = handler.counted metrics outcome := by
    rw [outcome_eq]
    exact congrArg (·.2.1) whole
  have noted : (later, calls) = (handler.noting.react registry (state, []) message).1 := congrArg (·.2.2) whole
  refine ⟨?_, ?_, ?_, ?_, ?_, ?_⟩
  · have same := handler.react_noting registry (state, []) message
    rw [← noted, ← outcome_eq] at same
    rw [deliver_eq, ← same, counted_eq]
  · intro fault unread
    rw [handler.noting.react_malformed unread] at noted outcome_eq
    exact ⟨outcome_eq, congrArg Prod.snd noted, congrArg Prod.fst noted⟩
  · intro record read other
    rw [handler.noting.react_unwanted read other] at noted outcome_eq
    exact ⟨outcome_eq, congrArg Prod.snd noted, congrArg Prod.fst noted⟩
  · intro record read wanted
    rw [handler.noting.react_wanted read wanted] at noted outcome_eq
    constructor
    · intro fault failed
      rw [failed] at noted outcome_eq
      exact ⟨outcome_eq, congrArg Prod.snd noted, congrArg Prod.fst noted⟩
    · intro event decoded
      rw [decoded] at noted outcome_eq
      have answered : outcome = (handler.handle state event).2.delivery? := outcome_eq
      refine ⟨congrArg Prod.snd noted, congrArg Prod.fst noted, ?_⟩
      rw [answered]
      cases (handler.handle state event).2 <;> simp [Reaction.delivery?]
  · rintro rfl
    rw [counted_eq]
    cases outcome <;> rfl
  · rintro before rfl
    constructor
    · intro none
      rw [counted_eq, none]
      rfl
    · intro delivered some
      rw [counted_eq, some]
      exact ⟨_, rfl, Counter.grown_add before.deliveries _, rfl⟩

end Handler

namespace Tally

def hearer (name : String) : Handler Mark Nat where
  name
  interest := [markType]
  handle count _ := (count + 1, .handled)

def message : List UInt8 :=
  Record.bytes ⟨stream, markType, .null, 0, 1⟩

/-- The labels of two handlers may have one fingerprint. What is delivered to the second of them is shown as the first
one's. -/
theorem misattributed :
    let first := (hearer "77kepQFQ8Kl").deliver registry (some .empty) 0 message
    let second := (hearer "!0IC=VloaY").deliver registry first.2.1 0 message
    second.1 = some .handled ∧
      first.2.1.map (·.deliveries.entries) = some [(["77kepQFQ8Kl", "handled"], 1)] ∧
      second.2.1.map (·.deliveries.entries) = some [(["77kepQFQ8Kl", "handled"], 2)] := by
  decide +kernel

end Tally

end Inventory
