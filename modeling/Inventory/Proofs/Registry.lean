import Inventory.Registry
import Mathlib.Data.List.Forall2

/-! A registered type keeps what it was registered with. What a record says is read by the decoder of its type, or is
refused; rows are read record by record, and as a whole refused with the first record that is. -/
namespace Inventory.EventRegistry
variable {Data : Type} [Payload Data]

/-- The event that a record tells of: the decoder of its type yields the payload, and the record itself the rest. -/
inductive Reads (registry : EventRegistry Data) (record : Record) : Event Data → Prop
  | known {kind : EventKind Data} {data : Data} (found : registry.find? record.eventType = some kind)
      (decoded : kind.decode record.data = .ok data) :
      Reads registry record ⟨record.stream, record.eventType, data, record.timestamp, record.version⟩

/-- Why a record cannot be decoded: nobody knows its type, or its payload is none of this type. -/
inductive Refuses (registry : EventRegistry Data) (record : Record) : Fault → Prop
  | unknown (absent : registry.find? record.eventType = none) :
      Refuses registry record (.unknownEventType record.eventType)
  | malformed {kind : EventKind Data} {flaw : Json.Flaw} (known : registry.find? record.eventType = some kind)
      (failed : kind.decode record.data = .error flaw) : Refuses registry record (.undecodable flaw)

theorem register_eq_ok {registry registered : EventRegistry Data} {kind : EventKind Data} :
    registry.register kind = .ok registered ↔
      registry.find? kind.eventType = none ∧ registered = ⟨registry.kinds ++ [kind]⟩ := by
  unfold register contains
  cases registry.find? kind.eventType <;> simp [eq_comm]

theorem find?_register {registry registered : EventRegistry Data} {kind : EventKind Data}
    (success : registry.register kind = .ok registered) (eventType : EventType) :
    registered.find? eventType =
      if kind.eventType = eventType then some kind else registry.find? eventType := by
  obtain ⟨absent, rfl⟩ := register_eq_ok.mp success
  unfold find? at absent ⊢
  rw [List.find?_append]
  by_cases same : kind.eventType = eventType
  · subst same
    rw [absent, if_pos rfl]
    simp
  · rw [if_neg same, List.find?_cons_of_neg (by simpa using same)]
    simp

theorem find?_registerAll_of_find? {before after : EventRegistry Data} {kinds : List (EventKind Data)}
    {fault? : Option Fault} (registered : before.registerAll kinds = (after, fault?))
    {eventType : EventType} {known : EventKind Data} (found : before.find? eventType = some known) :
    after.find? eventType = some known := by
  induction kinds generalizing before with
  | nil =>
    cases registered
    exact found
  | cons kind rest ih =>
    rw [registerAll] at registered
    split at registered
    · cases registered
      exact found
    next next success =>
      have other : kind.eventType ≠ eventType := by
        rintro rfl
        rw [(register_eq_ok.mp success).1] at found
        cases found
      apply ih registered
      rw [find?_register success, if_neg other]
      exact found

theorem find?_registerAll {before after : EventRegistry Data} {kinds : List (EventKind Data)}
    (registered : before.registerAll kinds = (after, none)) {kind : EventKind Data} (member : kind ∈ kinds) :
    after.find? kind.eventType = some kind := by
  induction kinds generalizing before with
  | nil => cases member
  | cons first rest ih =>
    rw [registerAll] at registered
    split at registered
    · cases registered
    next next success =>
      rcases List.mem_cons.mp member with rfl | later
      · apply find?_registerAll_of_find? registered
        rw [find?_register success, if_pos rfl]
      · exact ih registered later

section
variable {registry : EventRegistry Data} {record : Record} {rows : List Record} {history : List (Event Data)}
  {fault : Fault}

theorem decodeRecord_eq_ok {event : Event Data} :
    registry.decodeRecord record = .ok event ↔ registry.Reads record event := by
  unfold decodeRecord decode
  constructor
  · intro decoded
    split at decoded
    next => cases decoded
    next data yields =>
      cases decoded
      split at yields
      next => cases yields
      next kind found =>
        split at yields
        next => cases yields
        next data known =>
          cases yields
          exact .known found known
  · rintro ⟨found, known⟩
    rw [found]
    simp only [known]

theorem decodeRecord_eq_error : registry.decodeRecord record = .error fault ↔ registry.Refuses record fault := by
  unfold decodeRecord decode
  constructor
  · intro failed
    split at failed
    next other undecoded =>
      cases failed
      split at undecoded
      next absent =>
        cases undecoded
        exact .unknown absent
      next kind known =>
        split at undecoded
        next flaw malformed =>
          cases undecoded
          exact .malformed known malformed
        next => cases undecoded
    next => cases failed
  · rintro (absent | ⟨known, failed⟩)
    · rw [absent]
    · rw [known]
      simp only [failed]

theorem decodeRecord_version {event : Event Data} (decoded : registry.decodeRecord record = .ok event) :
    event.version = record.version := by
  cases decodeRecord_eq_ok.mp decoded
  rfl

theorem decodeRecord_eventType {event : Event Data} (decoded : registry.decodeRecord record = .ok event) :
    event.eventType = record.eventType := by
  cases decodeRecord_eq_ok.mp decoded
  rfl

theorem decodeRecords_cons (registry : EventRegistry Data) (record : Record) (rest : List Record)
    (history : List (Event Data)) :
    registry.decodeRecords (record :: rest) = .ok history ↔
      ∃ event events, registry.decodeRecord record = .ok event ∧
        registry.decodeRecords rest = .ok events ∧ history = event :: events := by
  rw [decodeRecords]
  cases registry.decodeRecord record with
  | error fault => simp
  | ok event =>
    cases registry.decodeRecords rest with
    | error fault => simp
    | ok events => simp [eq_comm]

theorem decodeRecords_eq_ok : registry.decodeRecords rows = .ok history ↔
    List.Forall₂ (fun row event => registry.decodeRecord row = .ok event) rows history := by
  induction rows generalizing history with
  | nil => rw [List.forall₂_nil_left_iff, decodeRecords, Except.ok.injEq, eq_comm]
  | cons row rest ih =>
    rw [decodeRecords_cons, List.forall₂_cons_left_iff]
    simp only [ih]

/-- The first row that cannot be decoded stands for all that come behind it. -/
theorem decodeRecords_eq_error_iff : registry.decodeRecords rows = .error fault ↔
    ∃ before row after, rows = before ++ row :: after ∧
      (∀ earlier ∈ before, ∃ event, registry.decodeRecord earlier = .ok event) ∧ registry.Refuses row fault := by
  induction rows with
  | nil =>
    constructor
    · intro failed
      cases failed
    · rintro ⟨before, row, after, split, _⟩
      exact absurd split (by simp)
  | cons first rest ih =>
    rw [decodeRecords]
    constructor
    · intro failed
      split at failed
      next other undecoded =>
        cases failed
        exact ⟨[], first, rest, rfl, List.forall_mem_nil _, decodeRecord_eq_error.mp undecoded⟩
      next event decoded =>
        split at failed
        next other undecoded =>
          cases failed
          obtain ⟨before, row, after, rfl, readable, refused⟩ := ih.mp undecoded
          exact ⟨first :: before, row, after, rfl, List.forall_mem_cons.mpr ⟨⟨event, decoded⟩, readable⟩, refused⟩
        next => cases failed
    · rintro ⟨before, row, after, split, readable, refused⟩
      cases before with
      | nil =>
        cases split
        rw [decodeRecord_eq_error.mpr refused]
      | cons earlier before =>
        cases split
        obtain ⟨⟨event, decoded⟩, others⟩ := List.forall_mem_cons.mp readable
        rw [decoded, ih.mpr ⟨before, row, after, rfl, others, refused⟩]

theorem decodeRecords_fault (failed : registry.decodeRecords rows = .error fault) :
    fault.isConflict = false ∧ fault.isPublish = false := by
  obtain ⟨_, _, _, _, _, refused⟩ := decodeRecords_eq_error_iff.mp failed
  cases refused <;> exact ⟨rfl, rfl⟩

theorem decodeRecords_append {more : List Record} {events : List (Event Data)}
    (decoded : registry.decodeRecords rows = .ok history) (others : registry.decodeRecords more = .ok events) :
    registry.decodeRecords (rows ++ more) = .ok (history ++ events) :=
  decodeRecords_eq_ok.mpr (List.rel_append (decodeRecords_eq_ok.mp decoded) (decodeRecords_eq_ok.mp others))

theorem decodeRecords_eventTypes (decoded : registry.decodeRecords rows = .ok history) :
    history.map Event.eventType = rows.map Record.eventType := by
  rw [decodeRecords_eq_ok] at decoded
  induction decoded with
  | nil => rfl
  | cons first _ ih => rw [List.map_cons, List.map_cons, ih, decodeRecord_eventType first]

theorem decodeRecords_versions (decoded : registry.decodeRecords rows = .ok history) :
    history.map Event.version = rows.map Record.version := by
  rw [decodeRecords_eq_ok] at decoded
  induction decoded with
  | nil => rfl
  | cons first _ ih => rw [List.map_cons, List.map_cons, ih, decodeRecord_version first]

end

end Inventory.EventRegistry
