import Inventory.Household.Part
import Inventory.Proofs.Registry
import Mathlib.Data.Finset.Card
import Mathlib.Tactic.Common

/-! Registering, over all the calls that fill the registries. What is registered first under a name stays, whatever is
registered later, and a call that registers several things stops at the first name that is taken. A journal notes each
single registration that was tried, and how it ended. -/
namespace Inventory

/-- Of all items that were offered, the first with each key were kept, and no others. -/
structure Firsts {Item Key : Type} [DecidableEq Key] (key : Item → Key) (kept offered : List Item) : Prop where
  find?_eq : ∀ asked, kept.find? (fun item => key item = asked) = offered.find? fun item => key item = asked
  nodup : (kept.map key).Nodup

namespace Firsts
variable {Item Key : Type} [DecidableEq Key] {key : Item → Key} {kept offered : List Item} {item : Item}

theorem find?_isSome_iff {items : List Item} {asked : Key} :
    (items.find? fun item => key item = asked).isSome ↔ asked ∈ items.map key := by
  simp [List.find?_isSome]

theorem nil : Firsts key [] [] :=
  ⟨fun _ => rfl, List.nodup_nil⟩

theorem mem_keys_iff (firsts : Firsts key kept offered) {asked : Key} :
    asked ∈ kept.map key ↔ asked ∈ offered.map key := by
  rw [← find?_isSome_iff, ← find?_isSome_iff, firsts.find?_eq]

theorem repeated (firsts : Firsts key kept offered) (present : key item ∈ offered.map key) :
    Firsts key kept (offered ++ [item]) where
  find?_eq asked := by
    rw [firsts.find?_eq, List.find?_append]
    by_cases same : key item = asked
    · obtain ⟨first, found⟩ := Option.isSome_iff_exists.mp (find?_isSome_iff.mpr (same ▸ present))
      rw [found, Option.some_or]
    · rw [List.find?_cons_of_neg (by simpa using same), List.find?_nil, Option.or_none]
  nodup := firsts.nodup

theorem fresh (firsts : Firsts key kept offered) (absent : key item ∉ offered.map key) :
    Firsts key (kept ++ [item]) (offered ++ [item]) where
  find?_eq asked := by rw [List.find?_append, List.find?_append, firsts.find?_eq]
  nodup := by
    rw [List.map_append, List.map_singleton, ← List.concat_eq_append]
    exact List.Nodup.concat (fun member => absent (firsts.mem_keys_iff.mp member)) firsts.nodup

theorem find?_of_find? (firsts : Firsts key kept offered) {later more : List Item}
    (extended : Firsts key later (offered ++ more)) {asked : Key}
    (found : kept.find? (fun item => key item = asked) = some item) :
    later.find? (fun item => key item = asked) = some item := by
  rw [firsts.find?_eq] at found
  rw [extended.find?_eq, List.find?_append, found, Option.some_or]

theorem length_eq (firsts : Firsts key kept offered) : kept.length = (offered.map key).toFinset.card := by
  rw [← List.length_map (f := key), ← List.toFinset_card_of_nodup firsts.nodup]
  congr 1
  ext asked
  rw [List.mem_toFinset, List.mem_toFinset, firsts.mem_keys_iff]

end Firsts

variable {Data State Command : Type} [Payload Data]

namespace EventRegistry

theorem eventType_of_decode {registry : EventRegistry Data} {eventType : EventType} {value : Json}
    {data : Data} (decoded : registry.decode eventType value = .ok data) : Payload.eventType data = eventType := by
  unfold decode at decoded
  split at decoded
  · cases decoded
  next kind found =>
    split at decoded
    · cases decoded
    next known success =>
      cases decoded
      have same : kind.eventType = eventType := by simpa using List.find?_some found
      rw [kind.faithful value data success, same]

theorem eventType_of_decodeRecord {registry : EventRegistry Data} {record : Record} {event : Event Data}
    (decoded : registry.decodeRecord record = .ok event) :
    event.eventType = record.eventType ∧ event.eventType = Payload.eventType event.data := by
  unfold decodeRecord at decoded
  split at decoded
  · cases decoded
  next data success =>
    cases decoded
    exact ⟨rfl, (eventType_of_decode success).symm⟩

end EventRegistry

structure Registries (Data State : Type) [Payload Data] where
  events : EventRegistry Data := .empty
  aggregates : AggregateRegistry State Data := .empty

namespace Registries

inductive Entry (Data State : Type) [Payload Data] where
  | event (kind : EventKind Data)
  | aggregate (kind : AggregateKind State Data)

inductive Tag where
  | event (eventType : EventType)
  | aggregate (aggregateType : AggregateType)
deriving DecidableEq

def Entry.tag : Entry Data State → Tag
  | .event kind => .event kind.eventType
  | .aggregate kind => .aggregate kind.aggregateType

/-- The fault of a registration under a tag that is taken. -/
def Tag.repeated : Tag → Fault
  | .event eventType => .repeatedEventType eventType
  | .aggregate aggregateType => .repeatedAggregateType aggregateType

structure Note (Data State : Type) [Payload Data] where
  entry : Entry Data State
  fault? : Option Fault

namespace Note

def tag (note : Note Data State) : Tag :=
  note.entry.tag

def event? (note : Note Data State) : Option (EventKind Data) :=
  match note.entry with
  | .event kind => some kind
  | .aggregate _ => none

def aggregate? (note : Note Data State) : Option (AggregateKind State Data) :=
  match note.entry with
  | .event _ => none
  | .aggregate kind => some kind

end Note

/-- What can be asked of the registries: a single registration, that of all facts of households, or that of households
with their facts. -/
inductive Enrolment (Data State : Type) [Payload Data] where
  | event (kind : EventKind Data)
  | aggregate (kind : AggregateKind State Data)
  | facts
  | household

/-- The single registrations that a request consists of. -/
def Enrolment.entries (part : Household.Part Data Command) (ofHousehold : Household → State) :
    Enrolment Data State → List (Entry Data State)
  | .event kind => [.event kind]
  | .aggregate kind => [.aggregate kind]
  | .facts => part.kinds.map .event
  | .household => part.kinds.map .event ++ [.aggregate (Household.Part.aggregateKind ofHousehold)]

def answer (part : Household.Part Data Command) (ofHousehold : Household → State)
    (registries : Registries Data State) : Enrolment Data State → Registries Data State × Option Fault
  | .event kind =>
      match registries.events.register kind with
      | .error fault => (registries, some fault)
      | .ok events => ({ registries with events }, none)
  | .aggregate kind =>
      match registries.aggregates.register kind with
      | .error fault => (registries, some fault)
      | .ok aggregates => ({ registries with aggregates }, none)
  | .facts =>
      match registries.events.registerAll part.kinds with
      | (events, fault?) => ({ registries with events }, fault?)
  | .household =>
      match part.register ofHousehold registries.events registries.aggregates with
      | (events, aggregates, fault?) => (⟨events, aggregates⟩, fault?)

def enrol (registries : Registries Data State) : Entry Data State → Except Fault (Registries Data State)
  | .event kind => (registries.events.register kind).map fun events => { registries with events }
  | .aggregate kind => (registries.aggregates.register kind).map fun aggregates => { registries with aggregates }

/-- Registers one thing after the other up to the first fault, and notes what was tried. -/
def enrolAll (registries : Registries Data State) :
    List (Entry Data State) → Registries Data State × List (Note Data State)
  | [] => (registries, [])
  | entry :: rest =>
      match registries.enrol entry with
      | .error fault => (registries, [⟨entry, some fault⟩])
      | .ok next => ((next.enrolAll rest).1, ⟨entry, none⟩ :: (next.enrolAll rest).2)

theorem enrolAll_append (registries : Registries Data State) (entries more : List (Entry Data State)) :
    registries.enrolAll (entries ++ more) =
      match (registries.enrolAll entries).2.findSome? Note.fault? with
      | some _ => registries.enrolAll entries
      | none =>
          (((registries.enrolAll entries).1.enrolAll more).1,
            (registries.enrolAll entries).2 ++ ((registries.enrolAll entries).1.enrolAll more).2) := by
  induction entries generalizing registries with
  | nil => rfl
  | cons entry rest ih =>
    rw [List.cons_append, enrolAll, enrolAll]
    cases registries.enrol entry with
    | error fault => rfl
    | ok next =>
      simp only [ih, List.findSome?_cons]
      cases (next.enrolAll rest).2.findSome? Note.fault? <;> rfl

theorem enrolAll_facts (registries : Registries Data State) (kinds : List (EventKind Data)) :
    (({ registries with events := (registries.events.registerAll kinds).1 } : Registries Data State),
      (registries.events.registerAll kinds).2) =
      ((registries.enrolAll (kinds.map .event)).1,
        (registries.enrolAll (kinds.map .event)).2.findSome? Note.fault?) := by
  induction kinds generalizing registries with
  | nil => rfl
  | cons kind rest ih =>
    rw [List.map_cons, enrolAll, EventRegistry.registerAll, enrol]
    cases registries.events.register kind with
    | error fault => rfl
    | ok events => exact ih { registries with events }

/-- A request is answered as its registrations are, one after the other. -/
theorem answer_eq (part : Household.Part Data Command) (ofHousehold : Household → State)
    (registries : Registries Data State) (request : Enrolment Data State) :
    registries.answer part ofHousehold request =
      ((registries.enrolAll (request.entries part ofHousehold)).1,
        (registries.enrolAll (request.entries part ofHousehold)).2.findSome? Note.fault?) := by
  cases request with
  | event kind =>
    rw [answer, Enrolment.entries, enrolAll, enrol]
    cases registries.events.register kind <;> rfl
  | aggregate kind =>
    rw [answer, Enrolment.entries, enrolAll, enrol]
    cases registries.aggregates.register kind <;> rfl
  | facts => exact enrolAll_facts registries part.kinds
  | household =>
    obtain ⟨reached, answered⟩ := Prod.mk.inj (enrolAll_facts registries part.kinds)
    rw [answer, Household.Part.register, Enrolment.entries, enrolAll_append]
    rcases outcome : registries.events.registerAll part.kinds with ⟨events, _ | fault⟩
    · rw [outcome] at reached answered
      rw [← answered, ← reached]
      rw [List.findSome?_append, ← answered, Option.none_or, enrolAll, enrol]
      cases registries.aggregates.register (Household.Part.aggregateKind ofHousehold) <;> rfl
    · rw [outcome] at reached answered
      rw [← answered, ← reached, ← answered]

theorem tried_prefix (registries : Registries Data State) (entries : List (Entry Data State)) :
    (registries.enrolAll entries).2.map Note.entry <+: entries := by
  induction entries generalizing registries with
  | nil => exact List.prefix_rfl
  | cons entry rest ih =>
    rw [enrolAll]
    cases registries.enrol entry with
    | error fault => exact ⟨rest, rfl⟩
    | ok next => exact List.cons_prefix_cons.mpr ⟨rfl, ih next⟩

theorem tried_all {registries : Registries Data State} {entries : List (Entry Data State)}
    (faultless : (registries.enrolAll entries).2.findSome? Note.fault? = none) :
    (registries.enrolAll entries).2.map Note.entry = entries := by
  induction entries generalizing registries with
  | nil => rfl
  | cons entry rest ih =>
    rw [enrolAll] at faultless ⊢
    cases enrolled : registries.enrol entry with
    | error fault =>
      rw [enrolled] at faultless
      cases faultless
    | ok next =>
      rw [enrolled] at faultless
      exact congrArg (entry :: ·) (ih faultless)

namespace Note
variable {notes : List (Note Data State)}

theorem event_mem_tags_iff {eventType : EventType} :
    Tag.event eventType ∈ notes.map tag ↔ eventType ∈ (notes.filterMap event?).map EventKind.eventType := by
  induction notes with
  | nil => simp
  | cons note rest ih =>
    rw [List.map_cons, List.mem_cons, ih, List.filterMap_cons]
    obtain ⟨entry, fault?⟩ := note
    cases entry <;> simp [tag, event?, Entry.tag]

theorem aggregate_mem_tags_iff {aggregateType : AggregateType} :
    Tag.aggregate aggregateType ∈ notes.map tag ↔
      aggregateType ∈ (notes.filterMap aggregate?).map AggregateKind.aggregateType := by
  induction notes with
  | nil => simp
  | cons note rest ih =>
    rw [List.map_cons, List.mem_cons, ih, List.filterMap_cons]
    obtain ⟨entry, fault?⟩ := note
    cases entry <;> simp [tag, aggregate?, Entry.tag]

/-- The fault that a registration has after these. -/
def due (before : List (Note Data State)) (tag : Tag) : Option Fault :=
  if tag ∈ before.map Note.tag then some tag.repeated else none

/-- A registration fails when there was one under its tag before, and only then. -/
def Lawful (notes : List (Note Data State)) : Prop :=
  ∀ before note, before ++ [note] <+: notes → note.fault? = due before note.tag

namespace Lawful

theorem nil : Lawful ([] : List (Note Data State)) := by
  intro before note leading
  simp at leading

theorem concat (lawful : Lawful notes) (entry : Entry Data State) :
    Lawful (notes ++ [⟨entry, due notes entry.tag⟩]) := by
  intro before note leading
  rcases List.prefix_concat_iff.mp leading with same | earlier
  · obtain ⟨rfl, rfl⟩ := List.append_singleton_inj.mp same
    rfl
  · exact lawful before note earlier

end Lawful

end Note

/-- The registries hold what these registrations put into them: the first of each name. -/
structure Filled (registries : Registries Data State) (notes : List (Note Data State)) : Prop where
  events : Firsts EventKind.eventType registries.events.kinds (notes.filterMap Note.event?)
  aggregates : Firsts AggregateKind.aggregateType registries.aggregates.kinds (notes.filterMap Note.aggregate?)
  lawful : Note.Lawful notes

namespace Filled
variable {registries : Registries Data State} {notes : List (Note Data State)} {entry : Entry Data State}

theorem empty : Filled ({} : Registries Data State) [] where
  events := .nil
  aggregates := .nil
  lawful := .nil

theorem contains_event_iff (filled : Filled registries notes) {eventType : EventType} :
    registries.events.contains eventType ↔ Tag.event eventType ∈ notes.map Note.tag := by
  rw [Note.event_mem_tags_iff, ← filled.events.mem_keys_iff, ← Firsts.find?_isSome_iff]
  rfl

theorem contains_aggregate_iff (filled : Filled registries notes) {aggregateType : AggregateType} :
    registries.aggregates.contains aggregateType ↔ Tag.aggregate aggregateType ∈ notes.map Note.tag := by
  rw [Note.aggregate_mem_tags_iff, ← filled.aggregates.mem_keys_iff, ← Firsts.find?_isSome_iff]
  rfl

theorem enrol_taken (filled : Filled registries notes) (taken : entry.tag ∈ notes.map Note.tag) :
    registries.enrol entry = .error entry.tag.repeated ∧
      Filled registries (notes ++ [⟨entry, some entry.tag.repeated⟩]) := by
  have lawful := filled.lawful.concat entry
  rw [Note.due, if_pos taken] at lawful
  cases entry with
  | event kind =>
    constructor
    · rw [enrol, EventRegistry.register, if_pos (filled.contains_event_iff.mpr taken)]
      rfl
    · refine ⟨?_, ?_, lawful⟩ <;> rw [List.filterMap_append]
      · exact filled.events.repeated (Note.event_mem_tags_iff.mp taken)
      · exact (List.append_nil _).symm ▸ filled.aggregates
  | aggregate kind =>
    constructor
    · rw [enrol, AggregateRegistry.register, if_pos (filled.contains_aggregate_iff.mpr taken)]
      rfl
    · refine ⟨?_, ?_, lawful⟩ <;> rw [List.filterMap_append]
      · exact (List.append_nil _).symm ▸ filled.events
      · exact filled.aggregates.repeated (Note.aggregate_mem_tags_iff.mp taken)

theorem enrol_free (filled : Filled registries notes) (free : entry.tag ∉ notes.map Note.tag) :
    ∃ next, registries.enrol entry = .ok next ∧ Filled next (notes ++ [⟨entry, none⟩]) := by
  have lawful := filled.lawful.concat entry
  rw [Note.due, if_neg free] at lawful
  cases entry with
  | event kind =>
    refine ⟨{ registries with events := ⟨registries.events.kinds ++ [kind]⟩ }, ?_, ?_, ?_, lawful⟩
    · rw [enrol, EventRegistry.register, if_neg fun known => free (filled.contains_event_iff.mp known)]
      rfl
    · rw [List.filterMap_append]
      exact filled.events.fresh fun known => free (Note.event_mem_tags_iff.mpr known)
    · rw [List.filterMap_append]
      exact (List.append_nil _).symm ▸ filled.aggregates
  | aggregate kind =>
    refine ⟨{ registries with aggregates := ⟨registries.aggregates.kinds ++ [kind]⟩ }, ?_, ?_, ?_, lawful⟩
    · rw [enrol, AggregateRegistry.register, if_neg fun known => free (filled.contains_aggregate_iff.mp known)]
      rfl
    · rw [List.filterMap_append]
      exact (List.append_nil _).symm ▸ filled.events
    · rw [List.filterMap_append]
      exact filled.aggregates.fresh fun known => free (Note.aggregate_mem_tags_iff.mpr known)

theorem enrolAll (filled : Filled registries notes) (entries : List (Entry Data State)) :
    Filled (registries.enrolAll entries).1 (notes ++ (registries.enrolAll entries).2) := by
  induction entries generalizing registries notes with
  | nil => exact (List.append_nil _).symm ▸ filled
  | cons entry rest ih =>
    rw [Registries.enrolAll]
    by_cases taken : entry.tag ∈ notes.map Note.tag
    · obtain ⟨failed, filled⟩ := filled.enrol_taken taken
      rw [failed]
      exact filled
    · obtain ⟨next, registered, filled⟩ := filled.enrol_free taken
      rw [registered, List.append_cons]
      exact ih filled

end Filled

section
variable (part : Household.Part Data Command) (ofHousehold : Household → State)

/-- The registries after these requests, one after the other, whether they succeed or not. -/
def fill (registries : Registries Data State) (requests : List (Enrolment Data State)) : Registries Data State :=
  requests.foldl (fun registries request => (registries.answer part ofHousehold request).1) registries

def tried (registries : Registries Data State) (request : Enrolment Data State) : List (Note Data State) :=
  (registries.enrolAll (request.entries part ofHousehold)).2

def journal (registries : Registries Data State) : List (Enrolment Data State) → List (Note Data State)
  | [] => []
  | request :: rest =>
      registries.tried part ofHousehold request ++ (registries.answer part ofHousehold request).1.journal rest

theorem journal_append (registries : Registries Data State) (requests more : List (Enrolment Data State)) :
    registries.journal part ofHousehold (requests ++ more) =
      registries.journal part ofHousehold requests ++
        (registries.fill part ofHousehold requests).journal part ofHousehold more := by
  induction requests generalizing registries with
  | nil => rfl
  | cons request rest ih =>
    rw [List.cons_append, journal, journal, ih, List.append_assoc]
    rfl

end

namespace Filled
variable {registries : Registries Data State} {notes : List (Note Data State)}

theorem fill (filled : Filled registries notes) (part : Household.Part Data Command)
    (ofHousehold : Household → State) (requests : List (Enrolment Data State)) :
    Filled (registries.fill part ofHousehold requests) (notes ++ registries.journal part ofHousehold requests) := by
  induction requests generalizing registries notes with
  | nil => exact (List.append_nil _).symm ▸ filled
  | cons request rest ih =>
    have answered := filled.enrolAll (request.entries part ofHousehold)
    rw [← congrArg Prod.fst (answer_eq part ofHousehold registries request)] at answered
    rw [journal, ← List.append_assoc]
    exact ih answered

end Filled

/-- How the registries behave that were filled by these registrations. -/
structure Faithful (registries : Registries Data State) (notes : List (Note Data State)) : Prop where
  /-- A registration failed when there was one under its name before, and only then. -/
  lawful : Note.Lawful notes
  /-- Their sizes are the numbers of different names. -/
  events_size : registries.events.size = ((notes.filterMap Note.event?).map EventKind.eventType).toFinset.card
  aggregates_size :
    registries.aggregates.size = ((notes.filterMap Note.aggregate?).map AggregateKind.aggregateType).toFinset.card
  /-- A payload is decoded as the first registration under its type says. -/
  decode_eq : ∀ eventType value,
    registries.events.decode eventType value =
      match (notes.filterMap Note.event?).find? fun kind => kind.eventType = eventType with
      | none => .error (.unknownEventType eventType)
      | some first => (first.decode value).mapError .undecodable
  /-- Whatever the payload, its type is unknown if nothing was registered under it, and only then. -/
  unknown_iff : ∀ eventType value,
    registries.events.decode eventType value = .error (.unknownEventType eventType) ↔
      Tag.event eventType ∉ notes.map Note.tag
  /-- A decoded payload is of the type it was decoded under. -/
  typed : ∀ eventType value data,
    registries.events.decode eventType value = .ok data → Payload.eventType data = eventType
  record_typed : ∀ record event,
    registries.events.decodeRecord record = .ok event →
      event.eventType = record.eventType ∧ event.eventType = Payload.eventType event.data
  /-- A fresh state is made as the first registration under its type says. -/
  fresh_eq : ∀ context,
    registries.aggregates.fresh context =
      match (notes.filterMap Note.aggregate?).find? fun kind =>
        kind.aggregateType = context.stream.aggregateType with
      | none => .error (.unknownAggregateType context.stream.aggregateType)
      | some first => .ok (first.fresh context)

namespace Filled
variable {registries : Registries Data State} {notes : List (Note Data State)}

theorem decode_eq (filled : Filled registries notes) (eventType : EventType) (value : Json) :
    registries.events.decode eventType value =
      match (notes.filterMap Note.event?).find? fun kind => kind.eventType = eventType with
      | none => .error (.unknownEventType eventType)
      | some first => (first.decode value).mapError .undecodable := by
  rw [EventRegistry.decode, EventRegistry.find?, filled.events.find?_eq]
  cases (notes.filterMap Note.event?).find? fun kind => kind.eventType = eventType with
  | none => rfl
  | some first => cases decoded : first.decode value <;> simp [decoded, Except.mapError]

theorem fresh_eq (filled : Filled registries notes) (context : Context Data) :
    registries.aggregates.fresh context =
      match (notes.filterMap Note.aggregate?).find? fun kind =>
        kind.aggregateType = context.stream.aggregateType with
      | none => .error (.unknownAggregateType context.stream.aggregateType)
      | some first => .ok (first.fresh context) := by
  rw [AggregateRegistry.fresh, AggregateRegistry.find?, filled.aggregates.find?_eq]
  cases (notes.filterMap Note.aggregate?).find? fun kind =>
    kind.aggregateType = context.stream.aggregateType <;> rfl

theorem unknown_iff (filled : Filled registries notes) (eventType : EventType) (value : Json) :
    registries.events.decode eventType value = .error (.unknownEventType eventType) ↔
      Tag.event eventType ∉ notes.map Note.tag := by
  rw [← filled.contains_event_iff, EventRegistry.contains, EventRegistry.decode]
  cases registries.events.find? eventType with
  | none => simp
  | some kind => cases decoded : kind.decode value <;> simp [decoded]

theorem faithful (filled : Filled registries notes) : Faithful registries notes where
  lawful := filled.lawful
  events_size := filled.events.length_eq
  aggregates_size := filled.aggregates.length_eq
  decode_eq := filled.decode_eq
  unknown_iff := filled.unknown_iff
  typed _ _ _ := EventRegistry.eventType_of_decode
  record_typed _ _ := EventRegistry.eventType_of_decodeRecord
  fresh_eq := filled.fresh_eq

end Filled

/-- However empty registries are filled, they answer as the first registration under each name says; what is asked of
them next is answered as the single registrations it comes to, and what is found stays. -/
theorem faithful_run (part : Household.Part Data Command) (ofHousehold : Household → State)
    (requests : List (Enrolment Data State)) :
    let registries := ({} : Registries Data State).fill part ofHousehold requests
    let notes := ({} : Registries Data State).journal part ofHousehold requests
    Faithful registries notes ∧
    (∀ request,
      let tried := registries.tried part ofHousehold request
      (registries.answer part ofHousehold request).2 = tried.findSome? Note.fault? ∧
      ({} : Registries Data State).journal part ofHousehold (requests ++ [request]) = notes ++ tried ∧
      tried.map Note.entry <+: request.entries part ofHousehold ∧
      (tried.findSome? Note.fault? = none → tried.map Note.entry = request.entries part ofHousehold)) ∧
    ∀ more,
      let later := registries.fill part ofHousehold more
      (∀ eventType kind, registries.events.find? eventType = some kind → later.events.find? eventType = some kind) ∧
      ∀ aggregateType kind,
        registries.aggregates.find? aggregateType = some kind → later.aggregates.find? aggregateType = some kind := by
  intro registries notes
  have filled : Filled registries notes := Filled.empty.fill part ofHousehold requests
  refine ⟨filled.faithful, fun request => ⟨?_, ?_, tried_prefix registries _, tried_all⟩, fun more => ⟨?_, ?_⟩⟩
  · exact congrArg Prod.snd (answer_eq part ofHousehold registries request)
  · rw [journal_append]
    exact congrArg (notes ++ ·) (List.append_nil _)
  · intro eventType kind found
    have extended := (filled.fill part ofHousehold more).events
    rw [List.filterMap_append] at extended
    exact filled.events.find?_of_find? extended found
  · intro aggregateType kind found
    have extended := (filled.fill part ofHousehold more).aggregates
    rw [List.filterMap_append] at extended
    exact filled.aggregates.find?_of_find? extended found

/-- Where items added are registered already, households get no further than the facts before them. -/
example :
    let itemAdded : EventKind Household.Fact :=
      .of Household.Fact.itemAddedType (Household.ItemDetails.decode "" none) .itemAdded fun _ => rfl
    let registries := (({} : Registries Household.Fact Household).answer .whole id (.event itemAdded)).1
    let answer := registries.answer .whole id .household
    answer.2 = some (.repeatedEventType Household.Fact.itemAddedType) ∧
      answer.1.events.size = 3 ∧ answer.1.aggregates.size = 0 :=
  ⟨rfl, rfl, rfl⟩

end Registries

end Inventory
