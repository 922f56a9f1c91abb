import Inventory.Proofs.Aggregate
import Inventory.Proofs.EventStore.Order
import Inventory.Dispatch

/-! Rebuilding from rows. The rows of a stream lead to a state when each of them can be decoded, the aggregate type is
known, and each event can be taken in. Otherwise something is in the way, and of several things the one in this order:
a row that cannot be decoded, wherever it stands, then an unknown type, then an event that cannot be taken in. -/
namespace Inventory
variable {World Data State Command : Type}

/-- The greatest version, zero where there is none. -/
def Record.greatest (rows : List Record) : Nat :=
  (rows.map Record.version).max?.getD 0

/-- These payloads can be taken in one after the other, and lead from one state to another. -/
inductive Rules.Takes (rules : Rules State Data Command) : State → List Data → State → Prop
  | nil {state : State} : Takes rules state [] state
  | cons {state next last : State} {data : Data} {rest : List Data} (applied : rules.apply state data = (next, none))
      (others : Takes rules next rest last) : Takes rules state (data :: rest) last

variable [Payload Data]

/-- An aggregate was made by the factory of its type and every row was applied to it, and the context starts at the
greatest version there is. -/
structure Rebuilt (registry : EventRegistry Data) (aggregates : AggregateRegistry State Data)
    (rules : Rules State Data Command) (stream : StreamId) (rows : List Record) (context : Context Data)
    (state : State) : Prop where
  context_eq : context = .start stream (Record.greatest rows)
  applied : ∃ kind history, aggregates.find? stream.aggregateType = some kind ∧
    List.Forall₂ (fun row event => registry.decodeRecord row = .ok event) rows history ∧
      rules.Takes (kind.fresh context) (history.map Event.data) state

/-- What is in the way of rebuilding. -/
inductive Obstacle (registry : EventRegistry Data) (aggregates : AggregateRegistry State Data)
    (rules : Rules State Data Command) (stream : StreamId) (rows : List Record) : Fault → Prop
  | undecoded {before after : List Record} {row : Record} {fault : Fault} (split : rows = before ++ row :: after)
      (readable : ∀ earlier ∈ before, ∃ event, registry.decodeRecord earlier = .ok event)
      (refused : registry.Refuses row fault) : Obstacle registry aggregates rules stream rows fault
  | unmade {history : List (Event Data)}
      (decoded : List.Forall₂ (fun row event => registry.decodeRecord row = .ok event) rows history)
      (absent : aggregates.find? stream.aggregateType = none) :
      Obstacle registry aggregates rules stream rows (.unknownAggregateType stream.aggregateType)
  | unapplied {kind : AggregateKind State Data} {before after : List (Event Data)} {event : Event Data}
      {state raised : State} {fault : Fault}
      (decoded : List.Forall₂ (fun row event => registry.decodeRecord row = .ok event) rows (before ++ event :: after))
      (known : aggregates.find? stream.aggregateType = some kind)
      (taken : rules.Takes (kind.fresh (.start stream (Record.greatest rows))) (before.map Event.data) state)
      (failed : rules.apply state event.data = (raised, some fault)) :
      Obstacle registry aggregates rules stream rows fault

theorem Record.Ascending.greatest_eq_top {rows : List Record} (ascending : Ascending rows) :
    greatest rows = top rows := by
  rcases List.eq_nil_or_concat rows with rfl | ⟨front, last, rfl⟩
  · rfl
  · have most : ((front.concat last).map Record.version).max? = some last.version := by
      rw [List.max?_eq_some_iff]
      constructor
      · exact List.mem_map_of_mem (by simp)
      · intro version member
        obtain ⟨row, inside, rfl⟩ := List.mem_map.mp member
        have below := ascending.le_top inside
        simpa [top] using below
    rw [greatest, most, top, List.concat_eq_append, List.getLast?_concat]
    rfl

omit [Payload Data] in
theorem Rules.replay_eq_ok {rules : Rules State Data Command} {history : List (Event Data)} {state last : State} :
    rules.replay state history = .ok last ↔ rules.Takes state (history.map Event.data) last := by
  induction history generalizing state with
  | nil =>
    constructor
    · intro replays
      cases replays
      exact .nil
    · intro takes
      cases takes
      rfl
  | cons event rest ih =>
    rw [replay, List.map_cons]
    constructor
    · intro replays
      split at replays
      next => cases replays
      next next applied => exact .cons applied (ih.mp replays)
    · intro takes
      cases takes with
      | cons applied others =>
        rw [applied]
        exact ih.mpr others

omit [Payload Data] in
theorem Rules.replay_eq_error {rules : Rules State Data Command} {history : List (Event Data)} {state : State}
    {fault : Fault} :
    rules.replay state history = .error fault ↔ ∃ before event after reached raised,
      history = before ++ event :: after ∧ rules.Takes state (before.map Event.data) reached ∧
        rules.apply reached event.data = (raised, some fault) := by
  induction history generalizing state with
  | nil =>
    constructor
    · intro replays
      cases replays
    · rintro ⟨before, event, after, _, _, split, _⟩
      exact absurd split (by simp)
  | cons first rest ih =>
    rw [replay]
    constructor
    · intro replays
      split at replays
      next raised stuck applied =>
        cases replays
        exact ⟨[], first, rest, state, raised, rfl, .nil, applied⟩
      next next applied =>
        obtain ⟨before, event, after, reached, raised, rfl, takes, failed⟩ := ih.mp replays
        exact ⟨first :: before, event, after, reached, raised, rfl, .cons applied takes, failed⟩
    · rintro ⟨before, event, after, reached, raised, split, takes, failed⟩
      cases before with
      | nil =>
        cases split
        cases takes
        rw [failed]
      | cons earlier before =>
        cases split
        cases takes with
        | cons applied others =>
          rw [applied]
          exact ih.mpr ⟨before, event, after, reached, raised, rfl, others, failed⟩

section
variable {registry : EventRegistry Data} {aggregates : AggregateRegistry State Data}
  {rules : Rules State Data Command} {stream : StreamId} {rows : List Record} {history : List (Event Data)}

omit [Payload Data] in
theorem AggregateRegistry.fresh_eq_ok {context : Context Data} {state : State} :
    aggregates.fresh context = .ok state ↔
      ∃ kind, aggregates.find? context.stream.aggregateType = some kind ∧ kind.fresh context = state := by
  unfold fresh
  cases aggregates.find? context.stream.aggregateType <;> simp

theorem lastVersion_of_decoded (ascending : Record.Ascending rows)
    (decoded : List.Forall₂ (fun row event => registry.decodeRecord row = .ok event) rows history) :
    AggregateRegistry.lastVersion history = Record.greatest rows := by
  rw [ascending.greatest_eq_top]
  exact EventRegistry.lastVersion_eq_top (EventRegistry.decodeRecords_eq_ok.mpr decoded)

theorem rebuilt_iff (ascending : Record.Ascending rows) {context : Context Data} {state : State} :
    Rebuilt registry aggregates rules stream rows context state ↔ ∃ history,
      registry.decodeRecords rows = .ok history ∧ aggregates.load rules stream history = .ok (context, state) := by
  simp only [EventRegistry.decodeRecords_eq_ok, AggregateRegistry.load_eq_ok, AggregateRegistry.fresh_eq_ok]
  constructor
  · rintro ⟨rfl, kind, history, known, decoded, takes⟩
    have version := lastVersion_of_decoded ascending decoded
    exact ⟨history, decoded, by rw [version], _, ⟨kind, known, rfl⟩, Rules.replay_eq_ok.mpr takes⟩
  · rintro ⟨history, decoded, rfl, fresh, ⟨kind, known, rfl⟩, replays⟩
    have version := lastVersion_of_decoded ascending decoded
    exact ⟨by rw [version], kind, history, known, decoded, Rules.replay_eq_ok.mp replays⟩

omit [Payload Data] in
theorem AggregateRegistry.load_eq_error_iff {fault : Fault} :
    aggregates.load rules stream history = .error fault ↔
      (aggregates.find? stream.aggregateType = none ∧ fault = .unknownAggregateType stream.aggregateType) ∨
      ∃ kind, aggregates.find? stream.aggregateType = some kind ∧
        rules.replay (kind.fresh (.start stream (lastVersion history))) history = .error fault := by
  simp only [load, fresh, Context.start]
  cases aggregates.find? stream.aggregateType with
  | none => simp [eq_comm]
  | some kind =>
    dsimp only
    split
    next other failed => simp [failed]
    next state replays => simp [replays]

/-- Rows are not decoded, or not loaded, just where something is in the way. -/
theorem obstacle_iff (ascending : Record.Ascending rows) {fault : Fault} :
    Obstacle registry aggregates rules stream rows fault ↔ registry.decodeRecords rows = .error fault ∨
      ∃ history, registry.decodeRecords rows = .ok history ∧ aggregates.load rules stream history = .error fault := by
  rw [EventRegistry.decodeRecords_eq_error_iff]
  simp only [AggregateRegistry.load_eq_error_iff, Rules.replay_eq_error, EventRegistry.decodeRecords_eq_ok]
  constructor
  · rintro (⟨split, readable, refused⟩ | ⟨decoded, absent⟩ | ⟨decoded, known, taken, failed⟩)
    · exact .inl ⟨_, _, _, split, readable, refused⟩
    · exact .inr ⟨_, decoded, .inl ⟨absent, rfl⟩⟩
    · have version := lastVersion_of_decoded ascending decoded
      exact .inr ⟨_, decoded, .inr ⟨_, known, _, _, _, _, _, rfl, version ▸ taken, failed⟩⟩
  · rintro (⟨before, row, after, split, readable, refused⟩ | ⟨history, decoded, ⟨absent, rfl⟩ |
      ⟨kind, known, before, event, after, reached, raised, rfl, taken, failed⟩⟩)
    · exact .undecoded split readable refused
    · exact .unmade decoded absent
    · rw [lastVersion_of_decoded ascending decoded] at taken
      exact .unapplied decoded known taken failed

theorem Obstacle.not_rebuilt (ascending : Record.Ascending rows) {fault : Fault}
    (obstacle : Obstacle registry aggregates rules stream rows fault) {context : Context Data} {state : State} :
    ¬ Rebuilt registry aggregates rules stream rows context state := by
  intro rebuilt
  obtain ⟨history, decoded, loads⟩ := (rebuilt_iff ascending).mp rebuilt
  rcases (obstacle_iff ascending).mp obstacle with undecoded | ⟨other, again, unloaded⟩
  · exact absurd (decoded.symm.trans undecoded) nofun
  · cases decoded.symm.trans again
    exact absurd (loads.symm.trans unloaded) nofun

theorem Obstacle.unique (ascending : Record.Ascending rows) {fault other : Fault}
    (obstacle : Obstacle registry aggregates rules stream rows fault)
    (again : Obstacle registry aggregates rules stream rows other) : fault = other := by
  rcases (obstacle_iff ascending).mp obstacle with undecoded | ⟨history, decoded, unloaded⟩ <;>
    rcases (obstacle_iff ascending).mp again with undecodedToo | ⟨historyToo, decodedToo, unloadedToo⟩
  · exact Except.error.inj (undecoded.symm.trans undecodedToo)
  · exact absurd (undecoded.symm.trans decodedToo) nofun
  · exact absurd (undecodedToo.symm.trans decoded) nofun
  · cases decoded.symm.trans decodedToo
    exact Except.error.inj (unloaded.symm.trans unloadedToo)

end

end Inventory
