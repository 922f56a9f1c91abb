import Inventory.Proofs.Household.Fact
import Inventory.Proofs.Household.State
import Inventory.Proofs.Traffic.Serial

/-! Histories of households. Each fact of a stream was decided on the household that the facts below it lead
to, so it can be taken in there, on every replay. -/
namespace Inventory

/-- The events of a stream's batches as they were handed to the store, in the order of time. -/
def Journal.events {Data Handlers State Command : Type} (journal : List (Entry Data Handlers State Command))
    (stream : StreamId) : List (Event Data) :=
  ((commits journal).filter (·.stream = stream)).flatMap Commit.events

theorem Journal.events_concat {Data Handlers State Command : Type}
    (journal : List (Entry Data Handlers State Command)) (entry : Entry Data Handlers State Command)
    (stream : StreamId) :
    events (journal ++ [entry]) stream =
      events journal stream ++ (entry.commit?.toList.filter (·.stream = stream)).flatMap Commit.events := by
  rw [events, commits_concat, List.filter_append, List.flatMap_append]
  rfl

namespace Household
variable {Handlers : Type}

def commandBus (publisher : Publisher Fact Handlers) (retry : Retry.Policy) :
    CommandBus Fact Handlers Household Command where
  publisher := publisher
  aggregates _ := aggregateRegistry
  rules _ := Part.whole.rules
  target := Command.stream
  retry := retry

def streamOf (id : AggregateId) : StreamId :=
  ⟨aggregateType, id⟩

/-- Facts taken in one after the other, whatever is refused of them. -/
def after (household : Household) (facts : List Fact) : Household :=
  facts.foldl (fun household fact => (household.apply fact).1) household

theorem after_concat (household : Household) (facts : List Fact) (fact : Fact) :
    household.after (facts ++ [fact]) = ((household.after facts).apply fact).1 := by
  simp [after]

theorem keyed_after {household : Household} (keyed : household.rooms.Keyed) (facts : List Fact) :
    (household.after facts).rooms.Keyed := by
  induction facts generalizing household with
  | nil => exact keyed
  | cons fact rest ih => exact ih (keyed_apply keyed fact)

/-- Facts each of which was decided on the household that those before it lead to. -/
inductive Decided (id : AggregateId) : List Fact → Prop
  | nil : Decided id []
  | concat {facts : List Fact} {command : Command} {fact : Fact} (before : Decided id facts)
      (decided : ((fresh id).after facts).decide (!facts.isEmpty) command = .ok fact) :
      Decided id (facts ++ [fact])

/-- A creation comes first and never again. -/
def OpensOnce (types : List EventType) : Prop :=
  types = [] ∨ ∃ rest, types = Fact.createdType :: rest ∧ Fact.createdType ∉ rest

/-- Stored rows yield these events, and these can be replayed. -/
structure Replays (id : AggregateId) (rows : List Record) (events : List (Event Fact)) : Prop where
  decoded : eventRegistry.decodeRecords rows = .ok events
  replays : Part.whole.rules.replay (fresh id) events = .ok ((fresh id).after (events.map Event.data))
  opens : OpensOnce (events.map Event.eventType)
  decided : Decided id (events.map Event.data)

theorem replays_nil (id : AggregateId) : Replays id [] [] where
  decoded := rfl
  replays := rfl
  opens := .inl rfl
  decided := .nil

theorem decide_whole {household : Household} {context : Context Fact} {command : Command}
    {payloads : List Fact} (decides : Part.whole.rules.decide household context command = .ok payloads) :
    ∃ fact, household.decide context.hasHistory command = .ok fact ∧ payloads = [fact] := by
  change Part.whole.decide household context command = .ok payloads at decides
  unfold Part.decide at decides
  split at decides
  · cases decides
  next known same =>
    cases same
    split at decides
    · cases decides
    next fact decided =>
      cases decides
      exact ⟨fact, decided, rfl⟩

theorem Replays.extend {id : AggregateId} {rows batch : List Record} {events new : List (Event Fact)}
    (replays : Replays id rows events) {command : Command}
    (decides : Part.whole.rules.decide ((fresh id).after (events.map Event.data))
      (.start (streamOf id) rows.length) command = .ok (new.map Event.data))
    (decoded : eventRegistry.decodeRecords batch = .ok new)
    (typed : ∀ event ∈ new, event.eventType = event.data.eventType) :
    Replays id (rows ++ batch) (events ++ new) := by
  have lengths : events.length = rows.length := by
    simpa using congrArg List.length (EventRegistry.decodeRecords_versions replays.decoded)
  obtain ⟨fact, decided, only⟩ := decide_whole decides
  obtain ⟨event, rfl, same⟩ := List.map_eq_singleton_iff.mp only
  obtain ⟨creates, next, applied, _⟩ := agrees_decide (keyed_after Rooms.keyed_empty _) decided
  have type : event.eventType = fact.eventType := by
    rw [typed event (List.mem_singleton_self event), same]
  refine ⟨EventRegistry.decodeRecords_append replays.decoded decoded, ?_, ?_, ?_⟩
  · have taken : Part.whole.rules.apply ((fresh id).after (events.map Event.data)) fact = (next, none) := by
      change Part.whole.apply _ fact = (next, none)
      simp only [Part.apply, Part.whole, applied]
      rfl
    rw [Rules.replay_append replays.replays, Rules.replay, same, taken, List.map_append, List.map_singleton,
      same, after_concat, applied]
    rfl
  · rw [List.map_append, List.map_singleton, type]
    rcases replays.opens with none | ⟨rest, types, once⟩
    · have empty : events = [] := List.map_eq_nil_iff.mp none
      have first : fact.eventType = Fact.createdType := by
        apply creates.mpr
        rw [← lengths, empty]
        rfl
      rw [empty, first]
      exact .inr ⟨[], rfl, List.not_mem_nil⟩
    · have some : fact.eventType ≠ Fact.createdType := by
        intro again
        have fresh := creates.mp again
        have length := congrArg List.length types
        rw [List.length_map, List.length_cons, lengths] at length
        simp [Context.hasHistory, Context.start, length] at fresh
      refine .inr ⟨rest ++ [fact.eventType], by rw [types]; rfl, ?_⟩
      rw [List.mem_append, List.mem_singleton]
      rintro (before | again)
      · exact once before
      · exact some again.symm
  · have history : (Context.start (streamOf id) rows.length : Context Fact).hasHistory =
        !(events.map Event.data).isEmpty := by
      rw [Context.hasHistory, Context.start, ← lengths]
      cases events <;> simp
    rw [history] at decided
    rw [List.map_append, List.map_singleton, same]
    exact replays.decided.concat decided

/-- Every stream of a household can be replayed, whatever journal has led to it. -/
theorem replays_journal {journal : List (Entry Fact Handlers Household Command)}
    (sound : Journal.Sound eventRegistry .empty journal)
    (households : ∀ entry ∈ journal, ∃ publisher retry, entry.attempt.commandBus = commandBus publisher retry)
    (id : AggregateId) :
    Replays id ((Journal.store .empty journal).records (streamOf id))
      (Journal.events journal (streamOf id)) := by
  induction journal using List.reverseRecOn with
  | nil => exact replays_nil id
  | append_singleton journal entry ih =>
    have before := ih sound.of_append fun other member =>
      households other (List.mem_append_left [entry] member)
    rw [Journal.store_concat, Journal.events_concat]
    cases found : entry.commit? with
    | none =>
      rw [Entry.leave_of_commit?_none found, Option.toList_none, List.filter_nil, List.flatMap_nil,
        List.append_nil]
      exact before
    | some commit =>
      obtain rfl := Entry.commit?_eq_some.mp found
      obtain ⟨made, atEnd, behind⟩ := (sound.of_append.growing EventStore.contiguous_empty).taken sound.last
      rw [behind, EventStore.records_setRecords, Option.toList_some]
      by_cases here : commit.stream = streamOf id
      · have placed := Journal.Sound.placed EventStore.contiguous_empty sound
        obtain ⟨history, state, decoded, loads, decides⟩ := placed.decided
        obtain ⟨stamped, _⟩ := placed.justified
        obtain ⟨publisher, retry, same⟩ := households commit.entry (by simp)
        change commit.attempt.commandBus = _ at same
        rw [same, here] at loads decides
        rw [here] at decoded atEnd
        -- The history that the batch was decided on is the one that replays by induction.
        obtain rfl : Journal.events journal (streamOf id) = history :=
          Except.ok.inj (before.decoded.symm.trans decoded)
        obtain ⟨_, start, made, replays⟩ := AggregateRegistry.load_eq_ok.mp loads
        obtain rfl : fresh id = start := Except.ok.inj made
        obtain rfl : _ = state := Except.ok.inj (before.replays.symm.trans replays)
        rw [atEnd] at decides
        obtain ⟨batch, records, back⟩ := EventRegistry.decodeRecords_toRecords stamped
          fun fact _ => keeps_fact fact
        rw [placed.made] at records
        cases records
        rw [if_pos here.symm, here, List.filter_cons_of_pos (by simpa using here), List.filter_nil,
          List.flatMap_singleton]
        apply before.extend decides back
        intro event member
        rw [stamped.of_mem member]
        rfl
      · rw [if_neg (Ne.symm here), List.filter_cons_of_neg (by simpa using here), List.filter_nil,
          List.flatMap_nil, List.append_nil]
        exact before

theorem Replays.rebuild {id : AggregateId} {world : Deployment Fact Handlers} {events : List (Event Fact)}
    (replays : Replays id (world.store.records (streamOf id)) events) (publisher : Publisher Fact Handlers)
    (retry : Retry.Policy) :
    ((commandBus publisher retry).engine eventRegistry 1).rebuild world (streamOf id) =
      .ok ((fresh id).after (events.map Event.data)) := by
  have found : ((commandBus publisher retry).engine eventRegistry 1).backend.history world (streamOf id) =
      .ok events := replays.decoded
  have loads : aggregateRegistry.load Part.whole.rules (streamOf id) events = .ok
      (.start (streamOf id) (AggregateRegistry.lastVersion events), (fresh id).after (events.map Event.data)) :=
    AggregateRegistry.load_eq_ok.mpr ⟨rfl, fresh id, rfl, replays.replays⟩
  rw [Engine.rebuild, found]
  exact congrArg (Except.map Prod.snd) loads

theorem Replays.versions {id : AggregateId} {rows : List Record} {events : List (Event Fact)}
    (replays : Replays id rows events) (dense : Record.Dense rows) :
    events.map Event.version = List.range' 1 events.length := by
  have versions := EventRegistry.decodeRecords_versions replays.decoded
  have lengths : events.length = rows.length := by
    simpa using congrArg List.length versions
  rw [lengths]
  exact versions.trans dense

/-- However commands to households come in between each other, and whatever becomes of publishing, every
batch holds what was decided on exactly the records below it, each stream opens with its only creation, and
rebuilding any household yields what the decided facts lead to, taken in by their versions. -/
theorem replayable_run (deployment : Deployment Fact Handlers)
    (moves : List (Move Fact Handlers Household Command))
    (households : ∀ started moment command, .start started moment command ∈ moves →
      ∃ publisher retry, started = commandBus publisher retry) :
    let traffic := (Traffic.opening deployment.vacant).run eventRegistry moves
    (∀ commit ∈ Journal.commits traffic.journal, ∃ history state,
      commit.DecidedOn eventRegistry ((traffic.rows commit.stream).take commit.base) history state) ∧
    ∀ id,
      let events := Journal.events traffic.journal (streamOf id)
      OpensOnce ((traffic.rows (streamOf id)).map Record.eventType) ∧
      events.map Event.version = List.range' 1 events.length ∧
      ∀ publisher retry, ((commandBus publisher retry).engine eventRegistry 1).rebuild traffic.world (streamOf id) =
        .ok ((fresh id).after (events.map Event.data)) := by
  intro traffic
  have sound : traffic.Sound eventRegistry .empty := Traffic.sound_run eventRegistry deployment moves
  have ofCommandBuses : traffic.OfCommandBuses fun started => ∃ publisher retry, started = commandBus publisher retry :=
    (Traffic.ofCommandBuses_opening _ deployment.vacant).run moves households
  refine ⟨?_, ?_⟩
  · intro commit member
    obtain ⟨_, placed⟩ := sound.journal.placed_of_mem EventStore.contiguous_empty member
    rw [sound.rows_eq, placed.take_base]
    exact placed.decided
  · intro id events
    have replays := replays_journal sound.journal ofCommandBuses.journal id
    have dense : Record.Dense (traffic.rows (streamOf id)) := by
      rw [sound.rows_eq]
      exact (sound.journal.growing EventStore.contiguous_empty).here (streamOf id)
    rw [← sound.rows_eq] at replays
    refine ⟨?_, replays.versions dense, fun publisher retry => replays.rebuild publisher retry⟩
    rw [← EventRegistry.decodeRecords_eventTypes replays.decoded]
    exact replays.opens

/-- A household is created while nothing can be published, and then gets a room. -/
def settling : List (Move Fact Unit Household Command) :=
  let owner := "0123456789abcdef0123456789ABCDEF"
  let unheard : Publisher Fact Unit :=
    ⟨fun world _ => (.error (.conflict (streamOf ⟨"h"⟩) 1), world), fun _ _ => rfl⟩
  [.start (commandBus unheard .once) ⟨0, .zero⟩ (.createHousehold ⟨"h", owner, "Home"⟩)] ++
    List.replicate 7 (.step 0 ⟨1, .zero⟩) ++
    [.start (commandBus .eventBus .standard) ⟨2, .zero⟩ (.addRoom ⟨"h", owner, " Kitchen "⟩)] ++
    List.replicate 7 (.step 1 ⟨3, .zero⟩)

theorem replayable_settling :
    let traffic := (Traffic.opening (Deployment.fresh none ()).vacant).run eventRegistry settling
    (traffic.rows (streamOf ⟨"h"⟩)).map Record.eventType = [Fact.createdType, Fact.roomAddedType] ∧
    ∃ household, ((commandBus .eventBus .once).engine eventRegistry 1).rebuild traffic.world (streamOf ⟨"h"⟩) =
      .ok household := by
  intro traffic
  have households (started : CommandBus Fact Unit Household Command) (moment : Moment) (command : Command)
      (member : .start started moment command ∈ settling) :
      ∃ publisher retry, started = commandBus publisher retry := by
    simp [settling] at member
    rcases member with ⟨same, _⟩ | ⟨same, _⟩
    · exact ⟨_, _, same⟩
    · exact ⟨_, _, same⟩
  have whole := replayable_run (Deployment.fresh none ()) settling households
  exact ⟨rfl, _, (whole.2 ⟨"h"⟩).2.2 .eventBus .once⟩

end Household

end Inventory
