import Inventory.Proofs.EventBus
import Inventory.Proofs.Record
import Inventory.Proofs.Traffic.Effects
import Inventory.Proofs.Traffic.Tally
import Inventory.Proofs.Traffic.Words
import Mathlib.Data.List.Perm.Subperm

/-! The log of a bus that all dispatches publish on. It has the batches as they were stored, each as a whole and none
twice, but a batch goes to the store in one step and to the bus in another, and what comes in between is not held up.
So the batches of a stream stand in the log in the order of their versions just if they were published in the order
in which they were stored. -/
namespace Inventory
variable {Data Handlers State Command : Type}

structure Broadcast (Data Handlers State Command : Type) where
  attempt : Attempt Data Handlers State Command
  events : List (Event Data)

def Broadcast.stream (broadcast : Broadcast Data Handlers State Command) : StreamId :=
  broadcast.attempt.stream

def Entry.broadcast? (entry : Entry Data Handlers State Command) :
    Option (Broadcast Data Handlers State Command) :=
  match entry.deed with
  | .published events (.ok ()) => some ⟨entry.attempt, events⟩
  | .published _ (.error _) | .read _ | .appended _ _ _ => none

def Commit.broadcast (commit : Commit Data Handlers State Command) : Broadcast Data Handlers State Command :=
  ⟨commit.attempt, commit.events⟩

theorem Entry.broadcast?_eq_some {entry : Entry Data Handlers State Command}
    {broadcast : Broadcast Data Handlers State Command} :
    entry.broadcast? = some broadcast ↔ entry = ⟨broadcast.attempt, .published broadcast.events (.ok ())⟩ := by
  constructor
  · intro found
    obtain ⟨attempt, deed⟩ := entry
    cases deed with
    | read version => cases found
    | appended version events answer => cases found
    | published events answer =>
      cases answer with
      | error fault => cases found
      | ok done =>
        cases found
        rfl
  · rintro rfl
    rfl

/-- What else happens leaves the log alone. -/
def Interlude.KeepsLog (interlude : Interlude Data Handlers) : Prop :=
  ∀ deployment, (interlude.pass deployment).side.bus.log = deployment.side.bus.log

variable [Payload Data]

/-- The records of a batch, none where there is a payload that has no value. -/
def Broadcast.records (broadcast : Broadcast Data Handlers State Command) : List Record :=
  match Event.toRecords broadcast.events with
  | .error _ => []
  | .ok batch => batch

namespace Journal

def broadcasts (journal : List (Entry Data Handlers State Command)) :
    List (Broadcast Data Handlers State Command) :=
  journal.filterMap Entry.broadcast?

def sent (journal : List (Entry Data Handlers State Command)) : List Record :=
  (broadcasts journal).flatMap Broadcast.records

/-- What was stored, batch by batch, in the order of time. -/
def taken (journal : List (Entry Data Handlers State Command)) : List (Broadcast Data Handlers State Command) :=
  (commits journal).map Commit.broadcast

end Journal

theorem Deployment.publish_bus (deployment : Deployment Data Handlers)
    (attempt : Attempt Data Handlers State Command) (events : List (Event Data)) :
    (deployment.publish events).2.side.bus = deployment.side.bus.extend
      (Journal.sent [⟨attempt, .published events (deployment.publish events).1⟩]) := by
  unfold publish
  cases done : deployment.side.bus.publish events with
  | error fault => exact (EventBus.extend_nil _).symm
  | ok bus =>
    obtain ⟨batch, made, rfl⟩ := EventBus.publish_eq_ok done
    have whole : Journal.sent [⟨attempt, .published events (.ok ())⟩] = batch := by
      simp [Journal.sent, Journal.broadcasts, Entry.broadcast?, Broadcast.records, made]
    dsimp only
    split
    next empty =>
      rw [List.isEmpty_iff.mp empty] at made
      cases made
      rw [whole, EventBus.extend_nil]
    next some =>
      rw [whole]
      rfl

namespace Dispatch
variable {commandBus : CommandBus Data Handlers State Command} {registry : EventRegistry Data}

theorem conclude_bus (dispatch : Dispatch Data State Command) (number : Nat) (moment : Moment)
    (world : Deployment Data Handlers) (result : Except Fault (Committed Data)) :
    (dispatch.conclude (commandBus.engine registry number) moment world result).2.side.bus = world.side.bus := by
  unfold conclude
  split <;> rfl

theorem append_bus (dispatch : Dispatch Data State Command) (number : Nat) (moment : Moment)
    (world : Deployment Data Handlers) (context : Context Data) (events : List (Event Data)) :
    (dispatch.append (commandBus.engine registry number) moment world context events).2.side.bus =
      world.side.bus := by
  have answer : (commandBus.engine registry number).backend.append world events = world.append events := rfl
  rw [append, answer, Deployment.append]
  cases world.store.append events with
  | error fault =>
    refine (conclude_bus ..).trans ?_
    split <;> rfl
  | ok store => rfl

/-- What a step writes to the log is what it publishes. -/
theorem step_bus (registry : EventRegistry Data) (onBus : commandBus.publisher = .eventBus) (index : Nat)
    (dispatch : Dispatch Data State Command) (moment : Moment) (world : Deployment Data Handlers) :
    let engine := commandBus.engine registry dispatch.attempt
    (dispatch.step engine moment world).2.side.bus = world.side.bus.extend
      (Journal.sent ((commandBus.attempt index dispatch).entries (dispatch.deed? engine world))) := by
  intro engine
  have silent {bus : EventBus} (same : bus = world.side.bus) : bus = world.side.bus.extend [] := by
    rw [same, EventBus.extend_nil]
  cases phase : dispatch.phase with
  | reading =>
    simp only [step, phase, deed?, read]
    cases engine.backend.history world (engine.target dispatch.command) with
    | error fault => exact silent (conclude_bus ..)
    | ok history =>
      dsimp only
      cases engine.aggregates.load engine.rules (engine.target dispatch.command) history with
      | error fault => exact silent (conclude_bus ..)
      | ok loaded => exact silent rfl
  | deciding context state =>
    simp only [step, phase, deed?, decide]
    cases engine.rules.decide state context dispatch.command with
    | error fault => exact silent (conclude_bus ..)
    | ok payloads =>
      cases payloads with
      | nil => exact silent (conclude_bus ..)
      | cons first rest => exact silent rfl
  | stamping context reading pending =>
    simp only [step, phase, deed?, stamp]
    cases pending with
    | nil => exact silent rfl
    | cons first rest => cases reading <;> exact silent rfl
  | appending context events =>
    simp only [step, phase, deed?]
    exact silent (append_bus ..)
  | publishing context events =>
    simp only [step_publishing phase, phase, deed?]
    have answer : engine.backend.publish world events = world.publish events :=
      congrArg (fun publisher => publisher.publish world events) onBus
    rw [answer]
    exact (conclude_bus ..).trans (world.publish_bus (commandBus.attempt index dispatch) events)
  | pausing delay =>
    simp only [step, phase, deed?]
    exact silent rfl
  | finished result =>
    simp only [step, phase, deed?]
    exact silent rfl

end Dispatch

namespace Journal
variable {registry : EventRegistry Data} {start : EventStore}
  {journal : List (Entry Data Handlers State Command)} {broadcast : Broadcast Data Handlers State Command}

theorem sent_append (journal more : List (Entry Data Handlers State Command)) :
    sent (journal ++ more) = sent journal ++ sent more := by
  simp only [sent, broadcasts, List.filterMap_append, List.flatMap_append]

theorem Sound.mem_taken (sound : Sound registry start journal) (member : broadcast ∈ broadcasts journal) :
    broadcast ∈ taken journal := by
  obtain ⟨entry, noted, shown⟩ := List.mem_filterMap.mp member
  obtain rfl := Entry.broadcast?_eq_some.mp shown
  obtain ⟨earlier, later, rfl⟩ := List.append_of_mem noted
  obtain ⟨base, before, after, latest⟩ := sound earlier _ later rfl
  refine List.mem_map.mpr ⟨⟨broadcast.attempt, base, broadcast.events⟩, ?_, rfl⟩
  refine List.mem_filterMap.mpr ⟨⟨broadcast.attempt, .appended base broadcast.events (.ok ())⟩, ?_, rfl⟩
  rw [latest.split]
  simp

theorem Sound.records_of_taken (sound : Sound registry start journal) (member : broadcast ∈ taken journal) :
    ∃ base, broadcast.records.map Record.version = List.range' (base + 1) broadcast.events.length ∧
      0 < broadcast.events.length ∧
        ∀ record ∈ broadcast.records,
          record.stream = broadcast.stream ∧ record ∈ (store start journal).records broadcast.stream := by
  obtain ⟨commit, stored, rfl⟩ := List.mem_map.mp member
  obtain ⟨earlier, justified⟩ := sound.justified_of_mem stored
  refine ⟨commit.base, records_versions justified, length_pos_events justified, fun record inside => ?_⟩
  exact ⟨Event.toRecords_streams justified.1 (taken_in justified).1 record inside,
    sound.mem_records stored inside⟩

theorem Sound.exists_record_of_taken (sound : Sound registry start journal) (member : broadcast ∈ taken journal) :
    ∃ record, record ∈ broadcast.records := by
  obtain ⟨base, versions, positive, _⟩ := sound.records_of_taken member
  apply List.exists_mem_of_length_pos
  have lengths := congrArg List.length versions
  rw [List.length_map, List.length_range'] at lengths
  omega

end Journal

/-- All of one batch has smaller versions than all of another one. -/
def Broadcast.Below (first second : Broadcast Data Handlers State Command) : Prop :=
  ∀ record ∈ first.records, ∀ other ∈ second.records, record.version < other.version

/-- The versions that records of a stream carry, in the order of the records. -/
def Record.versionsOf (stream : StreamId) (records : List Record) : List Nat :=
  (records.filter (·.stream = stream)).map Record.version

namespace Journal
variable {registry : EventRegistry Data} {start : EventStore}
  {journal : List (Entry Data Handlers State Command)} {stream : StreamId}

theorem Sound.taken_ascending (ordered : start.Ordered) (sound : Sound registry start journal) :
    (taken journal).Pairwise fun first second => first.stream = second.stream → first.Below second := by
  apply List.pairwise_map.mpr
  apply (sound.commits_ascending ordered).imp_of_mem
  intro first second firstMember secondMember apart same record inside other more
  obtain ⟨_, firstJustified⟩ := sound.justified_of_mem firstMember
  obtain ⟨_, secondJustified⟩ := sound.justified_of_mem secondMember
  have low := List.mem_map_of_mem (f := Record.version) inside
  have high := List.mem_map_of_mem (f := Record.version) more
  change record.version ∈ first.records.map Record.version at low
  change other.version ∈ second.records.map Record.version at high
  rw [records_versions firstJustified, List.mem_range'_1] at low
  rw [records_versions secondJustified, List.mem_range'_1] at high
  have after := apart same
  omega

theorem Sound.filter_sent (sound : Sound registry start journal) (stream : StreamId) :
    (sent journal).filter (·.stream = stream) =
      ((broadcasts journal).filter (·.stream = stream)).flatMap Broadcast.records := by
  have whole (list : List (Broadcast Data Handlers State Command))
      (inside : ∀ broadcast ∈ list, broadcast ∈ taken journal) :
      (list.flatMap Broadcast.records).filter (·.stream = stream) =
        (list.filter (·.stream = stream)).flatMap Broadcast.records := by
    induction list with
    | nil => rfl
    | cons first rest ih =>
      obtain ⟨_, _, _, here⟩ := sound.records_of_taken (inside first List.mem_cons_self)
      rw [List.flatMap_cons, List.filter_append, ih fun other member => inside other (List.mem_cons_of_mem _ member)]
      by_cases same : first.stream = stream
      · rw [List.filter_cons_of_pos (by simpa using same), List.flatMap_cons,
          List.filter_eq_self.mpr fun record member => by simpa [(here record member).1] using same]
      · rw [List.filter_cons_of_neg (by simpa using same),
          List.filter_eq_nil_iff.mpr fun record member => by simpa [(here record member).1] using same,
          List.nil_append]
  exact whole _ fun broadcast member => sound.mem_taken member

theorem versionsOf_sent (sound : Sound registry start journal) (stream : StreamId) :
    Record.versionsOf stream (sent journal) =
      (((broadcasts journal).filter (·.stream = stream)).flatMap Broadcast.records).map Record.version :=
  congrArg (List.map Record.version) (sound.filter_sent stream)

/-- Batches that were stored carry ascending versions one after the other just if each is below all that follow. -/
theorem Sound.pairwise_versions (sound : Sound registry start journal)
    {list : List (Broadcast Data Handlers State Command)} (inside : ∀ broadcast ∈ list, broadcast ∈ taken journal) :
    ((list.flatMap Broadcast.records).map Record.version).Pairwise (· < ·) ↔ list.Pairwise Broadcast.Below := by
  rw [List.pairwise_map, List.pairwise_flatMap]
  refine and_iff_right ?_
  intro broadcast member
  obtain ⟨base, versions, _⟩ := sound.records_of_taken (inside broadcast member)
  rw [← List.pairwise_map (R := (· < ·)), versions]
  exact List.pairwise_lt_range'

/-- Batches of a stream that were stored, each once, are in the order of their versions just if they are in the order
in which they were stored. -/
theorem Sound.pairwise_below (ordered : start.Ordered) (sound : Sound registry start journal)
    {list : List (Broadcast Data Handlers State Command)} (some : list.Subperm (taken journal))
    (one : ∀ broadcast ∈ list, broadcast.stream = stream) :
    list.Pairwise Broadcast.Below ↔ list.Sublist (taken journal) := by
  have within {part : List (Broadcast Data Handlers State Command)} (sublist : part.Sublist (taken journal))
      (here : ∀ broadcast ∈ part, broadcast.stream = stream) : part.Pairwise Broadcast.Below := by
    apply ((sound.taken_ascending ordered).sublist sublist).imp_of_mem
    intro first second firstMember secondMember below
    exact below ((here first firstMember).trans (here second secondMember).symm)
  constructor
  · intro below
    obtain ⟨part, perm, sublist⟩ := some
    have same : part = list := by
      apply perm.eq_of_pairwise _ (within sublist fun broadcast member => one broadcast (perm.mem_iff.mp member)) below
      intro first second firstMember secondMember above under
      obtain ⟨record, inside⟩ := sound.exists_record_of_taken (sublist.subset firstMember)
      obtain ⟨other, more⟩ := sound.exists_record_of_taken (sublist.subset (perm.mem_iff.mpr secondMember))
      have less := above record inside other more
      have greater := under other more record inside
      omega
    rw [← same]
    exact sublist
  · intro sublist
    exact within sublist one

theorem Sound.distinct_versions (ordered : start.Ordered) (sound : Sound registry start journal)
    {list : List (Broadcast Data Handlers State Command)} (some : list.Subperm (taken journal))
    (one : ∀ broadcast ∈ list, broadcast.stream = stream) :
    ((list.flatMap Broadcast.records).map Record.version).Nodup := by
  obtain ⟨part, perm, sublist⟩ := some
  have below := (sound.pairwise_below ordered sublist.subperm fun broadcast member =>
    one broadcast (perm.mem_iff.mp member)).mpr sublist
  have ascending := (sound.pairwise_versions fun broadcast member => sublist.subset member).mpr below
  exact ((perm.flatMap_right _).map _).nodup_iff.mp (ascending.imp Nat.ne_of_lt)

end Journal

/-- A move of dispatches that publish on the bus, or one that leaves the log alone. -/
def Move.OnBus : Move Data Handlers State Command → Prop
  | .start commandBus _ _ => commandBus.publisher = .eventBus
  | .interlude between => between.KeepsLog
  | .step _ _ | .drop _ => True

namespace Traffic
variable {registry : EventRegistry Data} {traffic : Traffic Data Handlers State Command}

omit [Payload Data] in
theorem Effected.distinct_broadcasts (effected : traffic.Effected) :
    ((Journal.broadcasts traffic.journal).map (·.attempt.index)).Nodup := by
  apply effected.distinct
  · intro entry broadcast found
    obtain rfl := Entry.broadcast?_eq_some.mp found
    exact ⟨rfl, rfl⟩
  · intro attempt base events answer
    cases answer with
    | error fault => exact Nat.zero_le 1
    | ok done => exact Nat.le_refl 1

/-- Dispatches publish on the bus, and the log has what was sent on top of what it began with. -/
structure Logged (log : List (List UInt8)) (traffic : Traffic Data Handlers State Command) : Prop where
  onBus : traffic.OfCommandBuses fun commandBus => commandBus.publisher = .eventBus
  log_eq : traffic.world.side.bus.log = log ++ (Journal.sent traffic.journal).map Record.bytes

theorem logged_opening (deployment : Deployment Data Handlers) :
    (opening deployment : Traffic Data Handlers State Command).Logged deployment.side.bus.log where
  onBus := ofCommandBuses_opening _ deployment
  log_eq := (List.append_nil _).symm

theorem Logged.step {log : List (List UInt8)} (logged : traffic.Logged log)
    {move : Move Data Handlers State Command} (onBus : move.OnBus) : (traffic.step registry move).Logged log := by
  constructor
  · apply logged.onBus.step
    rintro commandBus moment command rfl
    exact onBus
  · cases move with
    | start commandBus moment command => exact logged.log_eq
    | step index moment =>
      simp only [Traffic.step]
      split
      · exact logged.log_eq
      next task found =>
        split
        · exact logged.log_eq
        · have written := Dispatch.step_bus registry
            (logged.onBus.tasks task (List.mem_of_getElem? found)) index task.dispatch moment traffic.world
          simp only [advance, Journal.sent_append, List.map_append, ← List.append_assoc, ← logged.log_eq]
          exact congrArg EventBus.log written
    | drop index => exact logged.log_eq
    | interlude interlude => exact (onBus traffic.world).trans logged.log_eq

theorem Logged.run {log : List (List UInt8)} (logged : traffic.Logged log)
    {moves : List (Move Data Handlers State Command)} (onBus : ∀ move ∈ moves, move.OnBus) :
    (traffic.run registry moves).Logged log := by
  induction moves generalizing traffic with
  | nil => exact logged
  | cons move rest ih =>
    obtain ⟨first, others⟩ := List.forall_mem_cons.mp onBus
    exact ih (logged.step first) others

/-- Whatever the store and the bus began with, as long as versions last: the log goes on with the batches that were
published, which were stored before, each as a whole and none twice. So no version of a stream is sent twice, and the
versions of a stream ascend just if its batches were published in the order in which they were stored. -/
theorem published_run (registry : EventRegistry Data) (deployment : Deployment Data Handlers)
    (records : List Record) (moves : List (Move Data Handlers State Command))
    (onBus : ∀ move ∈ moves, move.OnBus) (lasts : (opening (deployment.seeded records)).Lasts registry moves) :
    let traffic := (opening (deployment.seeded records)).run registry moves Version.add
    let broadcasts := Journal.broadcasts traffic.journal
    let taken := Journal.taken traffic.journal
    let sent := broadcasts.flatMap Broadcast.records
    traffic.world.side.bus.log = deployment.side.bus.log ++ sent.map Record.bytes ∧
    broadcasts.Subperm taken ∧
    (∀ broadcast ∈ broadcasts,
      (∃ base, broadcast.records.map Record.version = List.range' (base + 1) broadcast.events.length) ∧
        ∀ record ∈ broadcast.records, record.stream = broadcast.stream ∧ record ∈ traffic.rows broadcast.stream) ∧
    ∀ stream,
      (Record.versionsOf stream sent).Nodup ∧
        ((Record.versionsOf stream sent).Pairwise (· < ·) ↔
          (broadcasts.filter (·.stream = stream)).Sublist taken) := by
  rw [(sound_opening registry (deployment.seeded records)).run_words lasts]
  intro traffic broadcasts taken sent
  have ordered : (EventStore.seeded records).Ordered := EventStore.ordered_seeded records
  have sound : traffic.Sound registry (.seeded records) :=
    (sound_opening registry (deployment.seeded records)).run moves
  have effected : traffic.Effected := (effected_opening (deployment.seeded records)).run moves
  have logged : traffic.Logged deployment.side.bus.log := (logged_opening (deployment.seeded records)).run onBus
  have some : broadcasts.Subperm taken :=
    List.subperm_of_subset effected.distinct_broadcasts.of_map fun _ member => sound.journal.mem_taken member
  refine ⟨logged.log_eq, some, ?_, ?_⟩
  · intro broadcast member
    obtain ⟨base, versions, _, inside⟩ := sound.journal.records_of_taken (sound.journal.mem_taken member)
    refine ⟨⟨base, versions⟩, fun record here => ?_⟩
    rw [sound.rows_eq]
    exact inside record here
  · intro stream
    have part : (broadcasts.filter (·.stream = stream)).Subperm taken := List.filter_sublist.subperm.trans some
    have one (broadcast : Broadcast Data Handlers State Command)
        (member : broadcast ∈ broadcasts.filter (·.stream = stream)) : broadcast.stream = stream :=
      of_decide_eq_true (List.mem_filter.mp member).2
    rw [show Record.versionsOf stream sent = _ from Journal.versionsOf_sent sound.journal stream]
    refine ⟨sound.journal.distinct_versions ordered part one, ?_⟩
    rw [sound.journal.pairwise_versions fun broadcast member => part.subset member]
    exact sound.journal.pairwise_below ordered part one

end Traffic

namespace Tally

/-- A dispatch stores a mark, and before it publishes another one stores the next mark and publishes. -/
def overtaking : List (Move Mark Unit Nat Nat) :=
  let onBus := { commandBus (.ok ()) with publisher := .eventBus }
  [.start onBus ⟨0, .zero⟩ 1] ++ List.replicate 6 (.step 0 ⟨3, .zero⟩) ++
    [.start onBus ⟨4, .zero⟩ 1] ++ List.replicate 7 (.step 1 ⟨5, .zero⟩) ++ [.step 0 ⟨6, .zero⟩]

theorem onBus_overtaking : ∀ move ∈ overtaking, move.OnBus := by
  simp [overtaking, Move.OnBus]

theorem versions_overtaking :
    let traffic := (Traffic.opening ((Deployment.fresh none ()).seeded [⟨stream, markType, .null, 0, 4⟩])).run
      registry overtaking Version.add
    Record.versionsOf stream ((Journal.broadcasts traffic.journal).flatMap Broadcast.records) = [6, 5] := rfl

theorem published_overtaking :
    let opening := Traffic.opening ((Deployment.fresh none ()).seeded [⟨stream, markType, .null, 0, 4⟩])
    let traffic := opening.run registry overtaking Version.add
    let broadcasts := Journal.broadcasts traffic.journal
    let sent := broadcasts.flatMap Broadcast.records
    (∀ move ∈ overtaking, move.OnBus) ∧ opening.Lasts registry overtaking ∧ Record.versionsOf stream sent = [6, 5] ∧
      ((Record.versionsOf stream sent).Pairwise (· < ·) ↔
        (broadcasts.filter (·.stream = stream)).Sublist (Journal.taken traffic.journal)) := by
  intro opening traffic broadcasts sent
  have lasts := Traffic.lasts_opening registry (Deployment.fresh none ())
    (show ∀ record ∈ [(⟨stream, markType, .null, 0, 4⟩ : Record)], record.version ≤ 4 by simp)
    (show 4 + overtaking.length < UInt64.size by decide)
  have whole := Traffic.published_run registry (Deployment.fresh none ()) [⟨stream, markType, .null, 0, 4⟩] overtaking
    onBus_overtaking lasts
  exact ⟨onBus_overtaking, lasts, versions_overtaking, (whole.2.2.2 stream).2⟩

/-- So the versions of a stream do not always ascend in the log, however available the bus is. -/
theorem overtaken :
    let traffic := (Traffic.opening (Deployment.fresh none ())).run registry overtaking Version.add
    (∀ move ∈ overtaking, move.OnBus) ∧ traffic.world.side.bus.available = true ∧
      ∃ events, traffic.world.side.bus.published registry = .ok events ∧
        (∀ event ∈ events, event.stream = stream) ∧ ¬ (events.map Event.version).Pairwise (· < ·) := by
  intro traffic
  have log : traffic.world.side.bus.log =
      [⟨stream, markType, .null, 5, 2⟩, ⟨stream, markType, .null, 3, 1⟩].map Record.bytes := rfl
  have portable (time version : Nat) (small : time < 8 ∧ version < 8) :
      (⟨stream, markType, .null, time, version⟩ : Record).Portable :=
    { data := ⟨trivial, trivial, Nat.zero_le _⟩
      timestamp := show (-9223372036854775808 : Int) ≤ time ∧ (time : Int) < 9223372036854775808 by omega
      version := show version < 18446744073709551616 by omega }
  refine ⟨onBus_overtaking, rfl, [.of stream ⟨⟩ 5 2, .of stream ⟨⟩ 3 1], ?_, ?_, ?_⟩
  · rw [EventBus.published, log, EventBus.readLog_bytes]
    · rfl
    · simp only [List.forall_mem_cons]
      exact ⟨portable 5 2 (by decide), portable 3 1 (by decide), nofun⟩
  · simp [Event.of]
  · simp [Event.of]

end Tally

end Inventory
