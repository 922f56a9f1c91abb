import Inventory.Proofs.Aggregate
import Inventory.Proofs.EventStore
import Inventory.Proofs.Traffic.DispatchStep
import Inventory.Proofs.Traffic.Tasks

/-! The journal accounts for the run. Taking in again the batches that it says were taken in leads from the
store at the start to the store as it is, and every entry is justified by the entries before it: a read found
the history that was there, a batch was decided on the history of the last read and met the answer of the
store as the journal has it, and what is published was appended before. The dispatches under way hold the
other half, what the journal says about the entry that comes next. -/
namespace Inventory
variable {Data Handlers State Command : Type}

namespace Journal

/-- An entry after which the same dispatch did nothing, with the journal before it and behind it. -/
structure Latest (journal before : List (Entry Data Handlers State Command))
    (entry : Entry Data Handlers State Command) (after : List (Entry Data Handlers State Command)) : Prop where
  split : journal = before ++ entry :: after
  silent : ∀ other ∈ after, other.attempt.index ≠ entry.attempt.index

theorem Latest.last (journal : List (Entry Data Handlers State Command))
    (entry : Entry Data Handlers State Command) : Latest (journal ++ [entry]) journal entry [] where
  split := rfl
  silent _ member := nomatch member

theorem Latest.concat {journal before after : List (Entry Data Handlers State Command)}
    {entry : Entry Data Handlers State Command} (latest : Latest journal before entry after)
    {more : List (Entry Data Handlers State Command)}
    (elsewhere : ∀ other ∈ more, other.attempt.index ≠ entry.attempt.index) :
    Latest (journal ++ more) before entry (after ++ more) where
  split := by rw [latest.split, List.append_assoc, List.cons_append]
  silent other member := by
    rcases List.mem_append.mp member with old | new
    · exact latest.silent other old
    · exact elsewhere other new

end Journal

open Journal

variable [Payload Data]

/-- The store behind an entry: a batch that was taken in is there. -/
def Entry.leave (store : EventStore) (entry : Entry Data Handlers State Command) : EventStore :=
  match entry.deed with
  | .appended _ events (.ok ()) =>
      match store.append events with
      | .error _ => store
      | .ok later => later
  | .appended _ _ (.error _) | .read _ | .published _ _ => store

def Journal.store (start : EventStore) (journal : List (Entry Data Handlers State Command)) :
    EventStore :=
  journal.foldl Entry.leave start

@[simp] theorem Journal.store_nil (start : EventStore) :
    store start ([] : List (Entry Data Handlers State Command)) = start := rfl

@[simp] theorem Journal.store_concat (start : EventStore)
    (journal : List (Entry Data Handlers State Command))
    (entry : Entry Data Handlers State Command) :
    store start (journal ++ [entry]) = entry.leave (store start journal) := by
  simp [store]

namespace Attempt

/-- What this dispatch did last was to read this history. -/
def HasRead (attempt : Attempt Data Handlers State Command) (registry : EventRegistry Data)
    (start : EventStore) (journal : List (Entry Data Handlers State Command))
    (history : List (Event Data)) : Prop :=
  ∃ before after,
    Latest journal before ⟨attempt, .read (AggregateRegistry.lastVersion history)⟩ after ∧
      (Journal.store start before).history registry attempt.stream = .ok history

/-- The history that was read last ends at this version and leads to this state. -/
def HasLoaded (attempt : Attempt Data Handlers State Command) (registry : EventRegistry Data)
    (start : EventStore) (journal : List (Entry Data Handlers State Command)) (version : Nat)
    (state : State) : Prop :=
  ∃ history, attempt.HasRead registry start journal history ∧
    (attempt.commandBus.aggregates attempt.number).load (attempt.commandBus.rules attempt.number) attempt.stream
      history = .ok (.start attempt.stream version, state)

/-- The rules answered the command with these payloads, on the history that was read last. -/
def HasDecided (attempt : Attempt Data Handlers State Command) (registry : EventRegistry Data)
    (start : EventStore) (journal : List (Entry Data Handlers State Command)) (version : Nat)
    (payloads : List Data) : Prop :=
  payloads ≠ [] ∧ ∃ state, attempt.HasLoaded registry start journal version state ∧
    (attempt.commandBus.rules attempt.number).decide state (.start attempt.stream version) attempt.command =
      .ok payloads

end Attempt

theorem Attempt.HasLoaded.version_read {attempt : Attempt Data Handlers State Command}
    {registry : EventRegistry Data} {start : EventStore}
    {journal : List (Entry Data Handlers State Command)} {version : Nat} {state : State}
    (loaded : attempt.HasLoaded registry start journal version state) :
    ∃ history before after, Latest journal before ⟨attempt, .read version⟩ after ∧
      (Journal.store start before).history registry attempt.stream = .ok history ∧
        AggregateRegistry.lastVersion history = version ∧
          (attempt.commandBus.aggregates attempt.number).load (attempt.commandBus.rules attempt.number) attempt.stream
            history = .ok (.start attempt.stream version, state) := by
  obtain ⟨history, ⟨before, after, latest, found⟩, loads⟩ := loaded
  have same : AggregateRegistry.lastVersion history = version :=
    (congrArg Context.version (AggregateRegistry.load_eq_ok.mp loads).1).symm
  rw [same] at latest
  exact ⟨history, before, after, latest, found, same, loads⟩

/-- What the journal says about an attempt in a phase. -/
def Attempt.Fits (attempt : Attempt Data Handlers State Command) (registry : EventRegistry Data)
    (start : EventStore) (journal : List (Entry Data Handlers State Command)) :
    Phase Data State → Prop
  | .reading | .pausing _ | .finished _ => True
  | .deciding context state =>
      ∃ version, context = .start attempt.stream version ∧
        attempt.HasLoaded registry start journal version state
  | .stamping context _ pending =>
      context.Recorded attempt.stream ∧
        attempt.HasDecided registry start journal context.initialVersion
          (context.uncommitted.map Event.data ++ pending)
  | .appending context events =>
      Event.Stamped attempt.stream context.initialVersion events ∧
        context.version = context.initialVersion + events.length ∧
          attempt.HasDecided registry start journal context.initialVersion (events.map Event.data)
  | .publishing context events =>
      context.version = context.initialVersion + events.length ∧
        ∃ before after,
          Latest journal before ⟨attempt, .appended context.initialVersion events (.ok ())⟩ after

/-- The entry says what came of its step when these were the entries before it. -/
def Entry.Justified (entry : Entry Data Handlers State Command) (registry : EventRegistry Data)
    (start : EventStore) (earlier : List (Entry Data Handlers State Command)) : Prop :=
  match entry.deed with
  | .read version =>
      ∃ history, (Journal.store start earlier).history registry entry.attempt.stream = .ok history ∧
        AggregateRegistry.lastVersion history = version
  | .appended version events answer =>
      Event.Stamped entry.attempt.stream version events ∧
        entry.attempt.HasDecided registry start earlier version (events.map Event.data) ∧
          answer = ((Journal.store start earlier).append events).map fun _ => ()
  | .published events _ =>
      ∃ version before after,
        Latest earlier before ⟨entry.attempt, .appended version events (.ok ())⟩ after

def Journal.Sound (registry : EventRegistry Data) (start : EventStore)
    (journal : List (Entry Data Handlers State Command)) : Prop :=
  ∀ earlier entry later, journal = earlier ++ entry :: later → entry.Justified registry start earlier

structure Traffic.Sound (registry : EventRegistry Data) (start : EventStore)
    (traffic : Traffic Data Handlers State Command) : Prop where
  store_eq : traffic.world.store = Journal.store start traffic.journal
  journal : Journal.Sound registry start traffic.journal
  known : traffic.Known
  fits : traffic.Each fun attempt journal phase => attempt.Fits registry start journal phase

section Frame
variable {registry : EventRegistry Data} {start : EventStore}
  {attempt : Attempt Data Handlers State Command}
  {journal more : List (Entry Data Handlers State Command)}

theorem Attempt.HasRead.concat {history : List (Event Data)}
    (read : attempt.HasRead registry start journal history)
    (elsewhere : ∀ other ∈ more, other.attempt.index ≠ attempt.index) :
    attempt.HasRead registry start (journal ++ more) history := by
  obtain ⟨before, after, latest, found⟩ := read
  exact ⟨before, after ++ more, latest.concat elsewhere, found⟩

theorem Attempt.HasLoaded.concat {version : Nat} {state : State}
    (loaded : attempt.HasLoaded registry start journal version state)
    (elsewhere : ∀ other ∈ more, other.attempt.index ≠ attempt.index) :
    attempt.HasLoaded registry start (journal ++ more) version state := by
  obtain ⟨history, read, loads⟩ := loaded
  exact ⟨history, read.concat elsewhere, loads⟩

theorem Attempt.HasDecided.concat {version : Nat} {payloads : List Data}
    (decided : attempt.HasDecided registry start journal version payloads)
    (elsewhere : ∀ other ∈ more, other.attempt.index ≠ attempt.index) :
    attempt.HasDecided registry start (journal ++ more) version payloads := by
  obtain ⟨nonempty, state, loaded, decides⟩ := decided
  exact ⟨nonempty, state, loaded.concat elsewhere, decides⟩

/-- What other dispatches do leaves an attempt in its place. -/
theorem Attempt.Fits.concat {phase : Phase Data State}
    (fits : attempt.Fits registry start journal phase)
    (elsewhere : ∀ other ∈ more, other.attempt.index ≠ attempt.index) :
    attempt.Fits registry start (journal ++ more) phase := by
  cases phase with
  | reading => trivial
  | deciding context state =>
    obtain ⟨version, same, loaded⟩ := fits
    exact ⟨version, same, loaded.concat elsewhere⟩
  | stamping context reading pending =>
    exact ⟨fits.1, fits.2.concat elsewhere⟩
  | appending context events =>
    exact ⟨fits.1, fits.2.1, fits.2.2.concat elsewhere⟩
  | publishing context events =>
    obtain ⟨version, before, after, latest⟩ := fits
    exact ⟨version, before, after ++ more, latest.concat elsewhere⟩
  | pausing delay => trivial
  | finished result => trivial

end Frame

theorem Attempt.fits_ended (attempt : Attempt Data Handlers State Command)
    (registry : EventRegistry Data) (start : EventStore)
    (journal : List (Entry Data Handlers State Command)) (dispatch : Dispatch Data State Command)
    (policy : Retry.Policy) (fault : Fault) :
    attempt.Fits registry start journal (dispatch.ended policy (.error fault)).phase := by
  rcases dispatch.ended_cases policy fault with finished | ⟨_, _, pausing⟩
  · rw [finished]
    trivial
  · rw [pausing]
    trivial

/-- A step of a dispatch that fits the journal leads to the store that the longer journal leads to, is
justified in what it notes, and leaves the dispatch fitting again. -/
theorem DispatchStep.fits {registry : EventRegistry Data} {start store later : EventStore}
    {commandBus : CommandBus Data Handlers State Command} {index : Nat}
    {journal : List (Entry Data Handlers State Command)}
    {dispatch next : Dispatch Data State Command} {deed? : Option (Deed Data)}
    (dispatchStep : DispatchStep registry commandBus store dispatch deed? next later)
    (store_eq : store = Journal.store start journal)
    (fits : (commandBus.attempt index dispatch).Fits registry start journal dispatch.phase) :
    later = Journal.store start (journal ++ (commandBus.attempt index dispatch).entries deed?) ∧
      (∀ entry ∈ (commandBus.attempt index dispatch).entries deed?, entry.Justified registry start journal) ∧
        (commandBus.attempt index next).Fits registry start
          (journal ++ (commandBus.attempt index dispatch).entries deed?) next.phase := by
  subst store_eq
  have unnoted (entry : Entry Data Handlers State Command)
      (member : entry ∈ (commandBus.attempt index dispatch).entries none) :
      entry.Justified registry start journal := nomatch member
  have noted {deed : Deed Data}
      (justified : Entry.Justified ⟨commandBus.attempt index dispatch, deed⟩ registry start journal)
      (entry : Entry Data Handlers State Command)
      (member : entry ∈ (commandBus.attempt index dispatch).entries (some deed)) :
      entry.Justified registry start journal := by
    rw [List.mem_singleton.mp member]
    exact justified
  cases dispatchStep with
  | unread phase failed => exact ⟨by simp, unnoted, Attempt.fits_ended ..⟩
  | @unloaded history fault phase found failed =>
    exact ⟨by simp [Entry.leave], noted ⟨history, found, rfl⟩, Attempt.fits_ended ..⟩
  | @loaded history context state phase found loads =>
    obtain ⟨rfl, _⟩ := AggregateRegistry.load_eq_ok.mp loads
    refine ⟨by simp [Entry.leave], noted ⟨history, found, rfl⟩, _, rfl, history, ?_, loads⟩
    exact ⟨journal, [], Latest.last journal _, found⟩
  | undecided phase failed => exact ⟨by simp, unnoted, Attempt.fits_ended ..⟩
  | idle phase nothing => exact ⟨by simp, unnoted, trivial⟩
  | @decided context state first rest phase decides =>
    rw [phase] at fits
    obtain ⟨version, rfl, loaded⟩ := fits
    rw [Attempt.entries_none, List.append_nil]
    exact ⟨rfl, unnoted, ⟨rfl, trivial, rfl⟩, List.cons_ne_nil first rest, state, loaded, decides⟩
  | looked wall phase =>
    rw [phase] at fits
    rw [Attempt.entries_none, List.append_nil]
    exact ⟨rfl, unnoted, fits⟩
  | @stamped context reading first rest time phase =>
    rw [phase] at fits
    rw [Attempt.entries_none, List.append_nil]
    refine ⟨rfl, unnoted, fits.1.record first time, ?_⟩
    have moved : (context.record first time).uncommitted.map Event.data ++ rest =
        context.uncommitted.map Event.data ++ first :: rest := by
      simp [Context.record, Context.next, Event.of]
    rw [moved]
    exact fits.2
  | @taken context reading phase =>
    rw [phase] at fits
    obtain ⟨recorded, decided⟩ := fits
    rw [List.append_nil] at decided
    rw [Attempt.entries_none, List.append_nil]
    exact ⟨rfl, unnoted, recorded.stamped, recorded.version_eq, decided⟩
  | @refused context events fault phase failed =>
    rw [phase] at fits
    refine ⟨by simp [Entry.leave], noted ⟨fits.1, fits.2.2, ?_⟩, Attempt.fits_ended ..⟩
    rw [failed]
    rfl
  | @stored context events later phase stores =>
    rw [phase] at fits
    refine ⟨by simp [Entry.leave, stores], noted ⟨fits.1, fits.2.2, ?_⟩, fits.2.1, journal, [], ?_⟩
    · rw [stores]
      rfl
    · exact Latest.last journal _
  | unpublished fault phase =>
    rw [phase] at fits
    exact ⟨by simp [Entry.leave], noted ⟨_, fits.2⟩, trivial⟩
  | published phase =>
    rw [phase] at fits
    exact ⟨by simp [Entry.leave], noted ⟨_, fits.2⟩, trivial⟩
  | resumed delay phase => exact ⟨by simp, unnoted, trivial⟩
  | rested phase =>
    refine ⟨by simp, unnoted, ?_⟩
    rw [phase]
    trivial

theorem Journal.Sound.concat {registry : EventRegistry Data} {start : EventStore}
    {journal : List (Entry Data Handlers State Command)} (sound : Sound registry start journal)
    {attempt : Attempt Data Handlers State Command} {deed? : Option (Deed Data)}
    (justified : ∀ entry ∈ attempt.entries deed?, entry.Justified registry start journal) :
    Sound registry start (journal ++ attempt.entries deed?) := by
  cases deed? with
  | none => simpa [Attempt.entries] using sound
  | some deed =>
    intro earlier entry later split
    rcases List.eq_nil_or_concat later with rfl | ⟨front, last, rfl⟩
    · obtain ⟨rfl, same⟩ := List.append_inj' split rfl
      obtain rfl : (⟨attempt, deed⟩ : Entry Data Handlers State Command) = entry := by
        simpa [Attempt.entries] using same
      exact justified _ List.mem_cons_self
    · rw [List.concat_eq_append, ← List.cons_append, ← List.append_assoc] at split
      obtain ⟨rfl, _⟩ := List.append_inj' split rfl
      exact sound earlier entry front rfl

namespace Traffic

theorem sound_opening (registry : EventRegistry Data) (deployment : Deployment Data Handlers) :
    Sound registry deployment.store
      (opening deployment : Traffic Data Handlers State Command) where
  store_eq := rfl
  journal earlier entry later split := by
    exact absurd split.symm (List.append_ne_nil_of_right_ne_nil earlier (List.cons_ne_nil entry later))
  known _ member := nomatch member
  fits _ _ found := nomatch found

variable {registry : EventRegistry Data} {start : EventStore}
  {traffic : Traffic Data Handlers State Command}

theorem Sound.step (sound : traffic.Sound registry start) (move : Move Data Handlers State Command) :
    (traffic.step registry move).Sound registry start := by
  have dispatchStep {index : Nat} {task : Task Data Handlers State Command}
      (found : traffic.tasks[index]? = some task) (moment : Moment) :=
    (dispatchStep_step task.commandBus registry task.dispatch moment traffic.world).fits sound.store_eq
      (sound.fits index task found)
  have fits : (traffic.step registry move).Each fun attempt journal phase =>
      attempt.Fits registry start journal phase := by
    apply sound.fits.step sound.known
    · intro attempt journal first elsewhere
      trivial
    · intro attempt journal more phase before elsewhere
      exact before.concat elsewhere
    · intro index task moment found
      exact (dispatchStep found moment).2.2
  cases move with
  | start commandBus moment command => exact ⟨sound.store_eq, sound.journal, sound.known.step _, fits⟩
  | step index moment =>
    refine ⟨?_, ?_, sound.known.step _, fits⟩
    · simp only [Traffic.step]
      split
      · exact sound.store_eq
      next task found =>
        split
        · exact sound.store_eq
        · exact (dispatchStep found moment).1
    · simp only [Traffic.step]
      split
      · exact sound.journal
      next task found =>
        split
        · exact sound.journal
        · exact sound.journal.concat (dispatchStep found moment).2.1
  | drop index => exact ⟨sound.store_eq, sound.journal, sound.known.step _, fits⟩
  | interlude interlude =>
    exact ⟨(interlude.store_pass traffic.world).trans sound.store_eq, sound.journal,
      sound.known.step (.interlude interlude), fits⟩

theorem Sound.rows_eq {registry : EventRegistry Data} {start : EventStore}
    {traffic : Traffic Data Handlers State Command} (sound : traffic.Sound registry start)
    (stream : StreamId) : traffic.rows stream = (Journal.store start traffic.journal).records stream := by
  rw [rows, sound.store_eq]

theorem Sound.run (sound : traffic.Sound registry start)
    (moves : List (Move Data Handlers State Command)) : (traffic.run registry moves).Sound registry start := by
  induction moves generalizing traffic with
  | nil => exact sound
  | cons move rest ih => exact ih (sound.step move)

end Traffic

end Inventory
