import Inventory.Proofs.Traffic.Order

/-! Counting in words. A process counts versions on in words of 64 bits, and these come to an end. As long as no
dispatch counts beyond the greatest of them, nothing shows of that: traffic is what it is where versions are counted on
without end, so that all that is shown of the one holds of the other. A step adds one to a version at most, so a run
lasts if it is short enough for the versions that it begins with. -/
namespace Inventory
variable {Data Handlers State Command : Type}

theorem Version.add_eq {version count : Nat} (within : version + count < UInt64.size) :
    Version.add version count = version + count :=
  Nat.mod_eq_of_lt within

def EventStore.UpTo (bound : Nat) (store : EventStore) : Prop :=
  ∀ stream, ∀ row ∈ store.records stream, row.version ≤ bound

/-- No version that the dispatch works with is greater. -/
def Phase.UpTo (bound : Nat) : Phase Data State → Prop
  | .deciding context _ | .stamping context _ _ | .appending context _ => context.version ≤ bound
  | .reading | .publishing _ _ | .pausing _ | .finished _ => True

/-- The next step of the dispatch counts no version beyond the greatest word. -/
def Phase.InWords : Phase Data State → Prop
  | .stamping context _ (_ :: _) => context.version + 1 < UInt64.size
  | .appending context _ => context.version < UInt64.size
  | .stamping _ _ [] | .reading | .deciding _ _ | .publishing _ _ | .pausing _ | .finished _ => True

instance : (phase : Phase Data State) → Decidable phase.InWords
  | .stamping context _ (_ :: _) => inferInstanceAs (Decidable (context.version + 1 < UInt64.size))
  | .appending context _ => inferInstanceAs (Decidable (context.version < UInt64.size))
  | .stamping _ _ [] | .reading | .deciding _ _ | .publishing _ _ | .pausing _ | .finished _ => .isTrue trivial

theorem Phase.UpTo.mono {bound greater : Nat} {phase : Phase Data State} (upTo : phase.UpTo bound)
    (above : bound ≤ greater) : phase.UpTo greater := by
  cases phase with
  | deciding | stamping | appending => exact Nat.le_trans upTo above
  | reading | publishing | pausing | finished => trivial

theorem Phase.UpTo.inWords {bound : Nat} {phase : Phase Data State} (upTo : phase.UpTo bound)
    (within : bound + 1 < UInt64.size) : phase.InWords := by
  cases phase with
  | stamping context reading pending =>
    cases pending with
    | nil => trivial
    | cons first rest => exact Nat.lt_of_le_of_lt (Nat.succ_le_succ upTo) within
  | appending => exact Nat.lt_of_le_of_lt (Nat.le_succ_of_le upTo) within
  | reading | deciding | publishing | pausing | finished => trivial

namespace EventStore

theorem check_words {stream : StreamId} {first index : Nat} {events : List (Event Data)}
    (within : first + index + events.length ≤ UInt64.size) :
    Batch.check Version.add stream first index events = Batch.check Nat.add stream first index events := by
  induction events generalizing index with
  | nil => rfl
  | cons event rest ih =>
    rw [List.length_cons] at within
    have here : Version.add first index = Nat.add first index := Version.add_eq (by omega)
    rw [Batch.check, Batch.check, here, ih (by omega)]

theorem upTo_seeded {records : List Record} {bound : Nat} (below : ∀ record ∈ records, record.version ≤ bound) :
    (seeded records).UpTo bound := by
  induction records using List.reverseRecOn with
  | nil => exact fun _ _ member => nomatch member
  | append_singleton records record ih =>
    intro stream row member
    rw [seeded_concat, insert] at member
    have placed : row ∈ (seeded records).records stream ∨ record.stream = stream ∧ row ∈ [record] :=
      mem_records_placeAll.mp member
    rcases placed with old | ⟨_, new⟩
    · exact ih (fun other inside => below other (List.mem_append_left _ inside)) stream row old
    · exact below row (List.mem_append_right _ new)

variable [Payload Data]

theorem UpTo.append {bound : Nat} {store later : EventStore} (upTo : store.UpTo bound) {events : List (Event Data)}
    (stores : store.append events = .ok later) (below : ∀ event ∈ events, event.version ≤ bound) :
    later.UpTo bound := by
  unfold EventStore.append at stores
  split at stores
  · cases stores
  · cases stores
    exact upTo
  · split at stores
    · cases stores
    next batch made =>
      split at stores
      · cases stores
      · cases stores
        intro stream row member
        rcases mem_records_placeAll.mp member with old | ⟨_, new⟩
        · exact upTo stream row old
        · have version : row.version ∈ events.map Event.version :=
            Event.toRecords_versions made ▸ List.mem_map_of_mem new
          obtain ⟨event, inside, same⟩ := List.mem_map.mp version
          exact same ▸ below event inside

theorem append_words (store : EventStore) {stream : StreamId} {version : Nat} {events : List (Event Data)}
    (stamped : Event.Stamped stream version events) (within : version + events.length < UInt64.size) :
    store.append events Version.add = store.append events := by
  have same : Batch.stream events Version.add = Batch.stream events := by
    cases events with
    | nil => rfl
    | cons first rest =>
      have begins : first.version = version + 1 := by rw [stamped.1]; rfl
      rw [Batch.stream, Batch.stream, check_words (by omega)]
  rw [append, append, same]

end EventStore

variable [Payload Data]

/-- How versions are counted shows at a stamp and at an append only. -/
theorem Dispatch.step_alike {World : Type} (engine : Engine World Data State Command)
    {add : Nat → Nat → Nat} {append : World → List (Event Data) → Except Fault Unit × World}
    {dispatch : Dispatch Data State Command} (moment : Moment) (world : World)
    (counted : ∀ context reading first rest, dispatch.phase = .stamping context reading (first :: rest) →
      add context.version 1 = engine.add context.version 1)
    (stored : ∀ context events, dispatch.phase = .appending context events →
      append world events = engine.backend.append world events) :
    dispatch.step { engine with backend := { engine.backend with append }, add } moment world =
        dispatch.step engine moment world ∧
      dispatch.deed? { engine with backend := { engine.backend with append }, add } world =
        dispatch.deed? engine world := by
  cases phase : dispatch.phase with
  | stamping context reading pending =>
    simp only [step, deed?, phase, and_true]
    cases pending with
    | nil => rfl
    | cons first rest =>
      cases reading with
      | none => rfl
      | some reading => simp only [stamp, counted _ _ _ _ phase]
  | appending context events =>
    simp only [step, deed?, phase, Dispatch.append, stored _ _ phase, and_true]
    rfl
  | reading | deciding | publishing | pausing | finished =>
    rw [step, step, deed?, deed?, phase]
    exact ⟨rfl, rfl⟩

omit [Payload Data] in
theorem Dispatch.start_alike {World : Type} (engine : Engine World Data State Command) (backend : Backend World Data)
    (add : Nat → Nat → Nat) (moment : Moment) (command : Command) :
    Dispatch.start { engine with backend, add } moment command = Dispatch.start engine moment command := rfl

theorem CommandBus.engine_counting (commandBus : CommandBus Data Handlers State Command) (registry : EventRegistry Data)
    (number : Nat) (add : Nat → Nat → Nat) :
    commandBus.engine registry number add =
      { commandBus.engine registry number with
        backend :=
          { (commandBus.engine registry number).backend with append deployment events := deployment.append events add }
        add } := by
  simp only [engine, Deployment.backend]

theorem Dispatch.step_words (commandBus : CommandBus Data Handlers State Command) (registry : EventRegistry Data)
    (number : Nat) {dispatch : Dispatch Data State Command} (moment : Moment) (world : Deployment Data Handlers)
    (inWords : dispatch.phase.InWords)
    (stamped : ∀ context events, dispatch.phase = .appending context events → ∃ stream version,
      Event.Stamped stream version events ∧ context.version = version + events.length) :
    dispatch.step (commandBus.engine registry number Version.add) moment world =
        dispatch.step (commandBus.engine registry number) moment world ∧
      dispatch.deed? (commandBus.engine registry number Version.add) world =
        dispatch.deed? (commandBus.engine registry number) world := by
  rw [commandBus.engine_counting]
  refine step_alike (commandBus.engine registry number) moment world ?counted ?stored
  case counted =>
    intro context reading first rest phase
    rw [phase] at inWords
    exact Version.add_eq inWords
  case stored =>
    intro context events phase
    obtain ⟨stream, version, shape, reached⟩ := stamped context events phase
    rw [phase] at inWords
    have within : version + events.length < UInt64.size := reached ▸ inWords
    have same : world.append events Version.add = world.append events := by
      rw [Deployment.append, Deployment.append, world.store.append_words shape within]
    exact same

/-- What a step leaves has versions that are greater by one at most. -/
theorem DispatchStep.upTo {registry : EventRegistry Data} {commandBus : CommandBus Data Handlers State Command}
    {dispatch next : Dispatch Data State Command} {store later : EventStore} {deed? : Option (Deed Data)} {bound : Nat}
    (dispatchStep : DispatchStep registry commandBus store dispatch deed? next later) (stored : store.UpTo bound)
    (upTo : dispatch.phase.UpTo bound)
    (stamped : ∀ context events, dispatch.phase = .appending context events → ∃ stream version,
      Event.Stamped stream version events ∧ context.version = version + events.length) :
    later.UpTo bound ∧ next.phase.UpTo (bound + 1) := by
  have ended (result : Except Fault (Committed Data)) :
      (dispatch.ended commandBus.retry result).phase.UpTo (bound + 1) := by
    unfold Dispatch.ended
    split <;> trivial
  cases dispatchStep with
  | unread | unloaded | undecided | refused => exact ⟨stored, ended _⟩
  | loaded phase found loads =>
    obtain ⟨rfl, _⟩ := AggregateRegistry.load_eq_ok.mp loads
    refine ⟨stored, Nat.le_succ_of_le ?_⟩
    rw [Context.start, EventRegistry.lastVersion_eq_top found]
    exact Record.top_le (stored _)
  | decided phase | looked _ phase | taken phase =>
    rw [phase] at upTo
    exact ⟨stored, Nat.le_succ_of_le upTo⟩
  | stamped time phase =>
    rw [phase] at upTo
    exact ⟨stored, Nat.succ_le_succ upTo⟩
  | @stored context events later phase stores =>
    obtain ⟨stream, version, shape, reached⟩ := stamped context events phase
    rw [phase] at upTo
    have below (event : Event Data) (member : event ∈ events) : event.version ≤ bound := by
      have inside : event.version ∈ events.map Event.version := List.mem_map_of_mem member
      rw [shape.versions, List.mem_range'_1] at inside
      have most : context.version ≤ bound := upTo
      omega
    exact ⟨stored.append stores below, trivial⟩
  | idle | unpublished | published | resumed => exact ⟨stored, trivial⟩
  | rested phase => exact ⟨stored, upTo.mono (Nat.le_succ bound)⟩

namespace Traffic

omit [Payload Data] in
/-- The dispatch that is to take a step, if the move is one, counts within words. -/
def InWords (traffic : Traffic Data Handlers State Command) : Move Data Handlers State Command → Prop
  | .step index _ =>
      match traffic.tasks[index]? with
      | none => True
      | some task => task.dispatch.phase.InWords
  | .start _ _ _ | .drop _ | .interlude _ => True

/-- No step of the run counts a version beyond the greatest word. -/
def Lasts (registry : EventRegistry Data) :
    Traffic Data Handlers State Command → List (Move Data Handlers State Command) → Prop
  | _, [] => True
  | traffic, move :: rest => traffic.InWords move ∧ Lasts registry (traffic.step registry move Version.add) rest

omit [Payload Data] in
instance (traffic : Traffic Data Handlers State Command) :
    (move : Move Data Handlers State Command) → Decidable (traffic.InWords move)
  | .step index _ =>
      match found : traffic.tasks[index]? with
      | none => .isTrue (by simp only [InWords, found])
      | some task => decidable_of_iff task.dispatch.phase.InWords (by simp only [InWords, found])
  | .start _ _ _ | .drop _ | .interlude _ => .isTrue trivial

instance decidableLasts (registry : EventRegistry Data) :
    (traffic : Traffic Data Handlers State Command) → (moves : List (Move Data Handlers State Command)) →
      Decidable (Lasts registry traffic moves)
  | _, [] => .isTrue trivial
  | traffic, move :: rest =>
      have := decidableLasts registry (traffic.step registry move Version.add) rest
      inferInstanceAs (Decidable (_ ∧ _))

variable {registry : EventRegistry Data} {start : EventStore} {traffic : Traffic Data Handlers State Command}

theorem Sound.stamped (sound : traffic.Sound registry start) {index : Nat} {task : Task Data Handlers State Command}
    (found : traffic.tasks[index]? = some task) {context : Context Data} {events : List (Event Data)}
    (phase : task.dispatch.phase = .appending context events) :
    ∃ stream version, Event.Stamped stream version events ∧ context.version = version + events.length := by
  have fits := sound.fits index task found
  rw [phase] at fits
  exact ⟨_, _, fits.1, fits.2.1⟩

theorem Sound.step_words (sound : traffic.Sound registry start) {move : Move Data Handlers State Command}
    (inWords : traffic.InWords move) : traffic.step registry move Version.add = traffic.step registry move := by
  cases move with
  | step index moment =>
    rw [Traffic.step, Traffic.step]
    cases found : traffic.tasks[index]? with
    | none => rfl
    | some task =>
      rw [InWords, found] at inWords
      obtain ⟨next, deed⟩ :=
        Dispatch.step_words task.commandBus registry task.dispatch.attempt moment traffic.world inWords fun _ _ phase =>
          sound.stamped found phase
      dsimp only
      rw [advance, advance]
      simp only [next, deed]
  | start commandBus moment command =>
    rw [Traffic.step, Traffic.step, commandBus.engine_counting, Dispatch.start_alike]
  | drop | interlude => rw [Traffic.step, Traffic.step]

theorem run_cons (traffic : Traffic Data Handlers State Command) (move : Move Data Handlers State Command)
    (rest : List (Move Data Handlers State Command)) (add : Nat → Nat → Nat) :
    traffic.run registry (move :: rest) add = (traffic.step registry move add).run registry rest add := rfl

theorem Sound.run_words (sound : traffic.Sound registry start) {moves : List (Move Data Handlers State Command)}
    (lasts : traffic.Lasts registry moves) : traffic.run registry moves Version.add = traffic.run registry moves := by
  induction moves generalizing traffic with
  | nil => rw [Traffic.run, Traffic.run, List.foldl_nil, List.foldl_nil]
  | cons move rest ih =>
    obtain ⟨here, later⟩ := lasts
    have same := sound.step_words here
    rw [same] at later
    rw [run_cons, run_cons, same]
    exact ih (sound.step move) later

omit [Payload Data] in
/-- Neither what is stored nor what is under way has a greater version. -/
structure UpTo (bound : Nat) (traffic : Traffic Data Handlers State Command) : Prop where
  store : traffic.world.store.UpTo bound
  tasks : ∀ (index : Nat) (task : Task Data Handlers State Command), traffic.tasks[index]? = some task →
    task.dispatch.phase.UpTo bound

theorem Sound.step_upTo (sound : traffic.Sound registry start) {bound : Nat} (upTo : traffic.UpTo bound)
    (move : Move Data Handlers State Command) : (traffic.step registry move).UpTo (bound + 1) := by
  have grown {store : EventStore} (before : store.UpTo bound) : store.UpTo (bound + 1) :=
    fun stream row member => Nat.le_succ_of_le (before stream row member)
  have dispatchStep {index : Nat} {task : Task Data Handlers State Command} (found : traffic.tasks[index]? = some task)
      (moment : Moment) :=
    (dispatchStep_step task.commandBus registry task.dispatch moment traffic.world).upTo upTo.store
      (upTo.tasks index task found)
      fun _ _ phase => sound.stamped found phase
  constructor
  · cases move with
    | start | drop => exact grown upTo.store
    | interlude interlude =>
      have kept : (interlude.pass traffic.world).store = traffic.world.store := interlude.store_pass _
      exact kept ▸ grown upTo.store
    | step index moment =>
      simp only [Traffic.step]
      split
      · exact grown upTo.store
      next task found =>
        split
        · exact grown upTo.store
        · exact grown (dispatchStep found moment).1
  · refine tasks_step (fun _ _ dispatch => dispatch.phase.UpTo bound)
      (fun _ _ dispatch => dispatch.phase.UpTo (bound + 1)) move upTo.tasks ?fresh ?frame ?own
    case fresh => exact fun _ _ _ _ => trivial
    case frame => exact fun _ _ _ _ before => before.mono (Nat.le_succ bound)
    case own => exact fun _ _ moment _ found _ => (dispatchStep found moment).2

/-- From versions that stop short of the greatest word by the length of the run, the run lasts. -/
theorem Sound.lasts (sound : traffic.Sound registry start) {bound : Nat} (upTo : traffic.UpTo bound)
    {moves : List (Move Data Handlers State Command)} (few : bound + moves.length < UInt64.size) :
    traffic.Lasts registry moves := by
  induction moves generalizing traffic bound with
  | nil => trivial
  | cons move rest ih =>
    rw [List.length_cons] at few
    have inWords : traffic.InWords move := by
      cases move with
      | step index moment =>
        rw [InWords]
        split
        · trivial
        next task found => exact (upTo.tasks index task found).inWords (by omega)
      | start | drop | interlude => trivial
    refine ⟨inWords, ?_⟩
    rw [sound.step_words inWords]
    exact ih (sound.step move) (sound.step_upTo upTo move) (by omega)

theorem lasts_opening (registry : EventRegistry Data) (deployment : Deployment Data Handlers) {records : List Record}
    {bound : Nat} (below : ∀ record ∈ records, record.version ≤ bound)
    {moves : List (Move Data Handlers State Command)} (few : bound + moves.length < UInt64.size) :
    (opening (deployment.seeded records)).Lasts registry moves :=
  (sound_opening registry (deployment.seeded records)).lasts
    { store := EventStore.upTo_seeded below, tasks := fun _ _ found => nomatch found } few

end Traffic

end Inventory
