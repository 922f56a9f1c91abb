import Inventory.Proofs.Traffic.Stamps
import Inventory.Proofs.Traffic.Tally

/-! Times do not run against versions. A batch goes to the end of its stream only if it was decided on all that stands
before it, and so it was stamped when all of that was stored already. This holds in any order of steps and whatever the
wall clock shows, and nothing is stored with a time before the reading that was taken for it. -/
namespace Inventory
variable {Data Handlers State Command : Type} [Payload Data]

/-- The readings of the wall clock that are taken in a run, in the order of time. -/
def Traffic.looks (registry : EventRegistry Data) (traffic : Traffic Data Handlers State Command) :
    List (Move Data Handlers State Command) → List Look
  | [] => []
  | move :: rest => (traffic.look? move).toList ++ (traffic.step registry move).looks registry rest

theorem DispatchStep.store_cases {registry : EventRegistry Data} {start store later : EventStore}
    {commandBus : CommandBus Data Handlers State Command} {index : Nat}
    {journal : List (Entry Data Handlers State Command)}
    {dispatch next : Dispatch Data State Command} {deed? : Option (Deed Data)}
    (dispatchStep : DispatchStep registry commandBus store dispatch deed? next later)
    (growing : Journal.Growing start journal) (store_eq : store = Journal.store start journal)
    (fits : (commandBus.attempt index dispatch).Fits registry start journal dispatch.phase) :
    later = store ∨ ∃ context events batch, dispatch.phase = .appending context events ∧
      Event.toRecords events = .ok batch ∧
      context.initialVersion = (store.records (commandBus.attempt index dispatch).stream).length ∧
      later = store.setRecords (commandBus.attempt index dispatch).stream
        (store.records (commandBus.attempt index dispatch).stream ++ batch) := by
  cases dispatchStep with
  | @stored context events later phase stores =>
    rw [phase] at fits
    have whole := growing.append_eq fits.1 fits.2.2
    rw [← store_eq, stores] at whole
    split at whole
    next => cases whole
    next batch made =>
      split at whole
      next atEnd =>
        cases whole
        exact .inr ⟨context, events, batch, phase, made, atEnd, rfl⟩
      next => cases whole
  | _ => exact .inl rfl

omit [Payload Data] in
theorem Deployment.Timely.later {deployment later : Deployment Data Handlers} (timely : deployment.Timely)
    (same : later.store = deployment.store) (clock_le : deployment.clock.lastCommit ≤ later.clock.lastCommit) :
    later.Timely where
  started := Int.le_trans timely.started clock_le
  within stream record member := by
    rw [same] at member
    have before := timely.within stream record member
    exact ⟨before.1, Int.le_trans before.2 clock_le⟩
  ascending := by
    rw [same]
    exact timely.ascending

omit [Payload Data] in
theorem Dispatch.appending_of_deed? {dispatch : Dispatch Data State Command}
    {engine : Engine (Deployment Data Handlers) Data State Command} {world : Deployment Data Handlers} {base : Nat}
    {events : List (Event Data)} {answer : Except Fault Unit}
    (does : dispatch.deed? engine world = some (.appended base events answer)) :
    ∃ context, dispatch.phase = .appending context events := by
  unfold deed? at does
  split at does
  · split at does <;> cases does
  next context appended phase =>
    cases does
    exact ⟨context, phase⟩
  · cases does
  · cases does
  · cases does
  · cases does
  · cases does

namespace Traffic
variable {registry : EventRegistry Data} {traffic : Traffic Data Handlers State Command} {all : List Look}
  {move : Move Data Handlers State Command}

omit [Payload Data] in
theorem look?_eq_some {look : Look} (seen : traffic.look? move = some look) :
    ∃ moment task context first rest, move = .step look.index moment ∧ traffic.tasks[look.index]? = some task ∧
      task.dropped = false ∧ task.dispatch.phase = .stamping context none (first :: rest) := by
  cases move with
  | step index moment =>
    rw [look?] at seen
    split at seen
    next => cases seen
    next task found =>
      split at seen
      next => cases seen
      next live =>
        rw [Dispatch.look?] at seen
        split at seen
        next context first rest phase =>
          cases seen
          exact ⟨moment, task, context, first, rest, rfl, found, Bool.eq_false_iff.mpr live, phase⟩
        next => cases seen
  | start | drop | interlude => cases seen

/-- The clock, what is stored and what is under way, with the readings that were taken. -/
structure Timely (registry : EventRegistry Data) (traffic : Traffic Data Handlers State Command) (all : List Look) :
    Prop where
  sound : traffic.Sound registry .empty
  effected : traffic.Effected
  keeps : traffic.OfCommandBuses fun commandBus => commandBus.publisher.KeepsTime
  world : traffic.world.Timely
  known : ∀ look ∈ all, look.index < traffic.tasks.length
  each : ∀ index (task : Task Data Handlers State Command), traffic.tasks[index]? = some task →
    (task.commandBus.attempt index task.dispatch).OnTime traffic.world all task.dispatch.phase
  commits : ∀ commit ∈ Journal.commits traffic.journal,
    List.Forall₂ (fun (look : Look) event => look.Precedes event.version event.timestamp)
      (commit.attempt.readings all) commit.events

theorem timely_opening (registry : EventRegistry Data) {deployment : Deployment Data Handlers}
    (start : 0 ≤ deployment.clock.lastCommit) :
    (opening deployment.vacant : Traffic Data Handlers State Command).Timely registry [] where
  sound := sound_opening registry deployment.vacant
  effected := effected_opening deployment.vacant
  keeps := ofCommandBuses_opening _ deployment.vacant
  world := ⟨start, fun _ _ member => (nomatch member), fun _ => .nil⟩
  known _ member := nomatch member
  each _ _ found := nomatch found
  commits _ member := nomatch member

theorem Timely.precedes (timely : traffic.Timely registry all) (keeps : move.KeepsTime) :
    traffic.world.Precedes (traffic.step registry move).world where
  clock_le := by
    cases move with
    | start commandBus moment command => exact Int.le_refl _
    | step index moment =>
      simp only [Traffic.step]
      split
      next => exact Int.le_refl _
      next task found =>
        split
        next => exact Int.le_refl _
        next =>
          exact task.dispatch.step_clock registry (timely.keeps.tasks task (List.mem_of_getElem? found)) moment
            traffic.world
    | drop index => exact Int.le_refl _
    | interlude between => exact keeps traffic.world
  grows stream := by
    have later : (traffic.step registry move).Sound registry .empty := timely.sound.step move
    obtain ⟨rest, split⟩ := traffic.journal_step registry move
    have grown := (later.journal.growing EventStore.contiguous_empty).grows traffic.journal rest split.symm stream
    rwa [← timely.sound.store_eq, ← later.store_eq] at grown

theorem Timely.world_step (timely : traffic.Timely registry all) (keeps : move.KeepsTime) :
    (traffic.step registry move).world.Timely := by
  have precedes := timely.precedes keeps
  cases move with
  | start commandBus moment command => exact timely.world
  | step index moment =>
    cases found : traffic.tasks[index]? with
    | none =>
      simp only [Traffic.step, found]
      exact timely.world
    | some task =>
      cases live : task.dropped with
      | true =>
        simp only [Traffic.step, found, live, if_true]
        exact timely.world
      | false =>
        rw [step_of_live found live] at precedes ⊢
        have dispatchStep := dispatchStep_step task.commandBus registry task.dispatch moment traffic.world
        have growing := timely.sound.journal.growing EventStore.contiguous_empty
        rcases dispatchStep.store_cases growing timely.sound.store_eq (timely.sound.fits index task found) with
          same | ⟨context, events, batch, phase, made, atEnd, stored⟩
        · exact timely.world.later same precedes.clock_le
        · have dated := (timely.each index task found).dated
          rw [phase] at dated
          have timed := dated.1
          rw [atEnd] at timed
          exact (timely.world.extend timed made).later stored precedes.clock_le
  | drop index => exact timely.world
  | interlude between => exact timely.world.later (between.store_pass traffic.world) precedes.clock_le

omit [Payload Data] in
theorem look?_of_ended {index : Nat} {task : Task Data Handlers State Command} {look : Look}
    (seen : traffic.look? move = some look) (found : traffic.tasks[index]? = some task)
    (still : ∀ moment, move = .step index moment → task.dropped = true) : look.index ≠ index := by
  obtain ⟨moment, walker, context, first, rest, same, there, live, -⟩ := look?_eq_some seen
  rintro rfl
  cases found.symm.trans there
  exact Bool.false_ne_true (live.symm.trans (still moment same))

theorem Timely.each_step (timely : traffic.Timely registry all) (keeps : move.KeepsTime) (index : Nat)
    (task : Task Data Handlers State Command) (found : (traffic.step registry move).tasks[index]? = some task) :
    (task.commandBus.attempt index task.dispatch).OnTime (traffic.step registry move).world
      (all ++ (traffic.look? move).toList) task.dispatch.phase := by
  have precedes := timely.precedes keeps
  have worldTimely := timely.world_step keeps
  refine tasks_step
    (fun index commandBus dispatch => (commandBus.attempt index dispatch).OnTime traffic.world all dispatch.phase)
    (fun index commandBus dispatch => (commandBus.attempt index dispatch).OnTime (traffic.step registry move).world
      (all ++ (traffic.look? move).toList) dispatch.phase)
    move timely.each ?_ ?_ ?_ index task found
  · rintro commandBus moment command rfl
    have elsewhere (look : Look) (member : look ∈ all) : look.index ≠ traffic.tasks.length :=
      Nat.ne_of_lt (timely.known look member)
    refine ⟨fun look member here => absurd here (elsewhere look ?_), ?_⟩
    · simpa [look?] using member
    · rw [look?, Option.toList_none, List.append_nil, ← List.nil_append all]
      exact Attempt.readings_elsewhere elsewhere
  · intro index task found still onTime
    refine onTime.mono precedes fun look member => ?_
    exact look?_of_ended (Option.mem_toList.mp member) found still
  · rintro index task moment rfl found live
    rw [step_of_live found live] at precedes worldTimely ⊢
    have seen : traffic.look? (.step index moment) = task.dispatch.look? index moment := by
      simp only [look?, found, live, Bool.false_eq_true, if_false]
    rw [seen]
    have ofCommandBus := timely.keeps.tasks task (List.mem_of_getElem? found)
    refine (dispatchStep_step task.commandBus registry task.dispatch moment traffic.world).onTime
      (step_clocked registry ofCommandBus task.dispatch moment traffic.world) precedes worldTimely ?_
      (timely.each index task found)
    intro context state phase
    have fits := timely.sound.fits index task found
    rw [phase] at fits
    obtain ⟨version, rfl, loaded⟩ := fits
    have growing := timely.sound.journal.growing EventStore.contiguous_empty
    rw [timely.sound.store_eq]
    exact ⟨rfl, growing.version_le loaded⟩

theorem Timely.known_step (timely : traffic.Timely registry all) (look : Look)
    (member : look ∈ all ++ (traffic.look? move).toList) :
    look.index < (traffic.step registry move).tasks.length := by
  have grows : traffic.tasks.length ≤ (traffic.step registry move).tasks.length := by
    cases move with
    | start commandBus moment command => exact List.length_append ▸ Nat.le_add_right ..
    | step index moment =>
      simp only [Traffic.step]
      split
      next => exact Nat.le_refl _
      next =>
        split
        next => exact Nat.le_refl _
        next => exact Nat.le_of_eq List.length_set.symm
    | drop index => exact Nat.le_of_eq (List.length_modify ..).symm
    | interlude between => exact Nat.le_refl _
  refine Nat.lt_of_lt_of_le ?_ grows
  rcases List.mem_append.mp member with old | new
  · exact timely.known look old
  · obtain ⟨moment, task, context, first, rest, -, found, -⟩ := look?_eq_some (Option.mem_toList.mp new)
    exact (List.getElem?_eq_some_iff.mp found).1

theorem Timely.readings_eq (timely : traffic.Timely registry all) {commit : Commit Data Handlers State Command}
    (member : commit ∈ Journal.commits traffic.journal) :
    commit.attempt.readings (all ++ (traffic.look? move).toList) = commit.attempt.readings all := by
  refine Attempt.readings_elsewhere fun look seen => ?_
  obtain ⟨moment, task, context, first, rest, -, found, -, phase⟩ := look?_eq_some (Option.mem_toList.mp seen)
  have nothing := timely.effected.each look.index task found
  rw [phase] at nothing
  intro same
  have effect := Journal.entry_mem_effects member
  rw [← same] at effect
  have none : Journal.effects traffic.journal look.index = [] := nothing
  rw [none] at effect
  cases effect

theorem Timely.commits_step (timely : traffic.Timely registry all) {commit : Commit Data Handlers State Command}
    (member : commit ∈ Journal.commits (traffic.step registry move).journal) :
    List.Forall₂ (fun (look : Look) event => look.Precedes event.version event.timestamp)
      (commit.attempt.readings (all ++ (traffic.look? move).toList)) commit.events := by
  have known (old : commit ∈ Journal.commits traffic.journal) :
      List.Forall₂ (fun (look : Look) event => look.Precedes event.version event.timestamp)
        (commit.attempt.readings (all ++ (traffic.look? move).toList)) commit.events := by
    rw [timely.readings_eq old]
    exact timely.commits commit old
  cases move with
  | start commandBus moment command => exact known member
  | step index moment =>
    cases found : traffic.tasks[index]? with
    | none =>
      simp only [Traffic.step, found] at member
      exact known member
    | some task =>
      cases live : task.dropped with
      | true =>
        simp only [Traffic.step, found, live, if_true] at member
        exact known member
      | false =>
        rw [step_of_live found live, advance, Journal.commits, List.filterMap_append] at member
        rcases List.mem_append.mp member with old | new
        · exact known old
        · obtain ⟨entry, noted, shown⟩ := List.mem_filterMap.mp new
          obtain rfl := Entry.commit?_eq_some.mp shown
          obtain ⟨context, phase⟩ := Dispatch.appending_of_deed? (Attempt.deed?_of_mem_entries noted)
          have dated := (timely.each index task found).dated
          rw [phase] at dated
          have unseen : traffic.look? (.step index moment) = none := by
            simp [look?, found, live, Dispatch.look?, phase]
          have own : commit.attempt = task.attempt index := Attempt.of_mem_entries noted
          rw [unseen, Option.toList_none, List.append_nil, own]
          exact dated.2
  | drop index => exact known member
  | interlude between => exact known member

theorem Timely.step (timely : traffic.Timely registry all) (keeps : move.KeepsTime) :
    (traffic.step registry move).Timely registry (all ++ (traffic.look? move).toList) where
  sound := timely.sound.step move
  effected := timely.effected.step move
  keeps := by
    apply timely.keeps.step
    rintro commandBus moment command rfl
    exact keeps
  world := timely.world_step keeps
  known := timely.known_step
  each := timely.each_step keeps
  commits _ member := timely.commits_step member

theorem Timely.run (timely : traffic.Timely registry all) {moves : List (Move Data Handlers State Command)}
    (keeps : ∀ move ∈ moves, move.KeepsTime) :
    (traffic.run registry moves).Timely registry (all ++ traffic.looks registry moves) := by
  induction moves generalizing traffic all with
  | nil =>
    rw [looks, List.append_nil]
    exact timely
  | cons move rest ih =>
    obtain ⟨first, others⟩ := List.forall_mem_cons.mp keeps
    have later := ih (timely.step first) others
    rw [List.append_assoc] at later
    exact later

/-- In whatever order dispatches take their steps and whatever the wall clock shows: along every stream times go up with
the versions, from zero on. Every record is one of a batch that some attempt stored, and the readings that this attempt
took are one for each record of the batch, in order, none of them after the time of its record. -/
theorem timely_run (registry : EventRegistry Data) (deployment : Deployment Data Handlers)
    (moves : List (Move Data Handlers State Command)) (start : 0 ≤ deployment.clock.lastCommit)
    (keeps : ∀ move ∈ moves, move.KeepsTime) :
    let traffic := (opening deployment.vacant).run registry moves
    let looks := (opening deployment.vacant).looks registry moves
    (∀ stream, (traffic.rows stream).Pairwise fun first second =>
      first.version < second.version ∧ first.timestamp ≤ second.timestamp) ∧
    (∀ stream, ∀ record ∈ traffic.rows stream, 0 ≤ record.timestamp) ∧
    (∀ stream, traffic.rows stream =
      ((Journal.commits traffic.journal).filter (·.stream = stream)).flatMap Commit.records) ∧
    ∀ commit ∈ Journal.commits traffic.journal,
      List.Forall₂ (fun (look : Look) record => look.Precedes record.version record.timestamp)
        (commit.attempt.readings looks) commit.records := by
  intro traffic looks
  have timely : traffic.Timely registry looks := (timely_opening registry start).run keeps
  have growing := timely.sound.journal.growing EventStore.contiguous_empty
  refine ⟨fun stream => ?_, fun stream record member => (timely.world.within stream record member).1, fun stream => ?_,
    fun commit member => ?_⟩
  · have versions : (traffic.rows stream).Pairwise fun first second => first.version < second.version := by
      have dense : Record.Dense (traffic.rows stream) := by
        rw [timely.sound.rows_eq]
        exact growing.here stream
      rw [← List.pairwise_map (f := Record.version) (R := (· < ·)), dense]
      exact List.pairwise_lt_range'
    exact versions.and (timely.world.ascending stream)
  · rw [timely.sound.rows_eq]
    have whole : Journal.Sound registry .empty ([] ++ traffic.journal) := timely.sound.journal
    exact whole.records_append EventStore.contiguous_empty stream
  · obtain ⟨earlier, placed⟩ := timely.sound.journal.placed_of_mem EventStore.contiguous_empty member
    have marks := Event.toRecords_marks placed.made
    have paired : List.Forall₂ (fun (look : Look) (mark : Nat × Int) => look.Precedes mark.1 mark.2)
        (commit.attempt.readings looks)
        (commit.events.map fun event => (event.version, event.timestamp)) :=
      List.forall₂_map_right_iff.mpr (timely.commits commit member)
    rw [← marks] at paired
    exact List.forall₂_map_right_iff.mp paired

end Traffic

namespace Tally

/-- One dispatch stores a mark, and the wall clock is set back before the other one, which had read nothing yet, stores
two. -/
def setBack : List (Move Mark Unit Nat Nat) :=
  [.start (commandBus (.ok ())) ⟨0, .zero⟩ 1, .start (commandBus (.ok ())) ⟨0, .zero⟩ 2] ++
    List.replicate 6 (.step 0 ⟨100, .zero⟩) ++ List.replicate 8 (.step 1 ⟨-5, .zero⟩)

theorem keepsTime_setBack : ∀ move ∈ setBack, move.KeepsTime := by
  intro move member
  cases move with
  | start started moment marks =>
    simp [setBack] at member
    rcases member with ⟨rfl, _⟩ | ⟨rfl, _⟩ <;> exact fun _ _ => Int.le_refl _
  | step index moment => trivial
  | drop index => trivial
  | interlude between => simp [setBack] at member

theorem timely_setBack :
    let traffic := (Traffic.opening (Deployment.fresh none ()).vacant).run registry setBack
    let looks := (Traffic.opening (Deployment.fresh none ()).vacant).looks registry setBack
    (∀ move ∈ setBack, move.KeepsTime) ∧ looks.map Look.wall = [100, -5, -5] ∧
      (traffic.rows stream).map Record.timestamp = [100, 100, 100] ∧
      (traffic.rows stream).Pairwise fun first second =>
        first.version < second.version ∧ first.timestamp ≤ second.timestamp := by
  intro traffic looks
  have timely := Traffic.timely_run registry (Deployment.fresh none ()) setBack (Int.le_refl 0) keepsTime_setBack
  exact ⟨keepsTime_setBack, by rfl, by rfl, timely.1 stream⟩

end Tally

end Inventory
