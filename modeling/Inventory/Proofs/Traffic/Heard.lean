import Inventory.Proofs.Traffic.Broadcast

/-! A bus that stays open. It takes every batch that is handed to it, so that the log lacks only what a dispatch has
stored and not published yet; once no dispatch stands there, all that was stored has been sent. -/
namespace Inventory
variable {Data Handlers State Command : Type}

def Interlude.KeepsOpen (interlude : Interlude Data Handlers) : Prop :=
  ∀ deployment, deployment.side.bus.available = true → (interlude.pass deployment).side.bus.available = true

def Move.KeepsOpen : Move Data Handlers State Command → Prop
  | .interlude between => between.KeepsOpen
  | .start _ _ _ | .step _ _ | .drop _ => True

namespace Traffic

/-- No dispatch stands between storing its batch and publishing it. -/
def Settled (traffic : Traffic Data Handlers State Command) : Prop :=
  ∀ task ∈ traffic.tasks, ∀ context events, task.dispatch.phase ≠ .publishing context events

theorem settled_of_ended {traffic : Traffic Data Handlers State Command}
    (ended : ∀ task ∈ traffic.tasks, task.dispatch.result?.isSome = true) : traffic.Settled := by
  intro task member context events phase
  have result := ended task member
  rw [Dispatch.result?, phase] at result
  cases result

/-- The bus is open and has never been found closed. -/
structure Heard (traffic : Traffic Data Handlers State Command) : Prop where
  available : traffic.world.side.bus.available = true
  answers : ∀ attempt events answer, ⟨attempt, .published events answer⟩ ∈ traffic.journal → answer = .ok ()

end Traffic

variable [Payload Data]

theorem Deployment.publish_open {deployment : Deployment Data Handlers}
    (available : deployment.side.bus.available = true) (events : List (Event Data)) :
    (deployment.publish events).1 = (Event.toRecords events).map fun _ => () := by
  unfold publish
  rw [EventBus.publish_open available events]
  cases Event.toRecords events with
  | error fault => rfl
  | ok batch =>
    dsimp only [Except.map]
    split <;> rfl

namespace Traffic
variable {registry : EventRegistry Data} {start : EventStore} {log : List (List UInt8)}
  {traffic : Traffic Data Handlers State Command}

theorem Sound.toRecords_of_publishing (sound : traffic.Sound registry start) {index : Nat}
    {task : Task Data Handlers State Command} (found : traffic.tasks[index]? = some task)
    {context : Context Data} {events : List (Event Data)}
    (phase : task.dispatch.phase = .publishing context events) :
    ∃ batch, Event.toRecords events = .ok batch := by
  have fits := sound.fits index task found
  rw [phase] at fits
  obtain ⟨_, before, after, latest⟩ := fits
  have stored : (⟨task.attempt index, context.initialVersion, events⟩ : Commit Data Handlers State Command) ∈
      Journal.commits traffic.journal := by
    refine List.mem_filterMap.mpr ⟨⟨task.attempt index, .appended context.initialVersion events (.ok ())⟩, ?_, rfl⟩
    rw [latest.split]
    simp
  obtain ⟨_, justified⟩ := sound.journal.justified_of_mem stored
  exact ⟨_, (Journal.taken_in justified).1⟩

theorem Heard.step (heard : traffic.Heard) (sound : traffic.Sound registry start) (logged : traffic.Logged log)
    {move : Move Data Handlers State Command} (open' : move.KeepsOpen) : (traffic.step registry move).Heard := by
  cases move with
  | start commandBus moment command => exact ⟨heard.available, heard.answers⟩
  | step index moment =>
    simp only [Traffic.step]
    split
    · exact heard
    next task found =>
      split
      · exact heard
      · have onBus := logged.onBus.tasks task (List.mem_of_getElem? found)
        have written := Dispatch.step_bus registry onBus index task.dispatch moment traffic.world
        refine ⟨(congrArg EventBus.available written).trans heard.available, ?_⟩
        intro attempt events answer member
        rcases List.mem_append.mp member with old | new
        · exact heard.answers attempt events answer old
        · have does := Attempt.deed?_of_mem_entries new
          obtain ⟨context, later, phase, called, _⟩ := (Dispatch.deed?_eq_published _ _ moment _).mp does
          obtain ⟨batch, made⟩ := sound.toRecords_of_publishing found phase
          have answers : (task.commandBus.publisher.publish traffic.world events).1 = answer := congrArg Prod.fst called
          rw [← answers, onBus]
          exact (Deployment.publish_open heard.available events).trans (by rw [made]; rfl)
  | drop index => exact ⟨heard.available, heard.answers⟩
  | interlude interlude => exact ⟨open' _ heard.available, heard.answers⟩

omit [Payload Data] in
theorem heard_opening {deployment : Deployment Data Handlers} (available : deployment.side.bus.available = true) :
    (opening deployment : Traffic Data Handlers State Command).Heard where
  available := available
  answers _ _ _ member := nomatch member

theorem Heard.run (heard : traffic.Heard) (sound : traffic.Sound registry start) (logged : traffic.Logged log)
    {moves : List (Move Data Handlers State Command)} (onBus : ∀ move ∈ moves, move.OnBus)
    (stays : ∀ move ∈ moves, move.KeepsOpen) : (traffic.run registry moves).Heard := by
  induction moves generalizing traffic with
  | nil => exact heard
  | cons move rest ih =>
    obtain ⟨first, others⟩ := List.forall_mem_cons.mp onBus
    obtain ⟨firstStays, othersStay⟩ := List.forall_mem_cons.mp stays
    exact ih (heard.step sound logged firstStays) (sound.step move) (logged.step first) others othersStay

omit [Payload Data] in
theorem Settled.mem_broadcasts (settled : traffic.Settled) (effected : traffic.Effected) (heard : traffic.Heard)
    {commit : Commit Data Handlers State Command} (member : commit ∈ Journal.commits traffic.journal) :
    commit.broadcast ∈ Journal.broadcasts traffic.journal := by
  have effect := Journal.entry_mem_effects member
  have known := effected.known commit.entry (List.mem_filter.mp effect).1
  obtain ⟨task, found⟩ : ∃ task, traffic.tasks[commit.attempt.index]? = some task :=
    ⟨_, List.getElem?_eq_getElem known⟩
  have left := effected.each commit.attempt.index task found
  change _ ∈ Journal.effects traffic.journal (task.attempt commit.attempt.index).index at effect
  cases phase : task.dispatch.phase with
  | publishing context events => exact absurd phase (settled task (List.mem_of_getElem? found) context events)
  | finished result =>
    rw [phase] at left
    rcases left with none | ⟨base, events, answer, both⟩
    · rw [none] at effect
      cases effect
    · have last : ⟨task.attempt commit.attempt.index, .published events answer⟩ ∈
          Journal.effects traffic.journal (task.attempt commit.attempt.index).index := by
        rw [both]
        simp
      have noted := (List.mem_filter.mp last).1
      rw [heard.answers _ _ _ noted] at noted
      rw [both] at effect
      rcases List.mem_cons.mp effect with same | other
      · have attempt : commit.attempt = task.attempt commit.attempt.index := congrArg Entry.attempt same
        have batch : commit.events = events := (Deed.appended.inj (congrArg Entry.deed same)).2.1
        rw [Commit.broadcast, attempt, batch]
        exact List.mem_filterMap.mpr ⟨_, noted, rfl⟩
      · cases congrArg Entry.deed (List.mem_singleton.mp other)
  | _ =>
    rw [phase] at left
    rw [left] at effect
    cases effect

/-- Then the log of a bus that began with none has the records of all batches that were stored, and no others. -/
theorem Settled.mem_log (settled : traffic.Settled) (effected : traffic.Effected) (heard : traffic.Heard)
    (sound : traffic.Sound registry start) (logged : traffic.Logged []) {message : List UInt8} :
    message ∈ traffic.world.side.bus.log ↔
      ∃ commit ∈ Journal.commits traffic.journal, ∃ record ∈ commit.records, record.bytes = message := by
  rw [logged.log_eq, List.nil_append, List.mem_map]
  constructor
  · rintro ⟨record, inside, same⟩
    obtain ⟨broadcast, published, inside⟩ := List.mem_flatMap.mp inside
    obtain ⟨commit, stored, rfl⟩ := List.mem_map.mp (sound.journal.mem_taken published)
    exact ⟨commit, stored, record, inside, same⟩
  · rintro ⟨commit, stored, record, inside, same⟩
    refine ⟨record, List.mem_flatMap.mpr ⟨commit.broadcast, ?_, inside⟩, same⟩
    exact settled.mem_broadcasts effected heard stored

end Traffic

end Inventory
