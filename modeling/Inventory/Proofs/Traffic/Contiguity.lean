import Inventory.Proofs.Traffic.Commit

/-! No gaps in any order of steps. A batch is decided on a version that its dispatch read, and since then the
stream can only have grown. So the batch either goes to the very end of the stream, or its first version is
claimed, whatever else happened between the read and the append. -/
namespace Inventory
variable {Data Handlers State Command : Type} [Payload Data]

namespace Journal

/-- All that a journal leads through has no gaps, and a stream only gets longer. -/
structure Growing (start : EventStore) (journal : List (Entry Data Handlers State Command)) : Prop where
  contiguous : ∀ before after, journal = before ++ after → (store start before).Contiguous
  grows : ∀ before after, journal = before ++ after → ∀ stream,
    (store start before).records stream <+: (store start journal).records stream

section Growing
variable {registry : EventRegistry Data} {start : EventStore}
  {journal : List (Entry Data Handlers State Command)}

theorem Growing.here (growing : Growing start journal) : (store start journal).Contiguous :=
  growing.contiguous journal [] (List.append_nil journal).symm

theorem Growing.version_le (growing : Growing start journal)
    {attempt : Attempt Data Handlers State Command} {version : Nat} {state : State}
    (loaded : attempt.HasLoaded registry start journal version state) :
    version ≤ ((store start journal).records attempt.stream).length := by
  obtain ⟨history, before, after, latest, found, same, _⟩ := loaded.version_read
  have known := EventRegistry.lastVersion_dense
    (growing.contiguous before _ latest.split attempt.stream) found
  have grown := (growing.grows before _ latest.split attempt.stream).length_le
  omega

theorem Growing.append_eq (growing : Growing start journal)
    {attempt : Attempt Data Handlers State Command} {version : Nat} {events : List (Event Data)}
    (stamped : Event.Stamped attempt.stream version events)
    (decided : attempt.HasDecided registry start journal version (events.map Event.data)) :
    (store start journal).append events =
      match Event.toRecords events with
      | .error fault => .error fault
      | .ok batch =>
          if version = ((store start journal).records attempt.stream).length then
            .ok ((store start journal).setRecords attempt.stream
              ((store start journal).records attempt.stream ++ batch))
          else .error (.conflict attempt.stream (version + 1)) := by
  obtain ⟨nonempty, state, loaded, _⟩ := decided
  apply EventStore.append_dense (growing.here attempt.stream) stamped
  · rintro rfl
    exact nonempty rfl
  · exact growing.version_le loaded

/-- A batch is taken in at the end of its stream only, and its records are all that is new. -/
theorem Growing.taken (growing : Growing start journal) {commit : Commit Data Handlers State Command}
    (justified : commit.entry.Justified registry start journal) :
    Event.toRecords commit.events = .ok commit.records ∧
      commit.base = ((store start journal).records commit.stream).length ∧
        commit.entry.leave (store start journal) =
          (store start journal).setRecords commit.stream
            ((store start journal).records commit.stream ++ commit.records) := by
  obtain ⟨stamped, decided, answer⟩ := justified
  have whole := growing.append_eq stamped decided
  cases made : Event.toRecords commit.events with
  | error fault =>
    rw [whole, made] at answer
    cases answer
  | ok batch =>
    have records : commit.records = batch := by rw [Commit.records, made]
    rw [made] at whole
    dsimp only at whole
    split at whole
    next atEnd =>
      rw [records]
      refine ⟨rfl, atEnd, ?_⟩
      simp only [Entry.leave, Commit.entry, whole]
      rfl
    next elsewhere =>
      rw [whole] at answer
      cases answer

theorem Growing.concat (growing : Growing start journal) {entry : Entry Data Handlers State Command}
    (justified : entry.Justified registry start journal) : Growing start (journal ++ [entry]) := by
  have next : (entry.leave (store start journal)).Contiguous ∧ ∀ stream,
      (store start journal).records stream <+: (entry.leave (store start journal)).records stream := by
    cases found : entry.commit? with
    | none =>
      rw [Entry.leave_of_commit?_none found]
      exact ⟨growing.here, fun stream => List.prefix_rfl⟩
    | some commit =>
      obtain rfl := Entry.commit?_eq_some.mp found
      obtain ⟨made, atEnd, behind⟩ := growing.taken justified
      rw [behind]
      constructor
      · intro stream
        rw [EventStore.records_setRecords]
        split
        next same =>
          have versions := (Event.toRecords_versions made).trans justified.1.versions
          have lengths := Event.toRecords_length made
          have dense : Record.Dense ((store start journal).records commit.stream) :=
            growing.here commit.stream
          rw [Record.Dense, List.map_append, versions, dense, List.length_append, lengths, atEnd,
            Nat.add_comm _ 1, List.range'_append_1]
        next other => exact growing.here stream
      · intro stream
        rw [EventStore.records_setRecords]
        split
        next same =>
          rw [same]
          exact List.prefix_append _ commit.records
        next other => exact List.prefix_rfl
  constructor
  · intro before after split
    rcases List.eq_nil_or_concat after with rfl | ⟨front, last, rfl⟩
    · rw [List.append_nil] at split
      rw [← split, store_concat]
      exact next.1
    · rw [List.concat_eq_append, ← List.append_assoc] at split
      exact growing.contiguous before front (List.append_inj' split rfl).1
  · intro before after split stream
    rcases List.eq_nil_or_concat after with rfl | ⟨front, last, rfl⟩
    · rw [List.append_nil] at split
      subst split
      exact List.prefix_rfl
    · rw [List.concat_eq_append, ← List.append_assoc] at split
      rw [store_concat]
      exact (growing.grows before front (List.append_inj' split rfl).1 stream).trans (next.2 stream)

theorem Sound.growing (contiguous : start.Contiguous) (sound : Sound registry start journal) :
    Growing start journal := by
  induction journal using List.reverseRecOn with
  | nil =>
    constructor
    · intro before after split
      rw [(List.nil_eq_append_iff.mp split).1]
      exact contiguous
    · intro before after split stream
      obtain ⟨rfl, _⟩ := List.nil_eq_append_iff.mp split
      exact List.prefix_rfl
  | append_singleton journal entry ih => exact (ih sound.of_append).concat sound.last

theorem Sound.records_append (contiguous : start.Contiguous)
    {more : List (Entry Data Handlers State Command)} (sound : Sound registry start (journal ++ more))
    (stream : StreamId) :
    (store start (journal ++ more)).records stream =
      (store start journal).records stream ++
        ((commits more).filter (·.stream = stream)).flatMap Commit.records := by
  induction more using List.reverseRecOn with
  | nil => simp [commits]
  | append_singleton more entry ih =>
    rw [← List.append_assoc] at sound
    rw [← List.append_assoc, store_concat, commits_concat]
    cases found : entry.commit? with
    | none =>
      rw [Entry.leave_of_commit?_none found, ih sound.of_append]
      simp
    | some commit =>
      obtain rfl := Entry.commit?_eq_some.mp found
      obtain ⟨_, _, behind⟩ := (sound.of_append.growing contiguous).taken sound.last
      rw [behind, EventStore.records_setRecords]
      by_cases same : commit.stream = stream
      · subst same
        rw [if_pos rfl, ih sound.of_append]
        simp
      · rw [if_neg (Ne.symm same), ih sound.of_append]
        simp [same]

/-- A batch that was taken in, with the journal before it: its records stand behind those that it was
decided on. -/
structure Placed (registry : EventRegistry Data) (start : EventStore)
    (journal : List (Entry Data Handlers State Command)) (commit : Commit Data Handlers State Command)
    (earlier : List (Entry Data Handlers State Command)) : Prop where
  justified : commit.entry.Justified registry start earlier
  growing : Growing start earlier
  made : Event.toRecords commit.events = .ok commit.records
  base_eq : commit.base = ((store start earlier).records commit.stream).length
  placed : (store start earlier).records commit.stream ++ commit.records <+:
    (store start journal).records commit.stream

theorem Sound.placed (contiguous : start.Contiguous) {commit : Commit Data Handlers State Command}
    {earlier later : List (Entry Data Handlers State Command)}
    (sound : Sound registry start (earlier ++ commit.entry :: later)) :
    Placed registry start (earlier ++ commit.entry :: later) commit earlier := by
  have justified := sound earlier commit.entry later rfl
  have growing := sound.of_append.growing contiguous
  obtain ⟨made, atEnd, behind⟩ := growing.taken justified
  refine ⟨justified, growing, made, atEnd, ?_⟩
  have grown := (sound.growing contiguous).grows (earlier ++ [commit.entry]) later (by simp)
    commit.stream
  rw [store_concat, behind, EventStore.records_setRecords, if_pos rfl] at grown
  exact grown

theorem Sound.placed_of_mem (contiguous : start.Contiguous) (sound : Sound registry start journal)
    {commit : Commit Data Handlers State Command} (member : commit ∈ commits journal) :
    ∃ earlier, Placed registry start journal commit earlier := by
  obtain ⟨earlier, later, rfl⟩ := mem_commits member
  exact ⟨earlier, sound.placed contiguous⟩

section Placed
variable {commit : Commit Data Handlers State Command}
  {earlier : List (Entry Data Handlers State Command)}

theorem Placed.events_ne_nil (placed : Placed registry start journal commit earlier) :
    commit.events ≠ [] := by
  obtain ⟨_, ⟨nonempty, _⟩, _⟩ := placed.justified
  intro empty
  apply nonempty
  rw [empty]
  rfl

theorem Placed.length_records (placed : Placed registry start journal commit earlier) :
    commit.records.length = commit.events.length :=
  Event.toRecords_length placed.made

theorem Placed.le_length (placed : Placed registry start journal commit earlier) :
    commit.base + commit.events.length ≤ ((store start journal).records commit.stream).length := by
  have lengths := placed.placed.length_le
  rw [List.length_append, placed.length_records, ← placed.base_eq] at lengths
  exact lengths

theorem Placed.take_base (placed : Placed registry start journal commit earlier) :
    ((store start journal).records commit.stream).take commit.base =
      (store start earlier).records commit.stream := by
  obtain ⟨rest, whole⟩ := placed.placed
  rw [← whole, List.append_assoc, placed.base_eq, List.take_left]

theorem Placed.drop_base (placed : Placed registry start journal commit earlier) :
    (((store start journal).records commit.stream).drop commit.base).take commit.events.length =
      commit.records := by
  obtain ⟨rest, whole⟩ := placed.placed
  rw [← whole, List.append_assoc, placed.base_eq, List.drop_left, ← placed.length_records,
    List.take_left]

end Placed

theorem Sound.commits_apart (contiguous : start.Contiguous) (sound : Sound registry start journal) :
    (commits journal).Pairwise fun first second =>
      first.stream = second.stream → first.base < second.base := by
  induction journal using List.reverseRecOn with
  | nil => exact .nil
  | append_singleton journal entry ih =>
    rw [commits_concat, List.pairwise_append]
    refine ⟨ih sound.of_append, ?_, ?_⟩
    · cases entry.commit? with
      | none => exact .nil
      | some commit => exact List.pairwise_singleton ..
    · intro first firstMember second secondMember same
      rw [Option.mem_toList] at secondMember
      obtain rfl := Entry.commit?_eq_some.mp secondMember
      obtain ⟨_, atEnd, _⟩ := (sound.of_append.growing contiguous).taken sound.last
      obtain ⟨earlier, placed⟩ := sound.of_append.placed_of_mem contiguous firstMember
      have positive := List.length_pos_iff.mpr placed.events_ne_nil
      have below := placed.le_length
      rw [same, ← atEnd] at below
      omega

end Growing

end Journal

namespace Traffic

theorem sound_run (registry : EventRegistry Data) (deployment : Deployment Data Handlers)
    (moves : List (Move Data Handlers State Command)) :
    ((opening deployment.vacant).run registry moves).Sound registry .empty :=
  (sound_opening registry deployment.vacant).run moves

/-- In whatever order dispatches take their steps, streams carry the versions from one on and only ever get
longer, every batch is handed to the store on the version that its attempt read last, and of the batches
that were decided on one version of a stream at most one is taken in. -/
theorem contiguous_run (registry : EventRegistry Data) (deployment : Deployment Data Handlers)
    (moves more : List (Move Data Handlers State Command)) :
    let traffic := (opening deployment.vacant).run registry moves
    (∀ stream, (traffic.rows stream).map Record.version =
      List.range' 1 (traffic.rows stream).length) ∧
    (∀ stream, traffic.rows stream <+: (traffic.run registry more).rows stream) ∧
    (∀ earlier attempt version events answer later,
      traffic.journal = earlier ++ ⟨attempt, .appended version events answer⟩ :: later →
        events ≠ [] ∧ ∃ before after, Journal.Latest earlier before ⟨attempt, .read version⟩ after) ∧
    (Journal.commits traffic.journal).Pairwise fun first second =>
      first.stream = second.stream → first.base ≠ second.base := by
  intro traffic
  have sound : traffic.Sound registry .empty := sound_run registry deployment moves
  have growing := sound.journal.growing EventStore.contiguous_empty
  refine ⟨?_, ?_, ?_, ?_⟩
  · intro stream
    rw [sound.rows_eq]
    exact growing.here stream
  · intro stream
    have later := sound.run more
    obtain ⟨rest, split⟩ := traffic.journal_run registry more
    rw [sound.rows_eq, later.rows_eq]
    exact (later.journal.growing EventStore.contiguous_empty).grows traffic.journal rest split.symm stream
  · intro earlier attempt version events answer later split
    obtain ⟨_, ⟨nonempty, state, loaded, _⟩, _⟩ := sound.journal _ _ _ split
    obtain ⟨_, before, after, latest, _⟩ := loaded.version_read
    refine ⟨?_, before, after, latest⟩
    rintro rfl
    exact nonempty rfl
  · apply (sound.journal.commits_apart EventStore.contiguous_empty).imp
    intro first second apart same
    exact Nat.ne_of_lt (apart same)

end Traffic

end Inventory
