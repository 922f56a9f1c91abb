import Inventory.Proofs.Traffic.Journal
import Mathlib.Data.List.Induction

/-! The batches that the store took in. Whatever it held before, a stream has the records that it began with
and those of its batches, each of them once, for no version is given away twice. -/
namespace Inventory
variable {Data Handlers State Command : Type}

structure Commit (Data Handlers State Command : Type) where
  attempt : Attempt Data Handlers State Command
  /-- The version that it was decided on. -/
  base : Nat
  events : List (Event Data)

def Commit.stream (commit : Commit Data Handlers State Command) : StreamId :=
  commit.attempt.stream

def Entry.commit? (entry : Entry Data Handlers State Command) : Option (Commit Data Handlers State Command) :=
  match entry.deed with
  | .appended base events (.ok ()) => some ⟨entry.attempt, base, events⟩
  | .appended _ _ (.error _) | .read _ | .published _ _ => none

def Commit.entry (commit : Commit Data Handlers State Command) : Entry Data Handlers State Command :=
  ⟨commit.attempt, .appended commit.base commit.events (.ok ())⟩

theorem Entry.commit?_eq_some {entry : Entry Data Handlers State Command}
    {commit : Commit Data Handlers State Command} :
    entry.commit? = some commit ↔ entry = commit.entry := by
  constructor
  · intro found
    obtain ⟨attempt, deed⟩ := entry
    cases deed with
    | read version => cases found
    | published events answer => cases found
    | appended version events answer =>
      cases answer with
      | error fault => cases found
      | ok done =>
        cases found
        rfl
  · rintro rfl
    rfl

namespace Journal

def commits (journal : List (Entry Data Handlers State Command)) : List (Commit Data Handlers State Command) :=
  journal.filterMap Entry.commit?

@[simp] theorem commits_concat (journal : List (Entry Data Handlers State Command))
    (entry : Entry Data Handlers State Command) :
    commits (journal ++ [entry]) = commits journal ++ entry.commit?.toList := by
  rw [commits, List.filterMap_append]
  cases found : entry.commit? with
  | none => simp [commits, found]
  | some commit => simp [commits, found]

theorem commits_eq_append_cons {journal : List (Entry Data Handlers State Command)}
    {first second : List (Commit Data Handlers State Command)} {commit : Commit Data Handlers State Command}
    (split : commits journal = first ++ commit :: second) :
    ∃ earlier later, journal = earlier ++ commit.entry :: later ∧ commits earlier = first := by
  obtain ⟨before, rest, rfl, front, back⟩ := List.filterMap_eq_append_iff.mp split
  obtain ⟨silent, entry, later, rfl, nothing, found, _⟩ := List.filterMap_eq_cons_iff.mp back
  obtain rfl := Entry.commit?_eq_some.mp found
  refine ⟨before ++ silent, later, (List.append_assoc ..).symm, ?_⟩
  rw [commits, List.filterMap_append, front, List.filterMap_eq_nil_iff.mpr nothing, List.append_nil]

theorem mem_commits {journal : List (Entry Data Handlers State Command)}
    {commit : Commit Data Handlers State Command} (member : commit ∈ commits journal) :
    ∃ earlier later, journal = earlier ++ commit.entry :: later := by
  obtain ⟨first, second, split⟩ := List.append_of_mem member
  obtain ⟨earlier, later, whole, _⟩ := commits_eq_append_cons split
  exact ⟨earlier, later, whole⟩

end Journal

variable [Payload Data]

/-- The records of a batch, none where there is a payload that has no value. -/
def Commit.records (commit : Commit Data Handlers State Command) : List Record :=
  match Event.toRecords commit.events with
  | .error _ => []
  | .ok batch => batch

theorem Entry.leave_of_commit?_none {entry : Entry Data Handlers State Command}
    (nothing : entry.commit? = none) (store : EventStore) : entry.leave store = store := by
  obtain ⟨attempt, deed⟩ := entry
  cases deed with
  | read version => rfl
  | published events answer => rfl
  | appended version events answer =>
    cases answer with
    | error fault => rfl
    | ok done => cases nothing

namespace Journal

section
variable {registry : EventRegistry Data} {start : EventStore}
  {journal earlier : List (Entry Data Handlers State Command)}
  {commit : Commit Data Handlers State Command}

theorem Sound.of_append {more : List (Entry Data Handlers State Command)}
    (sound : Sound registry start (journal ++ more)) : Sound registry start journal := by
  rintro earlier entry later rfl
  exact sound earlier entry (later ++ more) (by simp)

theorem Sound.last {entry : Entry Data Handlers State Command}
    (sound : Sound registry start (journal ++ [entry])) : entry.Justified registry start journal :=
  sound journal entry [] rfl

theorem Sound.justified_of_mem (sound : Sound registry start journal) (member : commit ∈ commits journal) :
    ∃ earlier, commit.entry.Justified registry start earlier := by
  obtain ⟨earlier, later, split⟩ := mem_commits member
  exact ⟨earlier, sound earlier commit.entry later split⟩

theorem taken_in (justified : commit.entry.Justified registry start earlier) :
    Event.toRecords commit.events = .ok commit.records ∧
      (∀ record ∈ commit.records,
        EventStore.isClaimed ((store start earlier).records commit.stream) record.version = false) ∧
      commit.entry.leave (store start earlier) =
        (store start earlier).setRecords commit.stream
          (EventStore.placeAll ((store start earlier).records commit.stream) commit.records) := by
  obtain ⟨stamped, ⟨nonempty, _⟩, answer⟩ := justified
  have whole : (store start earlier).append commit.events = _ := EventStore.append_stamped stamped fun empty =>
    nonempty (by rw [empty]; rfl)
  cases made : Event.toRecords commit.events with
  | error fault =>
    rw [whole, made] at answer
    cases answer
  | ok batch =>
    have records : commit.records = batch := by rw [Commit.records, made]
    rw [made] at whole
    dsimp only at whole
    split at whole
    next version found =>
      rw [whole] at answer
      cases answer
    next free =>
      rw [records]
      refine ⟨rfl, ?_, ?_⟩
      · intro record member
        rw [EventStore.firstClaimed?, Option.map_eq_none_iff, List.find?_eq_none] at free
        exact Bool.eq_false_iff.mpr (free record member)
      · simp only [Entry.leave, Commit.entry, whole]
        rfl

theorem records_versions (justified : commit.entry.Justified registry start earlier) :
    commit.records.map Record.version = List.range' (commit.base + 1) commit.events.length :=
  (Event.toRecords_versions (taken_in justified).1).trans justified.1.versions

/-- The records of a stream are those that it began with and those of its batches. -/
theorem Sound.records_perm (sound : Sound registry start journal) (stream : StreamId) :
    ((store start journal).records stream).Perm
      (start.records stream ++ ((commits journal).filter (·.stream = stream)).flatMap Commit.records) := by
  induction journal using List.reverseRecOn with
  | nil => simp [commits]
  | append_singleton journal entry ih =>
    rw [store_concat, commits_concat]
    cases found : entry.commit? with
    | none =>
      rw [Entry.leave_of_commit?_none found]
      simpa using ih sound.of_append
    | some commit =>
      obtain rfl := Entry.commit?_eq_some.mp found
      obtain ⟨_, _, behind⟩ := taken_in sound.last
      rw [behind, EventStore.records_setRecords]
      by_cases same : commit.stream = stream
      · subst same
        have placed := EventStore.placeAll_perm ((store start journal).records commit.stream) commit.records
        have grown := placed.trans ((ih sound.of_append).append_right commit.records)
        simpa using grown
      · rw [if_neg (Ne.symm same)]
        simpa [same] using ih sound.of_append

theorem Sound.records_once (sound : Sound registry start journal) (member : commit ∈ commits journal)
    {record : Record} (inside : record ∈ commit.records) :
    ((store start journal).records commit.stream).filter (·.version = record.version) = [record] := by
  induction journal using List.reverseRecOn with
  | nil => cases member
  | append_singleton journal entry ih =>
    rw [commits_concat, List.mem_append] at member
    rw [store_concat]
    cases found : entry.commit? with
    | none =>
      rw [Entry.leave_of_commit?_none found]
      rw [found] at member
      exact ih sound.of_append (member.resolve_right List.not_mem_nil)
    | some last =>
      obtain rfl := Entry.commit?_eq_some.mp found
      obtain ⟨_, free, behind⟩ := taken_in sound.last
      rw [behind, EventStore.records_setRecords]
      have placed := (EventStore.placeAll_perm ((store start journal).records last.stream)
        last.records).filter (·.version = record.version)
      rw [List.filter_append] at placed
      rw [found, Option.toList_some, List.mem_singleton] at member
      rcases member with old | rfl
      · have before := ih sound.of_append old
        split
        next same =>
          have others : last.records.filter (·.version = record.version) = [] := by
            rw [List.filter_eq_nil_iff]
            intro other otherMember clash
            have present : record ∈ ((store start journal).records commit.stream).filter
                (·.version = record.version) := by
              rw [before]
              exact List.mem_singleton_self record
            rw [same] at present
            exact EventStore.not_isClaimed.mp (free other otherMember) record (List.mem_filter.mp present).1
              (of_decide_eq_true clash).symm
          rw [← same, before, others, List.append_nil] at placed
          rw [← same]
          exact List.perm_singleton.mp placed
        next other => exact before
      · have others : ((store start journal).records commit.stream).filter
            (·.version = record.version) = [] := by
          rw [List.filter_eq_nil_iff]
          intro row rowMember clash
          exact EventStore.not_isClaimed.mp (free record inside) row rowMember (of_decide_eq_true clash)
        have distinct : (commit.records.map Record.version).Nodup := by
          rw [records_versions sound.last]
          exact List.nodup_range'
        rw [others, List.nil_append, Record.filter_version distinct inside] at placed
        rw [if_pos rfl]
        exact List.perm_singleton.mp placed

end

end Journal

end Inventory
