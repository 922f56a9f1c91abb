import Inventory.Proofs.EventStore.Order
import Inventory.Proofs.Traffic.Commit

/-! Batches on top of each other. Whatever a stream began with, and whatever gaps it had, a batch is taken in on top of
the greatest version there is: had anything been taken in since its read, the first such batch would have claimed the
version that this one begins with. -/
namespace Inventory
variable {Data Handlers State Command : Type}

/-- The same deployment with a store that other writers have filled. -/
def Deployment.seeded (deployment : Deployment Data Handlers) (records : List Record) :
    Deployment Data Handlers :=
  { deployment with store := .seeded records }

namespace Journal
variable [Payload Data]
  {registry : EventRegistry Data} {start : EventStore}
  {journal before after : List (Entry Data Handlers State Command)}
  {commit : Commit Data Handlers State Command}

theorem Sound.ordered (ordered : start.Ordered) (sound : Sound registry start journal) :
    (store start journal).Ordered := by
  induction journal using List.reverseRecOn with
  | nil => exact ordered
  | append_singleton journal entry ih =>
    rw [store_concat]
    cases found : entry.commit? with
    | none =>
      rw [Entry.leave_of_commit?_none found]
      exact ih sound.of_append
    | some commit =>
      obtain rfl := Entry.commit?_eq_some.mp found
      rw [(taken_in sound.last).2.2]
      exact (ih sound.of_append).setRecords _ (EventStore.ascending_placeAll (ih sound.of_append _) _)

theorem Sound.records_silent (sound : Sound registry start (before ++ after)) {stream : StreamId}
    (silent : (commits after).filter (·.stream = stream) = []) :
    (store start (before ++ after)).records stream = (store start before).records stream := by
  induction after using List.reverseRecOn with
  | nil => rw [List.append_nil]
  | append_singleton after entry ih =>
    rw [← List.append_assoc] at sound
    rw [commits_concat, List.filter_append, List.append_eq_nil_iff] at silent
    rw [← List.append_assoc, store_concat]
    cases found : entry.commit? with
    | none =>
      rw [Entry.leave_of_commit?_none found]
      exact ih sound.of_append silent.1
    | some commit =>
      obtain rfl := Entry.commit?_eq_some.mp found
      have elsewhere : stream ≠ commit.stream := by
        rintro rfl
        simp [found] at silent
      rw [(taken_in sound.last).2.2, EventStore.records_setRecords, if_neg elsewhere]
      exact ih sound.of_append silent.1

theorem exists_record {earlier : List (Entry Data Handlers State Command)}
    (justified : commit.entry.Justified registry start earlier) {version : Nat}
    (inside : commit.base < version ∧ version ≤ commit.base + commit.events.length) :
    ∃ record ∈ commit.records, record.version = version := by
  apply List.mem_map.mp
  rw [records_versions justified, List.mem_range'_1]
  omega

theorem length_pos_events {earlier : List (Entry Data Handlers State Command)}
    (justified : commit.entry.Justified registry start earlier) : 0 < commit.events.length := by
  apply List.length_pos_iff.mpr
  intro empty
  apply justified.2.1.1
  rw [empty]
  rfl

theorem Sound.mem_records (sound : Sound registry start journal) (member : commit ∈ commits journal)
    {record : Record} (inside : record ∈ commit.records) :
    record ∈ (store start journal).records commit.stream := by
  apply (sound.records_perm commit.stream).mem_iff.mpr
  apply List.mem_append_right
  exact List.mem_flatMap.mpr ⟨commit, List.mem_filter.mpr ⟨member, decide_eq_true rfl⟩, inside⟩

/-- A batch was decided on what had been the greatest version when its stream was read. -/
theorem base_eq_top_read {earlier : List (Entry Data Handlers State Command)}
    (justified : commit.entry.Justified registry start earlier) :
    ∃ before after, earlier = before ++ after ∧
      commit.base = Record.top ((store start before).records commit.stream) := by
  obtain ⟨_, ⟨_, state, loaded, _⟩, _⟩ := justified
  obtain ⟨history, before, after, latest, found, same, _⟩ := loaded.version_read
  refine ⟨before, _, latest.split, ?_⟩
  rw [← same]
  exact EventRegistry.lastVersion_eq_top found

theorem Sound.base_ne (sound : Sound registry start (journal ++ [commit.entry]))
    {first : Commit Data Handlers State Command} (member : first ∈ commits journal)
    (here : first.stream = commit.stream) : first.base ≠ commit.base := by
  intro same
  obtain ⟨_, justified⟩ := sound.of_append.justified_of_mem member
  have some := length_pos_events justified
  have more := length_pos_events sound.last
  obtain ⟨taken, inside, version⟩ := exists_record justified
    (show first.base < first.base + 1 ∧ first.base + 1 ≤ first.base + first.events.length by omega)
  obtain ⟨record, mine, again⟩ := exists_record sound.last
    (show commit.base < commit.base + 1 ∧ commit.base + 1 ≤ commit.base + commit.events.length by omega)
  have present := sound.of_append.mem_records member inside
  rw [here] at present
  have free := EventStore.not_isClaimed.mp ((taken_in sound.last).2.1 record mine) taken present
  omega

/-- A batch is taken in on top of the greatest version of its stream. -/
theorem Sound.base_eq_top {commit : Commit Data Handlers State Command}
    {earlier later : List (Entry Data Handlers State Command)}
    (sound : Sound registry start (earlier ++ commit.entry :: later)) :
    commit.base = Record.top ((store start earlier).records commit.stream) := by
  have upTo : Sound registry start (earlier ++ [commit.entry]) := by
    rw [List.append_cons] at sound
    exact sound.of_append
  obtain ⟨before, after, split, read⟩ := base_eq_top_read upTo.last
  rw [split] at upTo ⊢
  cases since : (commits after).filter (·.stream = commit.stream) with
  | nil => rw [upTo.of_append.records_silent since, read]
  | cons first rest =>
    -- The first batch since the read begins where this one does.
    obtain ⟨skipped, behind, divided, others, here, _⟩ := List.filter_eq_cons_iff.mp since
    obtain ⟨between, more, rfl, skips⟩ := commits_eq_append_cons divided
    have same := of_decide_eq_true here
    have member : first ∈ commits (before ++ (between ++ first.entry :: more)) := by
      rw [commits, List.filterMap_append]
      change first ∈ commits before ++ commits (between ++ first.entry :: more)
      rw [divided]
      simp
    have shorter : Sound registry start ((before ++ between) ++ first.entry :: more) := by
      rw [List.append_assoc]
      exact upTo.of_append
    have placed := shorter.base_eq_top
    rw [same, shorter.of_append.records_silent (by rw [skips]; exact List.filter_eq_nil_iff.mpr others),
      ← read] at placed
    exact absurd placed (upTo.base_ne member same)
termination_by earlier.length
decreasing_by
  simp only [split, List.length_append, List.length_cons]
  omega

/-- Of two batches of a stream the later one begins above the end of the earlier one. -/
theorem Sound.commits_ascending (ordered : start.Ordered) (sound : Sound registry start journal) :
    (commits journal).Pairwise fun first second =>
      first.stream = second.stream → first.base + first.events.length ≤ second.base := by
  induction journal using List.reverseRecOn with
  | nil => exact .nil
  | append_singleton journal entry ih =>
    rw [commits_concat, List.pairwise_append]
    refine ⟨ih sound.of_append, ?_, ?_⟩
    · cases entry.commit? with
      | none => exact .nil
      | some commit => exact List.pairwise_singleton ..
    · intro first firstMember second secondMember same
      rw [Option.mem_toList] at secondMember
      obtain rfl := Entry.commit?_eq_some.mp secondMember
      obtain ⟨_, justified⟩ := sound.of_append.justified_of_mem firstMember
      have some := length_pos_events justified
      obtain ⟨record, inside, version⟩ := exists_record justified
        (show first.base < first.base + first.events.length ∧ _ ≤ first.base + first.events.length by omega)
      rw [sound.base_eq_top, ← version]
      apply (sound.of_append.ordered ordered _).le_top
      rw [← same]
      exact sound.of_append.mem_records firstMember inside

end Journal

end Inventory
