import Inventory.Proofs.Breaker.Overlap
import Mathlib.Data.List.Induction

/-! A breaker on trial, with calls that overlap. It lets in whoever comes, and takes in whatever ends, no matter when
that was admitted: the first failure opens it again, and the success that makes enough of them closes it. So the number
of ends that decide is limited, and not the number of calls that are let in, and what decides need not have been let in
on trial. -/
namespace Inventory.Breaker

def Act.outcome? : Act → Option Outcome
  | .completed outcome => some outcome
  | .refused | .admitted | .dropped => none

theorem Act.isEnd_of_outcome? {act : Act} (ends : act.outcome?.isSome) : act.isEnd = true := by
  cases act with
  | completed outcome => rfl
  | dropped => rfl
  | refused => cases ends
  | admitted => cases ends

namespace Journal

def outcomes (journal : Journal) : List Outcome :=
  journal.filterMap fun note => note.act.outcome?

def dropped (journal : Journal) : List Nat :=
  (journal.filter fun note => note.act = .dropped).map Note.ticket

/-- The notes since a call found the breaker open and was admitted, as long as the breaker is on trial; the last of them
may be the one that decides. -/
structure Since (journal before : Journal) (first : Note) (notes : Journal) : Prop where
  split : journal = before ++ first :: notes
  admitted : first.act = .admitted
  found : first.met.state = .opened
  trial : ∀ note ∈ notes, note.met.state = .halfOpen

theorem outcomes_concat (journal : Journal) (note : Note) :
    outcomes (journal ++ [note]) = journal.outcomes ++ note.act.outcome?.toList := by
  rw [outcomes, List.filterMap_append]
  cases kind : note.act.outcome? <;> simp [outcomes, kind]

theorem dropped_concat (journal : Journal) (note : Note) :
    dropped (journal ++ [note]) = journal.dropped ++ if note.act = .dropped then [note.ticket] else [] := by
  rw [dropped, List.filter_append, List.map_append]
  by_cases kind : note.act = .dropped <;> simp [dropped, kind]

theorem length_ended (journal : Journal) :
    journal.ended.length = journal.outcomes.length + journal.dropped.length := by
  induction journal using List.reverseRecOn with
  | nil => rfl
  | append_singleton journal note ih =>
    rw [length_ended_concat, outcomes_concat, dropped_concat, List.length_append, List.length_append, ih]
    cases kind : note.act <;> simp [Act.isEnd, Act.outcome?] <;> omega

section
variable {calls ticket : Nat} {before since : Journal}

/-- A call that ends was either admitted since some point, or in flight at it. -/
theorem Ticketed.origin (ticketed : Ticketed calls (before ++ since)) (ends : ticket ∈ since.ended) :
    ticket ∈ since.admitted ↔ ticket ∉ before.inFlight := by
  have admitted_nodup := ticketed.admitted_nodup
  have ended_nodup := ticketed.ended_nodup
  have begun : ticket ∈ admitted (before ++ since) := by
    refine ticketed.ended_subset ?_
    rw [ended_append]
    exact List.mem_append_right _ ends
  rw [admitted_append] at admitted_nodup begun
  rw [ended_append] at ended_nodup
  have going : ticket ∉ before.ended := fun early => List.disjoint_of_nodup_append ended_nodup early ends
  constructor
  · intro own flying
    exact List.disjoint_of_nodup_append admitted_nodup (mem_inFlight.mp flying).1 own
  · intro grounded
    exact (List.mem_append.mp begun).resolve_left fun early => grounded (mem_inFlight.mpr ⟨early, going⟩)

theorem Ticketed.length_admitted_le (ticketed : Ticketed calls (before ++ since)) :
    since.admitted.length ≤ since.ended.length + since.inFlight.length := by
  have nodup := ticketed.admitted_nodup
  rw [admitted_append] at nodup
  have within : (since.admitted.filter fun ticket => ticket ∈ since.ended).length ≤ since.ended.length := by
    refine (List.subperm_of_subset (nodup.of_append_right.filter _) fun ticket member => ?_).length_le
    exact of_decide_eq_true (List.mem_filter.mp member).2
  have parted := since.admitted.length_eq_length_filter_add fun ticket => ticket ∈ since.ended
  have flying : since.inFlight = since.admitted.filter fun ticket => !decide (ticket ∈ since.ended) := by
    simp [inFlight]
  rw [flying]
  omega

theorem Ticketed.grounded {front : Journal} {note : Note} (ticketed : Ticketed calls (before ++ (front ++ [note])))
    (ends : note.act.isEnd = true) (empty : before.inFlight = []) (alone : front.inFlight.length ≤ 1) :
    inFlight (front ++ [note]) = [] := by
  have other : note.act ≠ .admitted := fun same => by
    rw [same] at ends
    cases ends
  have admitted : admitted (front ++ [note]) = front.admitted := by simp [admitted_concat, other]
  have ended : ended (front ++ [note]) = front.ended ++ [note.ticket] := by simp [ended_concat, ends]
  have ended_nodup := ticketed.ended_nodup
  rw [ended_append, ended] at ended_nodup
  have going : note.ticket ∉ front.ended := fun early =>
    List.disjoint_of_nodup_append ended_nodup.of_append_right early (List.mem_singleton_self _)
  have own : note.ticket ∈ Journal.admitted (front ++ [note]) := by
    refine (ticketed.origin ?_).mpr (by simp [empty])
    rw [ended]
    exact List.mem_append_right _ (List.mem_singleton_self _)
  rw [admitted] at own
  have flying : note.ticket ∈ front.inFlight := mem_inFlight.mpr ⟨own, going⟩
  obtain ⟨only, single⟩ := List.length_eq_one_iff.mp (Nat.le_antisymm alone (List.length_pos_of_mem flying))
  refine List.eq_nil_iff_forall_not_mem.mpr fun ticket member => ?_
  obtain ⟨begun, left⟩ := mem_inFlight.mp member
  rw [admitted] at begun
  rw [ended, List.mem_append, not_or, List.mem_singleton] at left
  have same := mem_inFlight.mpr ⟨begun, left.1⟩
  rw [single, List.mem_singleton] at flying same
  exact left.2 (same.trans flying.symm)

end

end Journal

/-- What the outcomes so far have made of a breaker on trial. -/
inductive Judged (config : Config) : List Outcome → Breaker → Prop
  | pending {breaker : Breaker} (state : breaker.state = .halfOpen)
      (few : breaker.successes < max 1 config.successThreshold) :
      Judged config (List.replicate breaker.successes .success) breaker
  | restored {breaker : Breaker} (state : breaker.state = .closed) :
      Judged config (List.replicate (max 1 config.successThreshold) .success) breaker
  | relapsed {breaker : Breaker} {count : Nat} (state : breaker.state = .opened)
      (few : count < max 1 config.successThreshold) :
      Judged config (List.replicate count .success ++ [.failure]) breaker

section
variable {config : Config} {now : Duration} {met left : Breaker} {act : Act} {outcomes : List Outcome}

theorem Judged.turn (judged : Judged config outcomes met) (trial : met.state = .halfOpen)
    (turn : Turn config now met act left) : Judged config (outcomes ++ act.outcome?.toList) left := by
  cases judged with
  | restored state => cases state.symm.trans trial
  | relapsed state few => cases state.symm.trans trial
  | pending state few =>
    cases turn with
    | refused found early => cases found.symm.trans trial
    | admitted found =>
      rw [Act.outcome?, Option.toList_none, List.append_nil]
      exact .pending state few
    | tried found cooled => cases found.symm.trans trial
    | spared found => exact absurd trial found
    | passed found fewer =>
      rw [Act.outcome?, Option.toList_some, ← List.replicate_succ']
      exact @Judged.pending _ { met with successes := met.successes + 1 } trial
        (Nat.lt_of_lt_of_le fewer (Nat.le_max_right ..))
    | restored found many =>
      have enough : met.successes + 1 = max 1 config.successThreshold := by omega
      rw [Act.outcome?, Option.toList_some, ← List.replicate_succ', enough]
      exact .restored rfl
    | counted found fewer => exact absurd trial found
    | tripped found many => exact absurd trial found
    | relapsed found => exact .relapsed rfl few
    | dropped =>
      rw [Act.outcome?, Option.toList_none, List.append_nil]
      exact .pending state few

theorem Judged.length_le (judged : Judged config outcomes met) :
    outcomes.length + (if met.state = .halfOpen then 1 else 0) ≤ max 1 config.successThreshold := by
  cases judged with
  | pending state few => simpa [state] using Nat.succ_le_of_lt few
  | restored state => simp [state]
  | relapsed state few => simpa [state] using Nat.succ_le_of_lt few

theorem Judged.ne_nil (judged : Judged config outcomes met) (left : met.state ≠ .halfOpen) : outcomes ≠ [] := by
  cases judged with
  | pending state few => exact absurd state left
  | restored state => simp
  | relapsed state few => simp

/-- On trial nobody is refused, and only the end of an operation changes the breaker. -/
theorem Turn.on_trial (turn : Turn config now met act left) (trial : met.state = .halfOpen) :
    act ≠ .refused ∧ (left ≠ met ↔ act.outcome?.isSome) := by
  have other {later : Breaker} (state : later.state ≠ .halfOpen) : later ≠ met := fun same => state (same ▸ trial)
  cases turn with
  | refused found early => cases found.symm.trans trial
  | admitted found => simp [Act.outcome?]
  | tried found cooled => cases found.symm.trans trial
  | spared found => exact absurd trial found
  | passed found few =>
    have more : ({ met with successes := met.successes + 1 } : Breaker) ≠ met := fun same =>
      Nat.succ_ne_self _ (congrArg Breaker.successes same)
    simp [Act.outcome?, more]
  | restored found many => simp [Act.outcome?, other (show met.closedAnew.state ≠ .halfOpen from nofun)]
  | counted found few => exact absurd trial found
  | tripped found many => exact absurd trial found
  | relapsed found => simp [Act.outcome?, other (show (met.openedAnew now).state ≠ .halfOpen from nofun)]
  | dropped => simp [Act.outcome?]

end

namespace Gate
variable {config : Config} {gate later : Gate}

/-- On trial, the breaker is what the outcomes since then have made of it. -/
def Judges (config : Config) (gate : Gate) : Prop :=
  ∀ before first notes, gate.journal.Since before first notes → Judged config notes.outcomes gate.breaker

theorem Judges.note (judges : gate.Judges config) (ticket : Nat) {act : Act} {left : Breaker}
    (turn : Turn config gate.now gate.breaker act left) : (gate.note ticket act left).Judges config := by
  intro before first notes since
  rcases List.eq_nil_or_concat' notes with rfl | ⟨front, last, rfl⟩
  · obtain ⟨_, same⟩ := List.append_inj' since.split rfl
    cases same
    have found : gate.breaker.state = .opened := since.found
    have admitted : act = .admitted := since.admitted
    subst admitted
    cases turn with
    | admitted other => exact absurd found other
    | tried _ cooled => exact @Judged.pending _ gate.breaker.onTrial rfl (threshold_pos _)
  · have regrouped : gate.journal ++ [⟨ticket, act, gate.now, gate.breaker, left⟩] =
        (before ++ first :: front) ++ [last] := by
      rw [List.append_assoc]
      exact since.split
    obtain ⟨split, same⟩ := List.append_inj' regrouped rfl
    cases same
    have earlier : gate.journal.Since before first front :=
      ⟨split, since.admitted, since.found, fun note member => since.trial note (List.mem_append_left _ member)⟩
    have trial : gate.breaker.state = .halfOpen := since.trial _ (List.mem_append_right _ (List.mem_singleton_self _))
    rw [Journal.outcomes_concat]
    exact (judges before first front earlier).turn trial turn

theorem run_judges (config : Config) (start : Duration) (moves : List Move) :
    (run config { now := start } moves).Judges config :=
  run_notes (fun _ _ judges => judges) (fun _ ticket _ _ turn judges => judges.note ticket turn)
    (fun _ _ judges => judges) (fun before first notes since => absurd since.split (by simp)) moves

end Gate

/-- What is known of a breaker that a call found open and that has been on trial since. -/
structure Tried (config : Config) (gate : Gate) (before : Journal) (first : Note) (notes : Journal) : Prop where
  /-- The outcomes since then decide: a failure opens the breaker, and successes close it when there are enough. -/
  judged : Judged config notes.outcomes gate.breaker
  unrefused : ∀ note ∈ notes, note.act ≠ .refused
  /-- Nothing changes the breaker but the end of an operation, and each one does. -/
  changes_iff : ∀ note ∈ notes, note.left ≠ note.met ↔ note.act.outcome?.isSome
  /-- Such an operation was admitted on trial unless it was in flight before. -/
  origin : ∀ note ∈ notes, note.act.outcome?.isSome →
    (note.ticket ∈ Journal.admitted (first :: notes) ↔ note.ticket ∉ before.inFlight)
  /-- Among those that were admitted on trial, only the ones that end are limited. -/
  admitted_le : (Journal.admitted (first :: notes)).length + (if gate.breaker.state = .halfOpen then 1 else 0) ≤
    max 1 config.successThreshold + notes.dropped.length + (Journal.inFlight (first :: notes)).length
  /-- With one call at a time the calls are limited as well. -/
  alone : before.inFlight = [] → (∀ front, front <+: first :: notes → (Journal.inFlight front).length ≤ 1) →
    (Journal.admitted (first :: notes)).length ≤ max 1 config.successThreshold + notes.dropped.length

section
variable {config : Config} {gate : Gate} {before notes : Journal} {first : Note}

theorem Journal.mem_ended {journal : Journal} {note : Note} (member : note ∈ journal)
    (ends : note.act.outcome?.isSome) : note.ticket ∈ journal.ended :=
  List.mem_map_of_mem (List.mem_filter.mpr ⟨member, Act.isEnd_of_outcome? ends⟩)

theorem Journal.Since.ended_eq (since : gate.journal.Since before first notes) :
    Journal.ended (first :: notes) = notes.ended := by
  simp [Journal.ended, since.admitted, Act.isEnd]

theorem Gate.Judges.admitted_le (judges : gate.Judges config) (ticketed : gate.journal.Ticketed gate.calls)
    (since : gate.journal.Since before first notes) :
    (Journal.admitted (first :: notes)).length + (if gate.breaker.state = .halfOpen then 1 else 0) ≤
      max 1 config.successThreshold + notes.dropped.length + (Journal.inFlight (first :: notes)).length := by
  rw [since.split] at ticketed
  have length := ticketed.length_admitted_le
  rw [since.ended_eq, notes.length_ended] at length
  have limited := (judges before first notes since).length_le
  omega

theorem Gate.Judges.exists_last (judges : gate.Judges config) (lawful : gate.Lawful config) (linked : gate.Linked)
    (since : gate.journal.Since before first notes) (left : gate.breaker.state ≠ .halfOpen) :
    ∃ front note, notes = front ++ [note] ∧ note.act.outcome?.isSome := by
  rcases List.eq_nil_or_concat' notes with rfl | ⟨front, note, rfl⟩
  · exact absurd rfl ((judges before first [] since).ne_nil left)
  · refine ⟨front, note, rfl, ?_⟩
    have member : note ∈ front ++ [note] := List.mem_append_right _ (List.mem_singleton_self _)
    have trial := since.trial note member
    have turn := lawful note (by rw [since.split]; simp)
    have last : gate.journal.getLast? = some note := by
      rw [since.split, ← List.cons_append, ← List.append_assoc, List.getLast?_concat]
    refine (turn.on_trial trial).2.mp fun same => left ?_
    rw [← linked note last, same, trial]

theorem Gate.Judges.alone (judges : gate.Judges config) (lawful : gate.Lawful config) (linked : gate.Linked)
    (ticketed : gate.journal.Ticketed gate.calls) (since : gate.journal.Since before first notes)
    (empty : before.inFlight = [])
    (alone : ∀ front, front <+: first :: notes → (Journal.inFlight front).length ≤ 1) :
    (Journal.admitted (first :: notes)).length ≤ max 1 config.successThreshold + notes.dropped.length := by
  have limited := judges.admitted_le ticketed since
  by_cases trial : gate.breaker.state = .halfOpen
  · have single := alone _ (List.prefix_refl _)
    rw [if_pos trial] at limited
    omega
  · obtain ⟨front, note, rfl, ends⟩ := judges.exists_last lawful linked since trial
    rw [since.split] at ticketed
    have grounded : Journal.inFlight (first :: (front ++ [note])) = [] :=
      ticketed.grounded (Act.isEnd_of_outcome? ends) empty (alone (first :: front) (List.prefix_append ..))
    rw [if_neg trial, grounded] at limited
    exact limited

end

/-- However calls overlap: on trial a limited number of ends decides, of whichever operations, and any number of calls
is admitted. With one call at a time, no more are admitted than successes are needed, the dropped ones apart, and they
alone decide. -/
theorem tried_run (config : Config) (start : Duration) (moves : List Move) (before : Journal) (first : Note)
    (notes : Journal) (since : (Gate.run config { now := start } moves).journal.Since before first notes) :
    Tried config (Gate.run config { now := start } moves) before first notes := by
  have lawful := Gate.run_lawful config start moves
  have ticketed := Gate.run_ticketed config start moves
  have linked := Gate.run_linked config start moves
  have judges := Gate.run_judges config start moves
  have turns (note : Note) (member : note ∈ notes) :=
    (lawful note (by rw [since.split]; simp [member])).on_trial (since.trial note member)
  refine ⟨judges before first notes since, fun note member => (turns note member).1,
    fun note member => (turns note member).2, fun note member ends => ?_, judges.admitted_le ticketed since,
    judges.alone lawful linked ticketed since⟩
  simp only at ticketed
  rw [since.split] at ticketed
  exact ticketed.origin (Journal.mem_ended (List.mem_cons_of_mem _ member) ends)

/-- One failure opens it, and one success on trial closes it. -/
def touchy : Config where
  failureThreshold := 1
  timeout := ⟨100⟩
  successThreshold := 1

/-- Two calls are admitted, and a failure of the second opens the breaker. Once it has cooled down two more are
admitted, and then the first one succeeds. -/
def lateSuccess : List Move :=
  [.call, .call, .complete 1 .failure, .wait ⟨100⟩, .call, .call, .complete 0 .success]

def lateSuccessJournal : Journal :=
  (Gate.run touchy { now := ⟨0⟩ } lateSuccess).journal

def opener : Note where
  ticket := 2
  act := .admitted
  moment := ⟨100⟩
  met := ⟨.opened, 1, 0, some ⟨0⟩⟩
  left := ⟨.halfOpen, 1, 0, some ⟨0⟩⟩

theorem since_lateSuccess : lateSuccessJournal.Since (lateSuccessJournal.take 3) opener (lateSuccessJournal.drop 4) :=
  ⟨by decide, rfl, rfl, by decide⟩

theorem tried_lateSuccess : lateSuccessJournal.Since (lateSuccessJournal.take 3) opener (lateSuccessJournal.drop 4) ∧
    Tried touchy (Gate.run touchy { now := ⟨0⟩ } lateSuccess) (lateSuccessJournal.take 3) opener
      (lateSuccessJournal.drop 4) :=
  ⟨since_lateSuccess, tried_run touchy ⟨0⟩ lateSuccess _ _ _ since_lateSuccess⟩

/-- Where one success is enough two calls are admitted on trial, and it is neither of them that closes the breaker. -/
theorem unlimited_trial : ∃ before first notes,
    (Gate.run touchy { now := ⟨0⟩ } lateSuccess).journal.Since before first notes ∧
      ¬ (Journal.admitted (first :: notes)).length ≤ touchy.successThreshold ∧
      ¬ ∀ note ∈ notes, note.left.state ≠ note.met.state → note.ticket ∈ Journal.admitted (first :: notes) :=
  ⟨_, _, _, since_lateSuccess, by decide, by decide⟩

end Inventory.Breaker
