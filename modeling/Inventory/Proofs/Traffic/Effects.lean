import Inventory.Proofs.Traffic.Commit
import Mathlib.Data.List.Nodup

/-! What a dispatch leaves behind. It stores one batch at most, and after that it hands just that batch to its
publisher, once. Whatever its rules and its publisher raise, nothing leads back from there. -/
namespace Inventory
variable {Data Handlers State Command : Type}

/-- A step that leaves something behind: events in the store, or whatever came of a call of the publisher. -/
def Deed.isEffect : Deed Data → Bool
  | .appended _ _ (.ok ()) | .published _ _ => true
  | .appended _ _ (.error _) | .read _ => false

def Journal.effects (journal : List (Entry Data Handlers State Command)) (index : Nat) :
    List (Entry Data Handlers State Command) :=
  journal.filter fun entry => entry.attempt.index = index && entry.deed.isEffect

namespace Journal
variable {journal more : List (Entry Data Handlers State Command)}

theorem effects_elsewhere {index : Nat} (elsewhere : ∀ entry ∈ more, entry.attempt.index ≠ index) :
    effects (journal ++ more) index = effects journal index := by
  have nothing : more.filter (fun entry => entry.attempt.index = index && entry.deed.isEffect) = [] := by
    rw [List.filter_eq_nil_iff]
    intro entry member
    simp [elsewhere entry member]
  rw [effects, List.filter_append, nothing, List.append_nil]
  rfl

theorem effects_entries (journal : List (Entry Data Handlers State Command))
    (attempt : Attempt Data Handlers State Command) (deed? : Option (Deed Data)) :
    effects (journal ++ attempt.entries deed?) attempt.index =
      effects journal attempt.index ++ attempt.entries (deed?.filter Deed.isEffect) := by
  rw [effects, List.filter_append]
  cases deed? with
  | none => rfl
  | some deed =>
    cases effect : deed.isEffect with
    | true => simp [effects, effect, Option.filter_some]
    | false => simp [effects, effect, Option.filter_some]

end Journal

theorem Journal.filter_filterMap {Item : Type} {view : Entry Data Handlers State Command → Option Item}
    {place : Item → Nat}
    (shows : ∀ entry item, view entry = some item →
      entry.deed.isEffect = true ∧ place item = entry.attempt.index)
    (journal : List (Entry Data Handlers State Command)) (index : Nat) :
    (journal.filterMap view).filter (place · = index) = (effects journal index).filterMap view := by
  induction journal with
  | nil => rfl
  | cons entry rest ih =>
    rw [effects] at ih ⊢
    cases seen : view entry with
    | none =>
      rw [List.filterMap_cons_none seen, ih, List.filter_cons]
      split
      · rw [List.filterMap_cons_none seen]
      · rfl
    | some item =>
      obtain ⟨effect, same⟩ := shows entry item seen
      rw [List.filterMap_cons_some seen]
      by_cases here : entry.attempt.index = index
      · rw [List.filter_cons_of_pos (by simpa [same] using here), List.filter_cons_of_pos (by simp [here, effect]),
          List.filterMap_cons_some seen, ih]
      · rw [List.filter_cons_of_neg (by simpa [same] using here), List.filter_cons_of_neg (by simp [here]), ih]

theorem Journal.entry_mem_effects {journal : List (Entry Data Handlers State Command)}
    {commit : Commit Data Handlers State Command} (member : commit ∈ commits journal) :
    commit.entry ∈ effects journal commit.attempt.index := by
  obtain ⟨earlier, later, rfl⟩ := mem_commits member
  refine List.mem_filter.mpr ⟨by simp, ?_⟩
  simp [Commit.entry, Deed.isEffect]

/-- What a dispatch left behind when it is in a phase. -/
def Attempt.Effected (attempt : Attempt Data Handlers State Command)
    (journal : List (Entry Data Handlers State Command)) : Phase Data State → Prop
  | .publishing context events =>
      Journal.effects journal attempt.index =
        [⟨attempt, .appended context.initialVersion events (.ok ())⟩]
  | .finished _ =>
      Journal.effects journal attempt.index = [] ∨ ∃ base events answer,
        Journal.effects journal attempt.index =
          [⟨attempt, .appended base events (.ok ())⟩, ⟨attempt, .published events answer⟩]
  | .reading | .deciding _ _ | .stamping _ _ _ | .appending _ _ | .pausing _ =>
      Journal.effects journal attempt.index = []

namespace Attempt
variable {attempt : Attempt Data Handlers State Command}
  {journal more : List (Entry Data Handlers State Command)}

theorem Effected.concat {phase : Phase Data State} (effected : attempt.Effected journal phase)
    (elsewhere : ∀ entry ∈ more, entry.attempt.index ≠ attempt.index) :
    attempt.Effected (journal ++ more) phase := by
  cases phase <;> simp only [Effected, Journal.effects_elsewhere elsewhere] <;> exact effected

theorem Effected.cases {phase : Phase Data State} (effected : attempt.Effected journal phase) :
    Journal.effects journal attempt.index = [] ∨ ∃ base events,
      Journal.effects journal attempt.index = [⟨attempt, .appended base events (.ok ())⟩] ∨
        ∃ answer, Journal.effects journal attempt.index =
          [⟨attempt, .appended base events (.ok ())⟩, ⟨attempt, .published events answer⟩] := by
  cases phase with
  | publishing context events => exact .inr ⟨_, events, .inl effected⟩
  | finished result =>
    rcases effected with none | ⟨base, events, answer, both⟩
    · exact .inl none
    · exact .inr ⟨base, events, .inr ⟨answer, both⟩⟩
  | reading | deciding | stamping | appending | pausing => exact .inl effected

theorem effected_ended {commandBus : CommandBus Data Handlers State Command} {index : Nat}
    {dispatch : Dispatch Data State Command} (fault : Fault) (nothing : Journal.effects journal index = []) :
    (commandBus.attempt index (dispatch.ended commandBus.retry (.error fault))).Effected journal
      (dispatch.ended commandBus.retry (.error fault)).phase := by
  rcases dispatch.ended_cases commandBus.retry fault with finished | ⟨_, _, pausing⟩
  · rw [finished]
    exact .inl nothing
  · rw [pausing]
    exact nothing

end Attempt

variable [Payload Data]

theorem DispatchStep.effected {registry : EventRegistry Data} {store later : EventStore}
    {commandBus : CommandBus Data Handlers State Command} {index : Nat}
    {journal : List (Entry Data Handlers State Command)}
    {dispatch next : Dispatch Data State Command} {deed? : Option (Deed Data)}
    (dispatchStep : DispatchStep registry commandBus store dispatch deed? next later)
    (effected : (commandBus.attempt index dispatch).Effected journal dispatch.phase) :
    (commandBus.attempt index next).Effected (journal ++ (commandBus.attempt index dispatch).entries deed?)
      next.phase := by
  have whole := Journal.effects_entries journal (commandBus.attempt index dispatch) deed?
  -- Only storing and publishing leave something behind, and no kind of step leads back from there.
  cases dispatchStep with
  | unread phase failed =>
    rw [phase] at effected
    exact Attempt.effected_ended _ (whole.trans (by rw [effected]; rfl))
  | unloaded phase found failed =>
    rw [phase] at effected
    exact Attempt.effected_ended _ (whole.trans (by rw [effected]; rfl))
  | undecided phase failed =>
    rw [phase] at effected
    exact Attempt.effected_ended _ (whole.trans (by rw [effected]; rfl))
  | refused phase failed =>
    rw [phase] at effected
    exact Attempt.effected_ended _ (whole.trans (by rw [effected]; rfl))
  | idle phase nothing =>
    rw [phase] at effected
    exact .inl (whole.trans (by rw [effected]; rfl))
  | loaded phase | decided phase | looked _ phase | stamped _ phase | taken phase | stored phase
  | resumed _ phase =>
    rw [phase] at effected
    exact whole.trans (by rw [effected]; rfl)
  | unpublished fault phase | published phase =>
    rw [phase] at effected
    exact .inr ⟨_, _, _, whole.trans (by rw [effected]; rfl)⟩
  | rested phase =>
    rw [Attempt.entries_none, List.append_nil]
    exact effected

namespace Traffic
variable {registry : EventRegistry Data} {traffic : Traffic Data Handlers State Command}

/-- Every dispatch has left behind no more than its phase allows, and whoever has left something has been started. -/
structure Effected (traffic : Traffic Data Handlers State Command) : Prop where
  known : traffic.Known
  each : traffic.Each Attempt.Effected

omit [Payload Data] in
theorem effected_opening (deployment : Deployment Data Handlers) :
    (opening deployment : Traffic Data Handlers State Command).Effected where
  known _ member := nomatch member
  each _ _ found := nomatch found

theorem Effected.step (effected : traffic.Effected) (move : Move Data Handlers State Command) :
    (traffic.step registry move).Effected := by
  refine ⟨effected.known.step move, ?_⟩
  apply effected.each.step effected.known
  · intro attempt journal first elsewhere
    have nothing : Journal.effects ([] ++ journal) attempt.index = [] := Journal.effects_elsewhere elsewhere
    exact nothing
  · intro attempt journal more phase before elsewhere
    exact before.concat elsewhere
  · intro index task moment found
    exact (dispatchStep_step task.commandBus registry task.dispatch moment traffic.world).effected
      (effected.each index task found)

theorem Effected.run (effected : traffic.Effected) (moves : List (Move Data Handlers State Command)) :
    (traffic.run registry moves).Effected := by
  induction moves generalizing traffic with
  | nil => exact effected
  | cons move rest ih => exact ih (effected.step move)

omit [Payload Data] in
theorem Effected.effects_cases (effected : traffic.Effected) (index : Nat) :
    Journal.effects traffic.journal index = [] ∨ ∃ attempt base events,
      Journal.effects traffic.journal index = [⟨attempt, .appended base events (.ok ())⟩] ∨
        ∃ answer, Journal.effects traffic.journal index =
          [⟨attempt, .appended base events (.ok ())⟩, ⟨attempt, .published events answer⟩] := by
  cases found : traffic.tasks[index]? with
  | none =>
    have elsewhere (entry : Entry Data Handlers State Command) (member : entry ∈ traffic.journal) :
        entry.attempt.index ≠ index := by
      have known := effected.known entry member
      have beyond := List.getElem?_eq_none_iff.mp found
      omega
    have nothing : Journal.effects ([] ++ traffic.journal) index = [] := Journal.effects_elsewhere elsewhere
    exact .inl nothing
  | some task =>
    rcases (effected.each index task found).cases with none | ⟨base, events, some⟩
    · exact .inl none
    · exact .inr ⟨task.attempt index, base, events, some⟩

omit [Payload Data] in
/-- What is seen at most once of a dispatch that has left behind all it can is seen once of every dispatch. -/
theorem Effected.distinct (effected : traffic.Effected) {Item : Type}
    {view : Entry Data Handlers State Command → Option Item} {place : Item → Nat}
    (shows : ∀ entry item, view entry = some item →
      entry.deed.isEffect = true ∧ place item = entry.attempt.index)
    (once : ∀ attempt base events answer,
      ([⟨attempt, .appended base events (.ok ())⟩, ⟨attempt, .published events answer⟩].filterMap view).length ≤
        1) : ((traffic.journal.filterMap view).map place).Nodup := by
  rw [List.nodup_iff_count_le_one]
  intro index
  have single : ((Journal.effects traffic.journal index).filterMap view).length ≤ 1 := by
    rcases effected.effects_cases index with none | ⟨attempt, base, events, stored | ⟨answer, both⟩⟩
    · rw [none]
      exact Nat.zero_le _
    · have all := once attempt base events (.ok ())
      rw [stored]
      rw [← List.singleton_append, List.filterMap_append, List.length_append] at all
      exact Nat.le_trans (Nat.le_add_right ..) all
    · rw [both]
      exact once attempt base events answer
  rw [← Journal.filter_filterMap shows, ← List.countP_eq_length_filter] at single
  rw [List.count, List.countP_map]
  exact single

omit [Payload Data] in
theorem Effected.distinct_commits (effected : traffic.Effected) :
    ((Journal.commits traffic.journal).map (·.attempt.index)).Nodup := by
  apply effected.distinct
  · intro entry commit found
    obtain rfl := Entry.commit?_eq_some.mp found
    exact ⟨rfl, rfl⟩
  · intro attempt base events answer
    exact Nat.le_refl 1

end Traffic

end Inventory
