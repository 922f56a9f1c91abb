import Inventory.Proofs.Breaker.Turn
import Mathlib.Data.List.Nodup
import Mathlib.Data.List.Perm.Subperm

/-! A breaker with any number of callers. A call is admitted in one step and completed in another, and other calls and
time may come in between, so that an operation may end in a state other than the one in which it was admitted. A journal
notes what was done, and what the breaker was before and after it. -/
namespace Inventory.Breaker

/-- An act, the call that did it and when, and the breaker before and after it. -/
structure Note where
  ticket : Nat
  act : Act
  moment : Duration
  met : Breaker
  left : Breaker
deriving DecidableEq, Repr

abbrev Journal : Type :=
  List Note

namespace Journal

def admitted (journal : Journal) : List Nat :=
  (journal.filter fun note => note.act = .admitted).map Note.ticket

/-- The calls that were completed or dropped. -/
def ended (journal : Journal) : List Nat :=
  (journal.filter fun note => note.act.isEnd).map Note.ticket

def inFlight (journal : Journal) : List Nat :=
  journal.admitted.filter fun ticket => ticket ∉ journal.ended

end Journal

structure Gate where
  breaker : Breaker := {}
  now : Duration
  calls : Nat := 0
  journal : Journal := []

/-- What can happen next: a call is made, the operation of one ends, one is dropped, or time passes. -/
inductive Move where
  | call
  | complete (ticket : Nat) (outcome : Outcome)
  | drop (ticket : Nat)
  | wait (span : Duration)

namespace Gate

def note (gate : Gate) (ticket : Nat) (act : Act) (left : Breaker) : Gate :=
  { gate with
    breaker := left
    journal := gate.journal ++ [⟨ticket, act, gate.now, gate.breaker, left⟩] }

def call (config : Config) (gate : Gate) : Gate :=
  match gate.breaker.enter? config gate.now with
  | none => { gate.note gate.calls .refused gate.breaker with calls := gate.calls + 1 }
  | some left => { gate.note gate.calls .admitted left with calls := gate.calls + 1 }

/-- Only a call in flight can be completed or dropped. -/
def step (config : Config) (gate : Gate) : Move → Gate
  | .call => gate.call config
  | .complete ticket outcome =>
      if ticket ∈ gate.journal.inFlight then
        gate.note ticket (.completed outcome) (gate.breaker.complete config gate.now outcome)
      else gate
  | .drop ticket =>
      if ticket ∈ gate.journal.inFlight then gate.note ticket .dropped gate.breaker else gate
  | .wait span => { gate with now := gate.now + span }

def run (config : Config) (gate : Gate) (moves : List Move) : Gate :=
  moves.foldl (step config) gate

inductive Shift (config : Config) (gate : Gate) : Gate → Prop
  | idle : Shift config gate gate
  | waited (span : Duration) : Shift config gate { gate with now := gate.now + span }
  | asked {act : Act} {left : Breaker} (turn : Turn config gate.now gate.breaker act left)
      (asks : act = .refused ∨ act = .admitted) :
      Shift config gate { gate.note gate.calls act left with calls := gate.calls + 1 }
  | ended {ticket : Nat} {act : Act} {left : Breaker} (turn : Turn config gate.now gate.breaker act left)
      (ends : act.isEnd = true) (flying : ticket ∈ gate.journal.inFlight) :
      Shift config gate (gate.note ticket act left)

theorem step_shift (config : Config) (gate : Gate) (move : Move) : Shift config gate (gate.step config move) := by
  cases move with
  | call =>
    simp only [step, call]
    split
    next kept => exact .asked (turn_of_enter?_none kept) (.inl rfl)
    next entered => exact .asked (turn_of_enter?_some entered) (.inr rfl)
  | complete ticket outcome =>
    simp only [step]
    split
    next flying => exact .ended (turn_of_complete ..) rfl flying
    next => exact .idle
  | drop ticket =>
    simp only [step]
    split
    next flying => exact .ended .dropped rfl flying
    next => exact .idle
  | wait span => exact .waited span

end Gate

namespace Journal

theorem admitted_append (first second : Journal) : admitted (first ++ second) = first.admitted ++ second.admitted := by
  rw [admitted, List.filter_append, List.map_append]
  rfl

theorem ended_append (first second : Journal) : ended (first ++ second) = first.ended ++ second.ended := by
  rw [ended, List.filter_append, List.map_append]
  rfl

theorem mem_inFlight {journal : Journal} {ticket : Nat} :
    ticket ∈ journal.inFlight ↔ ticket ∈ journal.admitted ∧ ticket ∉ journal.ended := by
  simp [inFlight]

theorem admitted_concat (journal : Journal) (note : Note) :
    admitted (journal ++ [note]) = journal.admitted ++ if note.act = .admitted then [note.ticket] else [] := by
  rw [admitted_append]
  by_cases kind : note.act = .admitted <;> simp [admitted, kind]

theorem ended_concat (journal : Journal) (note : Note) :
    ended (journal ++ [note]) = journal.ended ++ if note.act.isEnd then [note.ticket] else [] := by
  rw [ended_append]
  cases kind : note.act.isEnd <;> simp [ended, kind]

theorem length_ended_concat (journal : Journal) (note : Note) :
    (ended (journal ++ [note])).length = journal.ended.length + note.act.isEnd.toNat := by
  rw [ended_concat, List.length_append]
  cases note.act.isEnd <;> rfl

/-- Tickets are taken in turn, and a call ends at most once, after it was admitted. -/
structure Ticketed (calls : Nat) (journal : Journal) : Prop where
  admitted_lt : ∀ ticket ∈ journal.admitted, ticket < calls
  admitted_nodup : journal.admitted.Nodup
  ended_nodup : journal.ended.Nodup
  ended_subset : journal.ended ⊆ journal.admitted

section
variable {calls ticket : Nat} {journal : Journal}

theorem Ticketed.length_ended_le (ticketed : Ticketed calls journal) : journal.ended.length ≤ calls := by
  have within : journal.ended ⊆ List.range calls := fun ticket member =>
    List.mem_range.mpr (ticketed.admitted_lt ticket (ticketed.ended_subset member))
  have shorter := (List.subperm_of_subset ticketed.ended_nodup within).length_le
  rwa [List.length_range] at shorter

theorem Ticketed.refused (ticketed : Ticketed calls journal) {note : Note} (kind : note.act = .refused) :
    Ticketed (calls + 1) (journal ++ [note]) := by
  have admitted : admitted (journal ++ [note]) = journal.admitted := by simp [admitted_concat, kind]
  have ended : ended (journal ++ [note]) = journal.ended := by simp [ended_concat, kind, Act.isEnd]
  constructor
  · rw [admitted]
    exact fun ticket member => Nat.lt_succ_of_lt (ticketed.admitted_lt ticket member)
  · rw [admitted]
    exact ticketed.admitted_nodup
  · rw [ended]
    exact ticketed.ended_nodup
  · rw [ended, admitted]
    exact ticketed.ended_subset

theorem Ticketed.admits (ticketed : Ticketed calls journal) {note : Note} (kind : note.act = .admitted)
    (next : note.ticket = calls) : Ticketed (calls + 1) (journal ++ [note]) := by
  have admitted : admitted (journal ++ [note]) = journal.admitted ++ [calls] := by simp [admitted_concat, kind, next]
  have ended : ended (journal ++ [note]) = journal.ended := by simp [ended_concat, kind, Act.isEnd]
  constructor
  · rw [admitted]
    intro ticket member
    rcases List.mem_append.mp member with old | new
    · exact Nat.lt_succ_of_lt (ticketed.admitted_lt ticket old)
    · exact List.mem_singleton.mp new ▸ Nat.lt_succ_self calls
  · rw [admitted, ← List.concat_eq_append]
    exact List.Nodup.concat (fun member => Nat.lt_irrefl _ (ticketed.admitted_lt _ member)) ticketed.admitted_nodup
  · rw [ended]
    exact ticketed.ended_nodup
  · rw [ended, admitted]
    exact List.subset_append_of_subset_left _ ticketed.ended_subset

theorem Ticketed.ends (ticketed : Ticketed calls journal) {note : Note} (kind : note.act.isEnd = true)
    (flying : note.ticket ∈ journal.inFlight) : Ticketed calls (journal ++ [note]) := by
  obtain ⟨begun, going⟩ := mem_inFlight.mp flying
  have other : note.act ≠ .admitted := fun same => by
    rw [same] at kind
    cases kind
  have admitted : admitted (journal ++ [note]) = journal.admitted := by simp [admitted_concat, other]
  have ended : ended (journal ++ [note]) = journal.ended ++ [note.ticket] := by simp [ended_concat, kind]
  constructor
  · rw [admitted]
    exact ticketed.admitted_lt
  · rw [admitted]
    exact ticketed.admitted_nodup
  · rw [ended, ← List.concat_eq_append]
    exact List.Nodup.concat going ticketed.ended_nodup
  · rw [ended, admitted]
    exact List.append_subset.mpr ⟨ticketed.ended_subset, List.cons_subset.mpr ⟨begun, List.nil_subset _⟩⟩

end

end Journal

namespace Gate
variable {config : Config} {gate later : Gate}

/-- What every move keeps, a run keeps. -/
theorem run_induction {Kept : Gate → Prop} (keeps : ∀ gate later, Shift config gate later → Kept gate → Kept later)
    (kept : Kept gate) (moves : List Move) : Kept (gate.run config moves) := by
  induction moves generalizing gate with
  | nil => exact kept
  | cons move moves ih => exact ih (keeps _ _ (step_shift config gate move) kept)

theorem run_notes {Kept : Gate → Prop}
    (waits : ∀ gate span, Kept gate → Kept { gate with now := gate.now + span })
    (notes : ∀ gate ticket act left, Turn config gate.now gate.breaker act left → Kept gate →
      Kept (gate.note ticket act left))
    (recounts : ∀ gate calls, Kept gate → Kept { gate with calls })
    (kept : Kept gate) (moves : List Move) : Kept (gate.run config moves) := by
  refine run_induction (fun gate later shift kept => ?_) kept moves
  cases shift with
  | idle => exact kept
  | waited span => exact waits gate span kept
  | asked turn asks => exact recounts _ _ (notes gate gate.calls _ _ turn kept)
  | ended turn ends flying => exact notes gate _ _ _ turn kept

/-- Every note tells what the breaker does with such an act. -/
def Lawful (config : Config) (gate : Gate) : Prop :=
  ∀ note ∈ gate.journal, Turn config note.moment note.met note.act note.left

theorem Lawful.note (lawful : gate.Lawful config) (ticket : Nat) {act : Act} {left : Breaker}
    (turn : Turn config gate.now gate.breaker act left) : (gate.note ticket act left).Lawful config :=
  List.forall_mem_append.mpr ⟨lawful, List.forall_mem_singleton.mpr turn⟩

theorem run_lawful (config : Config) (start : Duration) (moves : List Move) :
    (run config { now := start } moves).Lawful config :=
  run_notes (fun _ _ lawful => lawful) (fun _ ticket _ _ turn lawful => lawful.note ticket turn)
    (fun _ _ lawful => lawful) (List.forall_mem_nil _) moves

/-- The last note tells what the breaker is. -/
def Linked (gate : Gate) : Prop :=
  ∀ note ∈ gate.journal.getLast?, note.left = gate.breaker

theorem linked_note (gate : Gate) (ticket : Nat) (act : Act) (left : Breaker) : (gate.note ticket act left).Linked := by
  intro note member
  rw [Gate.note, List.getLast?_concat] at member
  cases member
  rfl

theorem run_linked (config : Config) (start : Duration) (moves : List Move) :
    (run config { now := start } moves).Linked := by
  refine run_notes (fun _ _ linked => linked) (fun gate ticket act left _ _ => linked_note gate ticket act left)
    (fun _ _ linked => linked) ?_ moves
  exact fun note member => nomatch member

theorem Shift.ticketed (shift : Shift config gate later) (ticketed : gate.journal.Ticketed gate.calls) :
    later.journal.Ticketed later.calls := by
  cases shift with
  | idle => exact ticketed
  | waited span => exact ticketed
  | asked turn asks =>
    rcases asks with rfl | rfl
    · exact ticketed.refused rfl
    · exact ticketed.admits rfl rfl
  | ended turn ends flying => exact ticketed.ends ends flying

theorem run_ticketed (config : Config) (start : Duration) (moves : List Move) :
    let gate := run config { now := start } moves
    gate.journal.Ticketed gate.calls := by
  refine run_induction (fun _ _ shift => shift.ticketed) ?_ moves
  exact ⟨List.forall_mem_nil _, List.nodup_nil, List.nodup_nil, List.Subset.refl _⟩

end Gate

end Inventory.Breaker
