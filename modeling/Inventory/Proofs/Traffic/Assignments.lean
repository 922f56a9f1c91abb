import Inventory.Proofs.Traffic.DispatchStep
import Inventory.Proofs.Traffic.Tasks
import Mathlib.Data.List.Perm.Subperm

/-! What the dispatches were started for. A dispatch keeps its command bus and its command through all its attempts, and
whatever is noted of it carries both. So the moves alone tell which dispatches there are. -/
namespace Inventory

theorem length_le_countP {Item : Type} {items : List Item} {holds : Item → Bool} {places : List Nat}
    (distinct : places.Nodup) (there : ∀ place ∈ places, ∃ item, items[place]? = some item ∧ holds item = true) :
    places.length ≤ items.countP holds := by
  have inside : places ⊆ (items.zipIdx.filter fun entry => holds entry.1).map Prod.snd := by
    intro place member
    obtain ⟨item, found, good⟩ := there place member
    have standing : (item, place) ∈ items.zipIdx.filter fun entry => holds entry.1 :=
      List.mem_filter.mpr ⟨List.mem_zipIdx_iff_getElem?.mpr found, good⟩
    exact List.mem_map_of_mem standing
  have counted := (List.subperm_of_subset distinct inside).length_le
  rw [List.length_map, ← List.countP_eq_length_filter] at counted
  have same : items.zipIdx.countP (fun entry => holds entry.1) = items.countP holds := by
    conv_rhs => rw [← List.zipIdx_map_fst 0 items, List.countP_map]
    rfl
  rw [same] at counted
  exact counted

variable {Data Handlers State Command : Type}

structure Assignment (Data Handlers State Command : Type) where
  commandBus : CommandBus Data Handlers State Command
  command : Command

def Assignment.stream (assignment : Assignment Data Handlers State Command) : StreamId :=
  assignment.commandBus.target assignment.command

def Task.assignment (task : Task Data Handlers State Command) : Assignment Data Handlers State Command :=
  ⟨task.commandBus, task.dispatch.command⟩

def Attempt.assignment (attempt : Attempt Data Handlers State Command) : Assignment Data Handlers State Command :=
  ⟨attempt.commandBus, attempt.command⟩

def Move.assignment? : Move Data Handlers State Command → Option (Assignment Data Handlers State Command)
  | .start commandBus _ command => some ⟨commandBus, command⟩
  | .step _ _ | .drop _ | .interlude _ => none

def Traffic.assignments (traffic : Traffic Data Handlers State Command) :
    List (Assignment Data Handlers State Command) :=
  traffic.tasks.map Task.assignment

theorem Dispatch.ended_command (dispatch : Dispatch Data State Command) (policy : Retry.Policy)
    (result : Except Fault (Committed Data)) : (dispatch.ended policy result).command = dispatch.command := by
  unfold ended
  split <;> rfl

variable [Payload Data]

theorem DispatchStep.command_eq {registry : EventRegistry Data} {commandBus : CommandBus Data Handlers State Command}
    {store later : EventStore} {dispatch next : Dispatch Data State Command} {deed? : Option (Deed Data)}
    (dispatchStep : DispatchStep registry commandBus store dispatch deed? next later) :
    next.command = dispatch.command := by
  cases dispatchStep <;> first | rfl | exact Dispatch.ended_command ..

namespace Traffic
variable {registry : EventRegistry Data} {traffic : Traffic Data Handlers State Command}

theorem assignments_advance (registry : EventRegistry Data) {index : Nat}
    {task : Task Data Handlers State Command} (found : traffic.tasks[index]? = some task) (moment : Moment) :
    (traffic.advance registry index task moment).assignments = traffic.assignments := by
  have same := (dispatchStep_step task.commandBus registry task.dispatch moment traffic.world).command_eq
  apply List.ext_getElem?
  intro other
  simp only [assignments, advance, List.getElem?_map, List.getElem?_set]
  split
  next here =>
    subst here
    rw [found, if_pos (List.getElem?_eq_some_iff.mp found).1]
    simp only [Option.map_some, Task.assignment, same]
  next => rfl

theorem assignments_step (registry : EventRegistry Data) (traffic : Traffic Data Handlers State Command)
    (move : Move Data Handlers State Command) :
    (traffic.step registry move).assignments = traffic.assignments ++ move.assignment?.toList := by
  cases move with
  | start commandBus moment command => exact List.map_append
  | step index moment =>
    simp only [step, Move.assignment?, Option.toList_none, List.append_nil]
    split
    · rfl
    next task found =>
      split
      · rfl
      · exact assignments_advance registry found moment
  | drop index =>
    simp only [step, assignments, Move.assignment?, Option.toList_none, List.append_nil]
    apply List.ext_getElem?
    intro other
    simp only [List.getElem?_map, List.getElem?_modify]
    cases traffic.tasks[other]? with
    | none => rfl
    | some task => split <;> rfl
  | interlude interlude => exact (List.append_nil _).symm

theorem assignments_run (registry : EventRegistry Data) (traffic : Traffic Data Handlers State Command)
    (moves : List (Move Data Handlers State Command)) :
    (traffic.run registry moves).assignments = traffic.assignments ++ moves.filterMap Move.assignment? := by
  induction moves generalizing traffic with
  | nil => exact (List.append_nil _).symm
  | cons move rest ih =>
    change ((traffic.step registry move).run registry rest).assignments = _
    rw [ih, assignments_step, List.append_assoc]
    cases move <;> rfl

/-- Every entry is of a dispatch that was started for this. -/
def Signed (traffic : Traffic Data Handlers State Command) : Prop :=
  ∀ entry ∈ traffic.journal, traffic.assignments[entry.attempt.index]? = some entry.attempt.assignment

theorem Signed.step (signed : traffic.Signed) (move : Move Data Handlers State Command) :
    (traffic.step registry move).Signed := by
  have old (entry : Entry Data Handlers State Command) (member : entry ∈ traffic.journal) :
      (traffic.step registry move).assignments[entry.attempt.index]? = some entry.attempt.assignment := by
    have known := signed entry member
    rw [assignments_step, List.getElem?_append_left (List.getElem?_eq_some_iff.mp known).1]
    exact known
  cases move with
  | step index moment =>
    simp only [Traffic.step] at old ⊢
    split
    · exact signed
    next task found =>
      split
      · exact signed
      · intro entry member
        rcases List.mem_append.mp member with before | new
        · rw [assignments_advance registry found]
          exact signed entry before
        · rw [Attempt.of_mem_entries new, assignments_advance registry found]
          change (traffic.tasks.map Task.assignment)[index]? = _
          rw [List.getElem?_map, found]
          rfl
  | start commandBus moment command => exact old
  | drop index => exact old
  | interlude interlude => exact old

end Traffic

end Inventory
