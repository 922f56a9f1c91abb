import Inventory.Deployment

/-! Dispatches in traffic. Any number of dispatches work on one deployment, each through a command bus of its own.
Nothing says who moves next, so a run is a list of moves in any order: a dispatch starts, takes one step, or
is dropped where it stands, and in between the rest of the process does whatever leaves the store alone. A
journal notes, move by move, what the dispatches did that others can see. -/
namespace Inventory

/-- The items around one of them, which stay where they are when another one takes its place. -/
theorem exists_around {Item : Type} {items : List Item} {index : Nat} {item : Item}
    (found : items[index]? = some item) :
    ∃ before behind, items = before ++ item :: behind ∧ before.length = index ∧
      ∀ next, items.set index next = before ++ next :: behind := by
  obtain ⟨inside, rfl⟩ := List.getElem?_eq_some_iff.mp found
  have set (next : Item) : items.set index next = items.take index ++ next :: items.drop (index + 1) := by
    rw [List.set_eq_take_append_cons_drop, if_pos inside]
  exact ⟨_, _, (List.set_getElem_self inside).symm.trans (set _), List.length_take_of_le (Nat.le_of_lt inside), set⟩

/-- Where events go once they are stored. The answer and the effect may depend on all there is; only the
store is not the publisher's to write. -/
structure Publisher (Data Handlers : Type) where
  publish : Deployment Data Handlers → List (Event Data) → Except Fault Unit × Deployment Data Handlers
  store_publish : ∀ deployment events, (publish deployment events).2.store = deployment.store

/-- A `CommandBus`, where commands are handed in. Those that share a store may differ in everything else. Rules may
answer otherwise at another time, so each attempt of a dispatch has rules of its own. -/
structure CommandBus (Data Handlers State Command : Type) where
  publisher : Publisher Data Handlers
  aggregates : Nat → AggregateRegistry State Data
  rules : Nat → Rules State Data Command
  target : Command → StreamId
  retry : Retry.Policy

/-- What a step of a dispatch does that others can see. -/
inductive Deed (Data : Type) where
  | read (version : Nat)
  /-- Events on top of a version were handed to the store. -/
  | appended (version : Nat) (events : List (Event Data)) (answer : Except Fault Unit)
  | published (events : List (Event Data)) (answer : Except Fault Unit)

structure Attempt (Data Handlers State Command : Type) where
  /-- The place of the dispatch among all that were started. -/
  index : Nat
  number : Nat
  commandBus : CommandBus Data Handlers State Command
  command : Command

structure Entry (Data Handlers State Command : Type) where
  attempt : Attempt Data Handlers State Command
  deed : Deed Data

structure Task (Data Handlers State Command : Type) where
  commandBus : CommandBus Data Handlers State Command
  dispatch : Dispatch Data State Command
  dropped : Bool := false

/-- What else happens in the process: loops that read, a transport that comes and goes. -/
structure Interlude (Data Handlers : Type) where
  pass : Deployment Data Handlers → Deployment Data Handlers
  store_pass : ∀ deployment, (pass deployment).store = deployment.store

inductive Move (Data Handlers State Command : Type) where
  | start (commandBus : CommandBus Data Handlers State Command) (moment : Moment) (command : Command)
  | step (index : Nat) (moment : Moment)
  | drop (index : Nat)
  | interlude (interlude : Interlude Data Handlers)

structure Traffic (Data Handlers State Command : Type) where
  world : Deployment Data Handlers
  tasks : List (Task Data Handlers State Command) := []
  journal : List (Entry Data Handlers State Command) := []

variable {World Data Handlers State Command : Type}

/-- The same deployment before anything was stored. -/
def Deployment.vacant (deployment : Deployment Data Handlers) : Deployment Data Handlers :=
  { deployment with store := .empty }

def Attempt.stream (attempt : Attempt Data Handlers State Command) : StreamId :=
  attempt.commandBus.target attempt.command

def Attempt.entries (attempt : Attempt Data Handlers State Command) (deed? : Option (Deed Data)) :
    List (Entry Data Handlers State Command) :=
  (deed?.map fun deed => ⟨attempt, deed⟩).toList

@[simp] theorem Attempt.entries_none (attempt : Attempt Data Handlers State Command) :
    attempt.entries none = [] := rfl

@[simp] theorem Attempt.entries_some (attempt : Attempt Data Handlers State Command) (deed : Deed Data) :
    attempt.entries (some deed) = [⟨attempt, deed⟩] := rfl

theorem Attempt.of_mem_entries {attempt : Attempt Data Handlers State Command} {deed? : Option (Deed Data)}
    {entry : Entry Data Handlers State Command} (member : entry ∈ attempt.entries deed?) :
    entry.attempt = attempt := by
  cases deed? with
  | none => cases member
  | some deed => rw [List.mem_singleton.mp member]

theorem Attempt.deed?_of_mem_entries {attempt signed : Attempt Data Handlers State Command}
    {deed? : Option (Deed Data)} {deed : Deed Data} (member : ⟨signed, deed⟩ ∈ attempt.entries deed?) :
    deed? = some deed := by
  cases deed? with
  | none => cases member
  | some noted =>
    cases List.mem_singleton.mp member
    rfl

def CommandBus.attempt (commandBus : CommandBus Data Handlers State Command) (index : Nat)
    (dispatch : Dispatch Data State Command) : Attempt Data Handlers State Command :=
  { index, number := dispatch.attempt, commandBus, command := dispatch.command }

def Task.attempt (task : Task Data Handlers State Command) (index : Nat) :
    Attempt Data Handlers State Command :=
  task.commandBus.attempt index task.dispatch

def Task.drop (task : Task Data Handlers State Command) : Task Data Handlers State Command :=
  { task with dropped := true }

def Dispatch.deed? (dispatch : Dispatch Data State Command)
    (engine : Engine World Data State Command) (world : World) : Option (Deed Data) :=
  match dispatch.phase with
  | .reading =>
      match engine.backend.history world (engine.target dispatch.command) with
      | .error _ => none
      | .ok history => some (.read (AggregateRegistry.lastVersion history))
  | .appending context events =>
      some (.appended context.initialVersion events (engine.backend.append world events).1)
  | .publishing _ events => some (.published events (engine.backend.publish world events).1)
  | .deciding _ _ | .stamping _ _ _ | .pausing _ | .finished _ => none

def Traffic.opening (deployment : Deployment Data Handlers) : Traffic Data Handlers State Command :=
  { world := deployment }

def Traffic.rows (traffic : Traffic Data Handlers State Command) (stream : StreamId) : List Record :=
  traffic.world.store.records stream

variable [Payload Data]

def Publisher.eventBus : Publisher Data Handlers where
  publish := Deployment.publish
  store_publish deployment events := by
    unfold Deployment.publish
    split
    · rfl
    · split <;> rfl

/-- What an attempt of this number works with: the engine of a command bus over the deployment's store, whose
payloads are decoded by this registry. Unless it is said how, versions are counted on without end, which is the same
as in words of 64 bits while these last (`Traffic.Sound.run_words`). -/
def CommandBus.engine (commandBus : CommandBus Data Handlers State Command) (registry : EventRegistry Data)
    (number : Nat) (add : Nat → Nat → Nat := Nat.add) : Engine (Deployment Data Handlers) Data State Command where
  backend := { Deployment.backend registry add with publish := commandBus.publisher.publish }
  aggregates := commandBus.aggregates number
  rules := commandBus.rules number
  target := commandBus.target
  retry := commandBus.retry
  add := add

namespace Traffic

def advance (traffic : Traffic Data Handlers State Command) (registry : EventRegistry Data)
    (index : Nat) (task : Task Data Handlers State Command) (moment : Moment)
    (add : Nat → Nat → Nat := Nat.add) : Traffic Data Handlers State Command :=
  let engine := task.commandBus.engine registry task.dispatch.attempt add
  let next := task.dispatch.step engine moment traffic.world
  let deed? := task.dispatch.deed? engine traffic.world
  { world := next.2
    tasks := traffic.tasks.set index { task with dispatch := next.1 }
    journal := traffic.journal ++ (task.attempt index).entries deed? }

/-- A dropped dispatch takes no further step. -/
def step (registry : EventRegistry Data) (traffic : Traffic Data Handlers State Command)
    (move : Move Data Handlers State Command) (add : Nat → Nat → Nat := Nat.add) :
    Traffic Data Handlers State Command :=
  match move with
  | .start commandBus moment command =>
      let dispatch := Dispatch.start (commandBus.engine registry 1 add) moment command
      { traffic with tasks := traffic.tasks ++ [{ commandBus, dispatch }] }
  | .step index moment =>
      match traffic.tasks[index]? with
      | none => traffic
      | some task => if task.dropped then traffic else traffic.advance registry index task moment add
  | .drop index => { traffic with tasks := traffic.tasks.modify index Task.drop }
  | .interlude interlude => { traffic with world := interlude.pass traffic.world }

def run (registry : EventRegistry Data) (traffic : Traffic Data Handlers State Command)
    (moves : List (Move Data Handlers State Command)) (add : Nat → Nat → Nat := Nat.add) :
    Traffic Data Handlers State Command :=
  moves.foldl (step registry · · add) traffic

end Traffic

end Inventory
