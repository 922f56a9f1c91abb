import Inventory.Proofs.Traffic.Heard
import Inventory.Proofs.Untimed

/-! Steps without their stamps. What a dispatch does depends on the records of the stream that its command is for, and
on an open bus it depends on nothing else of the deployment, but for the times of what it makes. So a step that is taken
on two deployments where that stream has the same records comes out the same, up to stamps. -/
namespace Inventory
variable {World Data Handlers State Command : Type}

def Context.untimed (context : Context Data) : Context Data :=
  { context with uncommitted := context.uncommitted.map Event.untimed }

def Committed.untimed (committed : Committed Data) : Committed Data :=
  { committed with events := committed.events.map Event.untimed }

/-- Nothing is stamped before the rules have decided. -/
def Phase.untimed : Phase Data State → Phase Data State
  | .reading => .reading
  | .deciding context state => .deciding context state
  | .stamping context wall pending => .stamping context.untimed wall pending
  | .appending context events => .appending context.untimed (events.map Event.untimed)
  | .publishing context events => .publishing context.untimed (events.map Event.untimed)
  | .pausing delay => .pausing delay
  | .finished result => .finished (result.map Committed.untimed)

def Dispatch.untimed (dispatch : Dispatch Data State Command) : Dispatch Data State Command :=
  dispatch.moveTo dispatch.phase.untimed

def Deed.untimed : Deed Data → Deed Data
  | .read version => .read version
  | .appended version events answer => .appended version (events.map Event.untimed) answer
  | .published events answer => .published (events.map Event.untimed) answer

def Deployment.view (deployment : Deployment Data Handlers) (stream : StreamId) : List Record :=
  (deployment.store.records stream).map Record.untimed

/-- What a stream can tell of a step: where it left the dispatch, and the records of the stream. -/
def Dispatch.seen (stream : StreamId) (outcome : Dispatch Data State Command × Deployment Data Handlers) :
    Dispatch Data State Command × List Record :=
  (outcome.1.untimed, outcome.2.view stream)

theorem Phase.untimed_untimed (phase : Phase Data State) : phase.untimed.untimed = phase.untimed := by
  cases phase with
  | finished result => cases result <;> simp [untimed, Except.map, Committed.untimed]
  | _ => simp [untimed, Context.untimed]

theorem Dispatch.untimed_untimed (dispatch : Dispatch Data State Command) :
    dispatch.untimed.untimed = dispatch.untimed :=
  congrArg dispatch.moveTo dispatch.phase.untimed_untimed

@[simp] theorem Dispatch.untimed_attempt (dispatch : Dispatch Data State Command) :
    dispatch.untimed.attempt = dispatch.attempt := rfl

@[simp] theorem Dispatch.untimed_command (dispatch : Dispatch Data State Command) :
    dispatch.untimed.command = dispatch.command := rfl

theorem Dispatch.attempt_congr {dispatch again : Dispatch Data State Command}
    (same : again.untimed = dispatch.untimed) : again.attempt = dispatch.attempt := by
  rw [← again.untimed_attempt, same, untimed_attempt]

theorem Dispatch.command_congr {dispatch again : Dispatch Data State Command}
    (same : again.untimed = dispatch.untimed) : again.command = dispatch.command := by
  rw [← again.untimed_command, same, untimed_command]

theorem Dispatch.result?_congr {dispatch again : Dispatch Data State Command}
    (same : again.untimed = dispatch.untimed) : again.result? = none ↔ dispatch.result? = none := by
  have results (dispatch : Dispatch Data State Command) :
      dispatch.untimed.result? = dispatch.result?.map (Except.map Committed.untimed) := by
    unfold untimed moveTo result?
    cases dispatch.phase <;> rfl
  rw [← Option.map_eq_none_iff, ← results, same, results, Option.map_eq_none_iff]

theorem Dispatch.ended_untimed (dispatch : Dispatch Data State Command) (policy : Retry.Policy)
    (result : Except Fault (Committed Data)) :
    (dispatch.untimed.ended policy (result.map Committed.untimed)).untimed =
      (dispatch.ended policy result).untimed := by
  cases result with
  | ok committed =>
    simp [ended, Retry.Policy.outcome?, Except.map, untimed, moveTo, Phase.untimed, Committed.untimed]
  | error fault =>
    cases again : policy.outcome? Fault.isTransient dispatch.attempt (.error fault : Except Fault (Committed Data)) <;>
      simp only [ended, Except.map, untimed_attempt, again] <;> rfl

variable [Payload Data] {registry : EventRegistry Data} {commandBus : CommandBus Data Handlers State Command}
  {stream : StreamId}
  {number : Nat} {world other : Deployment Data Handlers} {dispatch : Dispatch Data State Command} {moment : Moment}

namespace CommandBus

theorem history_engine (commandBus : CommandBus Data Handlers State Command) (world : Deployment Data Handlers) :
    (commandBus.engine registry number).backend.history world = world.history registry := rfl

theorem append_engine (commandBus : CommandBus Data Handlers State Command) (world : Deployment Data Handlers)
    (events : List (Event Data)) :
    (commandBus.engine registry number).backend.append world events = world.append events := rfl

theorem publish_engine (onBus : commandBus.publisher = .eventBus) (world : Deployment Data Handlers)
    (events : List (Event Data)) :
    (commandBus.engine registry number).backend.publish world events = world.publish events :=
  congrArg (fun publisher => publisher.publish world events) onBus

end CommandBus

theorem Deployment.history_untimed (registry : EventRegistry Data) (views : world.view stream = other.view stream) :
    (∃ fault, world.history registry stream = .error fault ∧ other.history registry stream = .error fault) ∨
      ∃ found again, world.history registry stream = .ok found ∧ other.history registry stream = .ok again ∧
        found.map Event.untimed = again.map Event.untimed := by
  have alike : (world.history registry stream).map (List.map Event.untimed) =
      (other.history registry stream).map (List.map Event.untimed) := by
    rw [history, history, EventStore.history, EventStore.history, ← EventRegistry.decodeRecords_untimed,
      ← EventRegistry.decodeRecords_untimed]
    exact congrArg registry.decodeRecords views
  cases found : world.history registry stream <;> cases again : other.history registry stream <;>
    rw [found, again] at alike
  next fault _ =>
    cases alike
    exact .inl ⟨fault, rfl, rfl⟩
  · cases alike
  · cases alike
  next history later => exact .inr ⟨history, later, rfl, rfl, Except.ok.inj alike⟩

theorem Deployment.append_untimed (views : world.view stream = other.view stream) {events : List (Event Data)}
    (addressed : ∀ event ∈ events, event.stream = stream) :
    (other.append (events.map Event.untimed)).1 = (world.append events).1 ∧
      (other.append (events.map Event.untimed)).2.view stream = (world.append events).2.view stream := by
  have answers := EventStore.append_untimed views addressed
  unfold append
  cases stores : world.store.append events <;> cases again : other.store.append (events.map Event.untimed) <;>
    rw [stores, again] at answers
  · cases answers
    exact ⟨rfl, views.symm⟩
  · cases answers
  · cases answers
  · exact ⟨rfl, (Except.ok.inj answers).symm⟩

theorem Deployment.publish_untimed (open' : world.side.bus.available = true)
    (alsoOpen : other.side.bus.available = true) (views : world.view stream = other.view stream)
    (events : List (Event Data)) :
    (other.publish (events.map Event.untimed)).1 = (world.publish events).1 ∧
      (other.publish (events.map Event.untimed)).2.view stream = (world.publish events).2.view stream := by
  constructor
  · rw [publish_open alsoOpen, publish_open open', Event.toRecords_untimed]
    cases Event.toRecords events <;> rfl
  · have kept (world : Deployment Data Handlers) (events : List (Event Data)) :
        (world.publish events).2.store = world.store :=
      Publisher.eventBus.store_publish world events
    rw [view, view, kept, kept]
    exact views.symm

namespace Dispatch

theorem seen_conclude (views : world.view stream = other.view stream) (result : Except Fault (Committed Data)) :
    seen stream (dispatch.untimed.conclude (commandBus.engine registry number) moment other
      (result.map Committed.untimed)) =
      seen stream (dispatch.conclude (commandBus.engine registry number) moment world result) := by
  refine Prod.ext ?_ ?_
  · simp only [seen, conclude_fst]
    exact dispatch.ended_untimed _ result
  · simp only [seen, Deployment.view, conclude_store]
    exact views.symm

theorem seen_read (here : commandBus.target dispatch.command = stream) (views : world.view stream = other.view stream) :
    seen stream (dispatch.untimed.read (commandBus.engine registry number) moment other) =
      seen stream (dispatch.read (commandBus.engine registry number) moment world) := by
  have target : (commandBus.engine registry number).target dispatch.command = stream := here
  unfold read
  simp only [untimed_command, target, CommandBus.history_engine]
  rcases Deployment.history_untimed registry views with ⟨fault, found, again⟩ | ⟨found, again, there, alsoThere, same⟩
  · simp only [found, again]
    exact seen_conclude views (.error fault)
  · simp only [there, alsoThere, AggregateRegistry.load_congr _ _ _ same]
    cases (commandBus.engine registry number).aggregates.load (commandBus.engine registry number).rules stream again
    with
    | error fault => exact seen_conclude views (.error fault)
    | ok loaded => exact Prod.ext rfl views.symm

theorem seen_decide (views : world.view stream = other.view stream) (context : Context Data) (state : State) :
    seen stream (dispatch.untimed.decide (commandBus.engine registry number) moment other context state) =
      seen stream (dispatch.decide (commandBus.engine registry number) moment world context state) := by
  unfold decide
  rw [untimed_command]
  cases (commandBus.engine registry number).rules.decide state context dispatch.command with
  | error fault => exact seen_conclude views (.error fault)
  | ok payloads =>
    cases payloads with
    | nil => exact seen_conclude views (.ok ⟨[], context.version⟩)
    | cons first rest => exact Prod.ext rfl views.symm

theorem seen_stamp (views : world.view stream = other.view stream) (context : Context Data) (wall : Option Int)
    (pending : List Data) :
    seen stream (dispatch.untimed.stamp (commandBus.engine registry number) moment other context.untimed wall pending) =
      seen stream (dispatch.stamp (commandBus.engine registry number) moment world context wall pending) := by
  cases pending with
  | nil =>
    refine Prod.ext ?_ views.symm
    simp [stamp, seen, untimed, moveTo, Context.take, Context.untimed, Phase.untimed]
  | cons first rest =>
    cases wall with
    | none => exact Prod.ext (dispatch.moveTo (.stamping context _ _)).untimed_untimed views.symm
    | some wall =>
      refine Prod.ext ?_ views.symm
      simp [stamp, seen, untimed, moveTo, Context.record, Context.next, Context.untimed, Phase.untimed, Event.of,
        Event.untimed]

theorem seen_append (views : world.view stream = other.view stream) (context : Context Data)
    {events : List (Event Data)}
    (addressed : ∀ event ∈ events, event.stream = stream) :
    seen stream (dispatch.untimed.append (commandBus.engine registry number) moment other context.untimed
        (events.map Event.untimed)) =
      seen stream (dispatch.append (commandBus.engine registry number) moment world context events) := by
  obtain ⟨answers, behind⟩ := Deployment.append_untimed views addressed
  unfold append
  simp only [CommandBus.append_engine]
  generalize world.append events = stored at answers behind ⊢
  generalize other.append (events.map Event.untimed) = again at answers behind ⊢
  obtain ⟨result, later⟩ := stored
  obtain ⟨answered, latest⟩ := again
  obtain rfl : answered = result := answers
  cases answered with
  | error fault =>
    refine seen_conclude ?_ (.error fault)
    split <;> exact behind.symm
  | ok done =>
    refine Prod.ext ?_ behind
    simp [seen, untimed, moveTo, Context.untimed, Phase.untimed]

theorem seen_publish (onBus : commandBus.publisher = .eventBus) (open' : world.side.bus.available = true)
    (alsoOpen : other.side.bus.available = true) (views : world.view stream = other.view stream)
    (context : Context Data) (events : List (Event Data)) :
    seen stream (dispatch.untimed.publish (commandBus.engine registry number) moment other context.untimed
        (events.map Event.untimed)) =
      seen stream (dispatch.publish (commandBus.engine registry number) moment world context events) := by
  obtain ⟨answers, behind⟩ := Deployment.publish_untimed open' alsoOpen views events
  unfold publish
  simp only [CommandBus.publish_engine onBus]
  generalize world.publish events = published at answers behind ⊢
  generalize other.publish (events.map Event.untimed) = again at answers behind ⊢
  obtain ⟨result, later⟩ := published
  obtain ⟨answered, latest⟩ := again
  obtain rfl : answered = result := answers
  cases answered with
  | error fault => exact seen_conclude behind.symm (.error fault.whilePublishing)
  | ok done => exact seen_conclude behind.symm (.ok ⟨events, context.version⟩)

/-- What a dispatch hands over is for the stream that its command is for. -/
def Addressed (stream : StreamId) (dispatch : Dispatch Data State Command) : Prop :=
  ∀ context events, dispatch.phase = .appending context events → ∀ event ∈ events, event.stream = stream

theorem seen_step (here : commandBus.target dispatch.command = stream) (onBus : commandBus.publisher = .eventBus)
    (open' : world.side.bus.available = true) (alsoOpen : other.side.bus.available = true)
    (views : world.view stream = other.view stream) (addressed : dispatch.Addressed stream) :
    seen stream (dispatch.untimed.step (commandBus.engine registry number) moment other) =
      seen stream (dispatch.step (commandBus.engine registry number) moment world) := by
  have again : dispatch.untimed.phase = dispatch.phase.untimed := rfl
  unfold step
  rw [again]
  cases phase : dispatch.phase with
  | reading => exact seen_read here views
  | deciding context state => exact seen_decide views context state
  | stamping context wall pending => exact seen_stamp views context wall pending
  | appending context events => exact seen_append views context (addressed context events phase)
  | publishing context events => exact seen_publish onBus open' alsoOpen views context events
  | pausing delay => exact Prod.ext rfl views.symm
  | finished result => exact Prod.ext dispatch.untimed_untimed views.symm

theorem deed?_untimed (here : commandBus.target dispatch.command = stream) (onBus : commandBus.publisher = .eventBus)
    (open' : world.side.bus.available = true) (alsoOpen : other.side.bus.available = true)
    (views : world.view stream = other.view stream) (addressed : dispatch.Addressed stream) :
    (dispatch.untimed.deed? (commandBus.engine registry number) other).map Deed.untimed =
      (dispatch.deed? (commandBus.engine registry number) world).map Deed.untimed := by
  have again : dispatch.untimed.phase = dispatch.phase.untimed := rfl
  unfold deed?
  rw [again]
  cases phase : dispatch.phase with
  | reading =>
    have target : (commandBus.engine registry number).target dispatch.command = stream := here
    simp only [Phase.untimed, untimed_command, target, CommandBus.history_engine]
    rcases Deployment.history_untimed registry views with ⟨fault, found, again⟩ | ⟨found, again, there, alsoThere, same⟩
    · simp only [found, again]
    · simp only [there, alsoThere]
      rw [← AggregateRegistry.lastVersion_untimed found, same, AggregateRegistry.lastVersion_untimed]
  | appending context events =>
    have answers := (Deployment.append_untimed views (addressed context events phase)).1
    simp [Phase.untimed, Deed.untimed, CommandBus.append_engine, answers, Context.untimed]
  | publishing context events =>
    have answers := (Deployment.publish_untimed open' alsoOpen views events).1
    simp [Phase.untimed, Deed.untimed, CommandBus.publish_engine onBus, answers]
  | _ => rfl

section Congruence
variable {again : Dispatch Data State Command} (same : again.untimed = dispatch.untimed)
  (here : commandBus.target dispatch.command = stream) (onBus : commandBus.publisher = .eventBus)
  (open' : world.side.bus.available = true) (alsoOpen : other.side.bus.available = true)
  (views : world.view stream = other.view stream) (addressed : dispatch.Addressed stream)
  (alsoAddressed : again.Addressed stream)
include same here onBus open' alsoOpen views addressed alsoAddressed

/-- Dispatches that are the same up to stamps take the same step, up to stamps. -/
theorem seen_step_congr : seen stream (again.step (commandBus.engine registry number) moment other) =
    seen stream (dispatch.step (commandBus.engine registry number) moment world) := by
  have alsoHere : commandBus.target again.command = stream :=
    (congrArg commandBus.target (command_congr same)).trans here
  -- both are compared with the dispatch that has no stamps, on the second deployment
  rw [← seen_step here onBus open' alsoOpen views addressed, ← same]
  exact (seen_step alsoHere onBus alsoOpen alsoOpen rfl alsoAddressed).symm

theorem deed?_congr : (again.deed? (commandBus.engine registry number) other).map Deed.untimed =
    (dispatch.deed? (commandBus.engine registry number) world).map Deed.untimed := by
  have alsoHere : commandBus.target again.command = stream :=
    (congrArg commandBus.target (command_congr same)).trans here
  rw [← deed?_untimed here onBus open' alsoOpen views addressed, ← same]
  exact (deed?_untimed alsoHere onBus alsoOpen alsoOpen rfl alsoAddressed).symm

end Congruence

end Dispatch

theorem DispatchStep.records_elsewhere {store later : EventStore} {next : Dispatch Data State Command}
    {deed? : Option (Deed Data)} (dispatchStep : DispatchStep registry commandBus store dispatch deed? next later)
    {target : StreamId} (addressed : dispatch.Addressed target) (elsewhere : target ≠ stream) :
    later.records stream = store.records stream := by
  cases dispatchStep with
  | @stored context events later phase stores =>
    refine EventStore.append_elsewhere stores fun event member => ?_
    rw [addressed context events phase event member]
    exact elsewhere
  | _ => rfl

theorem Traffic.Sound.addressed {start : EventStore} {traffic : Traffic Data Handlers State Command}
    (sound : traffic.Sound registry start) {index : Nat} {task : Task Data Handlers State Command}
    (found : traffic.tasks[index]? = some task) :
    task.dispatch.Addressed (task.commandBus.target task.dispatch.command) := by
  intro context events phase event member
  have fits := sound.fits index task found
  rw [phase] at fits
  exact fits.1.stream_eq member

end Inventory
