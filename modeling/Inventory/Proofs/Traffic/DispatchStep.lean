import Inventory.Proofs.Traffic
import Mathlib.Tactic.Common

/-! What one step of a dispatch can do. Each kind of step is listed with everything that it depends on and
everything that it changes in the dispatch and in the store, so that an invariant is shown kind by kind and
never from the steps themselves. -/
namespace Inventory
variable {World Data Handlers State Command : Type}

namespace Dispatch

/-- Where an attempt leaves its dispatch: at the end, or in a pause before the next one. -/
def ended (dispatch : Dispatch Data State Command) (policy : Retry.Policy)
    (result : Except Fault (Committed Data)) : Dispatch Data State Command :=
  match policy.outcome? Fault.isTransient dispatch.attempt result with
  | none => dispatch.moveTo (.pausing dispatch.delay)
  | some _ => dispatch.moveTo (.finished result)

theorem conclude_fst (dispatch : Dispatch Data State Command)
    (engine : Engine World Data State Command) (moment : Moment) (world : World)
    (result : Except Fault (Committed Data)) :
    (dispatch.conclude engine moment world result).1 = dispatch.ended engine.retry result := by
  unfold conclude ended
  cases engine.retry.outcome? Fault.isTransient dispatch.attempt result <;> rfl

/-- Only a conflict is followed by a pause, and only while the budget lasts. -/
theorem ended_cases (dispatch : Dispatch Data State Command) (policy : Retry.Policy) (fault : Fault) :
    dispatch.ended policy (.error fault) = dispatch.moveTo (.finished (.error fault)) ∨
      (fault.isConflict = true ∧ dispatch.attempt < policy.maxAttempts ∧
        dispatch.ended policy (.error fault) = dispatch.moveTo (.pausing dispatch.delay)) := by
  unfold ended
  cases again : policy.outcome? Fault.isTransient dispatch.attempt
      (.error fault : Except Fault (Committed Data)) with
  | some outcome => exact .inl rfl
  | none =>
    have budget := Retry.Policy.lt_of_outcome?_none again
    have conflict : fault.isConflict = true := by
      by_contra other
      simp [Retry.Policy.outcome?, Fault.isTransient, Bool.eq_false_iff.mpr other] at again
    exact .inr ⟨conflict, budget, rfl⟩

theorem ended_whilePublishing (dispatch : Dispatch Data State Command) (policy : Retry.Policy)
    (fault : Fault) :
    dispatch.ended policy (.error fault.whilePublishing) =
      dispatch.moveTo (.finished (.error fault.whilePublishing)) := by
  rcases dispatch.ended_cases policy fault.whilePublishing with finished | ⟨conflict, _⟩
  · exact finished
  · cases fault <;> simp [Fault.whilePublishing, Fault.isPublish, Fault.isConflict] at conflict

variable [Payload Data]

/-- A step that notes no publication makes none: with any other publisher it is the same. -/
theorem step_unpublished (dispatch : Dispatch Data State Command)
    (engine : Engine World Data State Command) (moment : Moment) (world : World)
    (publish : World → List (Event Data) → Except Fault Unit × World)
    (unnoted : ∀ events answer, dispatch.deed? engine world ≠ some (.published events answer)) :
    dispatch.step { engine with backend := { engine.backend with publish } } moment world =
      dispatch.step engine moment world := by
  cases phase : dispatch.phase with
  | publishing context events =>
    rw [deed?, phase] at unnoted
    exact absurd rfl (unnoted events _)
  | _ => simp only [step, phase] <;> rfl

def answered (context : Context Data) (events : List (Event Data)) : Except Fault Unit → Except Fault (Committed Data)
  | .ok () => .ok ⟨events, context.version⟩
  | .error fault => .error fault.whilePublishing

theorem step_publishing {dispatch : Dispatch Data State Command} {context : Context Data}
    {events : List (Event Data)} (phase : dispatch.phase = .publishing context events)
    (engine : Engine World Data State Command) (moment : Moment) (world : World) :
    let called := engine.backend.publish world events
    dispatch.step engine moment world =
      dispatch.conclude engine moment called.2 (answered context events called.1) := by
  simp only [step, phase, publish]
  cases engine.backend.publish world events with
  | mk answer later => cases answer <;> rfl

/-- A publication is noted just where the publisher is called with the events. What is noted is its answer, which the
dispatch ends with, and the world is as it leaves it, but for what is counted at the end. -/
theorem deed?_eq_published (dispatch : Dispatch Data State Command) (engine : Engine World Data State Command)
    (moment : Moment) (world : World) {events : List (Event Data)} {answer : Except Fault Unit} :
    dispatch.deed? engine world = some (.published events answer) ↔ ∃ context later,
      dispatch.phase = .publishing context events ∧ engine.backend.publish world events = (answer, later) ∧
        dispatch.step engine moment world =
          dispatch.conclude engine moment later (answered context events answer) := by
  constructor
  · intro does
    unfold deed? at does
    split at does
    · split at does <;> cases does
    · cases does
    next context published phase =>
      cases does
      exact ⟨context, _, phase, rfl, step_publishing phase engine moment world⟩
    · cases does
    · cases does
    · cases does
    · cases does
  · rintro ⟨context, later, phase, called, _⟩
    rw [deed?, phase]
    exact congrArg (fun answer => some (Deed.published events answer.1)) called

end Dispatch

variable [Payload Data]

/-- The kinds of steps: the dispatch and the store before a step, what it does, and both behind it. -/
inductive DispatchStep (registry : EventRegistry Data) (commandBus : CommandBus Data Handlers State Command)
    (store : EventStore) :
    Dispatch Data State Command → Option (Deed Data) → Dispatch Data State Command → EventStore → Prop
  | unread {dispatch fault} (phase : dispatch.phase = .reading)
      (failed : store.history registry (commandBus.target dispatch.command) = .error fault) :
      DispatchStep registry commandBus store dispatch none (dispatch.ended commandBus.retry (.error fault)) store
  | unloaded {dispatch history fault} (phase : dispatch.phase = .reading)
      (found : store.history registry (commandBus.target dispatch.command) = .ok history)
      (failed : (commandBus.aggregates dispatch.attempt).load (commandBus.rules dispatch.attempt)
        (commandBus.target dispatch.command) history = .error fault) :
      DispatchStep registry commandBus store dispatch (some (.read (AggregateRegistry.lastVersion history)))
        (dispatch.ended commandBus.retry (.error fault)) store
  | loaded {dispatch history context state} (phase : dispatch.phase = .reading)
      (found : store.history registry (commandBus.target dispatch.command) = .ok history)
      (loads : (commandBus.aggregates dispatch.attempt).load (commandBus.rules dispatch.attempt)
        (commandBus.target dispatch.command) history = .ok (context, state)) :
      DispatchStep registry commandBus store dispatch (some (.read (AggregateRegistry.lastVersion history)))
        (dispatch.moveTo (.deciding context state)) store
  | undecided {dispatch context state fault} (phase : dispatch.phase = .deciding context state)
      (failed : (commandBus.rules dispatch.attempt).decide state context dispatch.command = .error fault) :
      DispatchStep registry commandBus store dispatch none (dispatch.ended commandBus.retry (.error fault)) store
  | idle {dispatch context state} (phase : dispatch.phase = .deciding context state)
      (nothing : (commandBus.rules dispatch.attempt).decide state context dispatch.command = .ok []) :
      DispatchStep registry commandBus store dispatch none
        (dispatch.moveTo (.finished (.ok ⟨[], context.version⟩))) store
  | decided {dispatch context state first rest} (phase : dispatch.phase = .deciding context state)
      (decides : (commandBus.rules dispatch.attempt).decide state context dispatch.command = .ok (first :: rest)) :
      DispatchStep registry commandBus store dispatch none
        (dispatch.moveTo (.stamping context none (first :: rest))) store
  | looked {dispatch context pending} (wall : Int)
      (phase : dispatch.phase = .stamping context none pending) :
      DispatchStep registry commandBus store dispatch none
        (dispatch.moveTo (.stamping context (some wall) pending)) store
  | stamped {dispatch context reading first rest} (time : Int)
      (phase : dispatch.phase = .stamping context (some reading) (first :: rest)) :
      DispatchStep registry commandBus store dispatch none
        (dispatch.moveTo (.stamping (context.record first time) none rest)) store
  | taken {dispatch context reading} (phase : dispatch.phase = .stamping context reading []) :
      DispatchStep registry commandBus store dispatch none
        (dispatch.moveTo (.appending { context with uncommitted := [] } context.uncommitted)) store
  | refused {dispatch context events fault} (phase : dispatch.phase = .appending context events)
      (failed : store.append events = .error fault) :
      DispatchStep registry commandBus store dispatch
        (some (.appended context.initialVersion events (.error fault)))
        (dispatch.ended commandBus.retry (.error fault)) store
  | stored {dispatch context events later} (phase : dispatch.phase = .appending context events)
      (stores : store.append events = .ok later) :
      DispatchStep registry commandBus store dispatch (some (.appended context.initialVersion events (.ok ())))
        (dispatch.moveTo (.publishing context events)) later
  | unpublished {dispatch context events} (fault : Fault)
      (phase : dispatch.phase = .publishing context events) :
      DispatchStep registry commandBus store dispatch (some (.published events (.error fault)))
        (dispatch.moveTo (.finished (.error fault.whilePublishing))) store
  | published {dispatch context events} (phase : dispatch.phase = .publishing context events) :
      DispatchStep registry commandBus store dispatch (some (.published events (.ok ())))
        (dispatch.moveTo (.finished (.ok ⟨events, context.version⟩))) store
  | resumed {dispatch pause} (delay : Duration) (phase : dispatch.phase = .pausing pause) :
      DispatchStep registry commandBus store dispatch none
        { dispatch with attempt := dispatch.attempt + 1, delay, phase := .reading } store
  | rested {dispatch result} (phase : dispatch.phase = .finished result) :
      DispatchStep registry commandBus store dispatch none dispatch store

theorem conclude_store (commandBus : CommandBus Data Handlers State Command) (registry : EventRegistry Data)
    (number : Nat) (dispatch : Dispatch Data State Command) (moment : Moment) (world : Deployment Data Handlers)
    (result : Except Fault (Committed Data)) :
    (dispatch.conclude (commandBus.engine registry number) moment world result).2.store = world.store := by
  unfold Dispatch.conclude
  split <;> rfl

theorem dispatchStep_step (commandBus : CommandBus Data Handlers State Command) (registry : EventRegistry Data)
    (dispatch : Dispatch Data State Command) (moment : Moment) (world : Deployment Data Handlers) :
    let engine := commandBus.engine registry dispatch.attempt
    DispatchStep registry commandBus world.store dispatch (dispatch.deed? engine world)
      (dispatch.step engine moment world).1 (dispatch.step engine moment world).2.store := by
  intro engine
  have kept (world : Deployment Data Handlers) (result : Except Fault (Committed Data)) :
      (dispatch.conclude engine moment world result).2.store = world.store :=
    conclude_store ..
  cases phase : dispatch.phase with
  | reading =>
    simp only [Dispatch.step, phase, Dispatch.deed?, Dispatch.read]
    cases found : engine.backend.history world
        (engine.target dispatch.command) with
    | error fault =>
      simp only [Dispatch.conclude_fst, kept]
      exact .unread phase found
    | ok history =>
      dsimp only
      cases loads : engine.aggregates.load engine.rules
          (engine.target dispatch.command) history with
      | error fault =>
        simp only [Dispatch.conclude_fst, kept]
        exact .unloaded phase found loads
      | ok loaded =>
        obtain ⟨context, state⟩ := loaded
        exact .loaded phase found loads
  | deciding context state =>
    simp only [Dispatch.step, phase, Dispatch.deed?, Dispatch.decide]
    cases decides : engine.rules.decide state context dispatch.command with
    | error fault =>
      simp only [Dispatch.conclude_fst, kept]
      exact .undecided phase decides
    | ok payloads =>
      cases payloads with
      | nil =>
        simp only [Dispatch.conclude_fst, kept]
        exact .idle phase decides
      | cons first rest => exact .decided phase decides
  | stamping context reading pending =>
    simp only [Dispatch.step, phase, Dispatch.deed?]
    cases pending with
    | nil => exact .taken phase
    | cons first rest =>
      cases reading with
      | none => exact .looked moment.wall phase
      | some reading => exact .stamped _ phase
  | appending context events =>
    simp only [Dispatch.step, phase, Dispatch.deed?, Dispatch.append]
    cases stores : world.store.append events with
    | error fault =>
      have answer : engine.backend.append world events = (.error fault, world) := by
        change Deployment.append world events = _
        simp only [Deployment.append, stores]
      simp only [answer, Dispatch.conclude_fst, kept]
      have same : (if fault.isConflict = true then engine.backend.count world
          fun metrics => metrics.countConflict
            (Dispatch.aggregateName engine dispatch.command)
          else world).store = world.store := by
        split <;> rfl
      rw [same]
      exact .refused phase stores
    | ok later =>
      have answer : engine.backend.append world events =
          (.ok (), { world with store := later }) := by
        change Deployment.append world events = _
        simp only [Deployment.append, stores]
      simp only [answer]
      exact .stored phase stores
  | publishing context events =>
    simp only [Dispatch.step_publishing phase, phase, Dispatch.deed?, Dispatch.conclude_fst, kept]
    have same : (engine.backend.publish world events).2.store = world.store :=
      commandBus.publisher.store_publish world events
    rw [same]
    cases (engine.backend.publish world events).1 with
    | error fault =>
      rw [Dispatch.answered, Dispatch.ended_whilePublishing]
      exact .unpublished fault phase
    | ok done => exact .published phase
  | pausing pause =>
    simp only [Dispatch.step, phase, Dispatch.deed?]
    exact .resumed _ phase
  | finished result =>
    simp only [Dispatch.step, phase, Dispatch.deed?]
    exact .rested phase

end Inventory
