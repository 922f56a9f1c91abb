import Inventory.Proofs.Traffic.DispatchStep
import Inventory.Proofs.Aggregate
import Inventory.Proofs.EventStore

/-! A dispatch that nothing comes in between. What a step keeps holds at the end of the attempt, so a command
whose decision is known, and whose events the store would take in, is committed with exactly that decision. -/
namespace Inventory
variable {World Data Handlers State Command : Type} [Payload Data]

namespace Dispatch

/-- What every step keeps holds where the attempt comes to rest. -/
theorem advance_invariant (engine : Engine World Data State Command) (moment : Moment)
    (holds : Dispatch Data State Command → World → Prop)
    (kept : ∀ dispatch world, holds dispatch world →
      holds (dispatch.step engine moment world).1 (dispatch.step engine moment world).2)
    (dispatch : Dispatch Data State Command) (world : World) (begins : holds dispatch world) :
    holds (dispatch.advance engine moment world).1 (dispatch.advance engine moment world).2 ∧
      (dispatch.advance engine moment world).1.phase.isAtRest = true := by
  induction dispatch, world using advance.induct engine moment with
  | case1 dispatch world atRest =>
    rw [advance]
    split
    · exact ⟨begins, atRest⟩
    next underway =>
      rw [atRest] at underway
      cases underway
  | case2 dispatch world underway nearer ih =>
    rw [advance]
    split
    next atRest =>
      rw [underway] at atRest
      cases atRest
    next => exact ih (kept dispatch world begins)

end Dispatch

/-- How far a command with a known decision has come, given the store before it and the store as it is. -/
def Phase.OnCourse (before : EventStore) (stream : StreamId) (base : Nat) (state : State)
    (payloads : List Data) (store : EventStore) : Phase Data State → Prop
  | .reading => store = before
  | .deciding context loaded => store = before ∧ context = .start stream base ∧ loaded = state
  | .stamping context _ pending =>
      store = before ∧ context.Recorded stream ∧ context.initialVersion = base ∧
        context.uncommitted.map Event.data ++ pending = payloads
  | .appending _ events =>
      store = before ∧ Event.Stamped stream base events ∧ events.map Event.data = payloads
  | .publishing _ events =>
      Event.Stamped stream base events ∧ events.map Event.data = payloads ∧ before.append events = .ok store
  | .pausing _ => False
  | .finished _ =>
      ∃ events, Event.Stamped stream base events ∧ events.map Event.data = payloads ∧
        before.append events = .ok store

theorem DispatchStep.onCourse {registry : EventRegistry Data} {commandBus : CommandBus Data Handlers State Command}
    {before store later : EventStore} {dispatch next : Dispatch Data State Command}
    {deed? : Option (Deed Data)} (dispatchStep : DispatchStep registry commandBus store dispatch deed? next later)
    {history : List (Event Data)} {base : Nat} {state : State} {payloads : List Data}
    (found : before.history registry (commandBus.target dispatch.command) = .ok history)
    (loads : (commandBus.aggregates dispatch.attempt).load (commandBus.rules dispatch.attempt)
      (commandBus.target dispatch.command) history = .ok (.start (commandBus.target dispatch.command) base, state))
    (decides : (commandBus.rules dispatch.attempt).decide state (.start (commandBus.target dispatch.command) base)
      dispatch.command = .ok payloads)
    (nonempty : payloads ≠ [])
    (taken : ∀ events, Event.Stamped (commandBus.target dispatch.command) base events →
      events.map Event.data = payloads → ∃ behind, before.append events = .ok behind)
    (course : dispatch.phase.OnCourse before (commandBus.target dispatch.command) base state payloads store) :
    next.command = dispatch.command ∧
      next.phase.OnCourse before (commandBus.target dispatch.command) base state payloads later := by
  cases dispatchStep with
  | unread phase failed =>
    rw [phase] at course
    rw [course, found] at failed
    cases failed
  | unloaded phase others failed =>
    rw [phase] at course
    rw [course, found] at others
    cases others
    rw [loads] at failed
    cases failed
  | loaded phase others otherLoads =>
    rw [phase] at course
    rw [course, found] at others
    cases others
    rw [loads] at otherLoads
    cases otherLoads
    exact ⟨rfl, course, rfl, rfl⟩
  | undecided phase failed =>
    rw [phase] at course
    obtain ⟨rfl, rfl, rfl⟩ := course
    rw [decides] at failed
    cases failed
  | idle phase nothing =>
    rw [phase] at course
    obtain ⟨rfl, rfl, rfl⟩ := course
    rw [decides] at nothing
    cases nothing
    exact absurd rfl nonempty
  | decided phase otherDecides =>
    rw [phase] at course
    obtain ⟨rfl, rfl, rfl⟩ := course
    rw [decides] at otherDecides
    cases otherDecides
    exact ⟨rfl, rfl, ⟨rfl, trivial, rfl⟩, rfl, rfl⟩
  | looked wall phase =>
    rw [phase] at course
    exact ⟨rfl, course⟩
  | @stamped context reading first rest time phase =>
    rw [phase] at course
    obtain ⟨same, recorded, initial, whole⟩ := course
    refine ⟨rfl, same, recorded.record first time, initial, ?_⟩
    rw [← whole]
    simp [Context.record, Context.next, Event.of]
  | taken phase =>
    rw [phase] at course
    obtain ⟨same, recorded, rfl, whole⟩ := course
    rw [List.append_nil] at whole
    exact ⟨rfl, same, recorded.stamped, whole⟩
  | refused phase failed =>
    rw [phase] at course
    obtain ⟨rfl, stamped, whole⟩ := course
    obtain ⟨behind, stores⟩ := taken _ stamped whole
    rw [stores] at failed
    cases failed
  | stored phase stores =>
    rw [phase] at course
    obtain ⟨rfl, stamped, whole⟩ := course
    exact ⟨rfl, stamped, whole, stores⟩
  | unpublished fault phase =>
    rw [phase] at course
    exact ⟨rfl, _, course⟩
  | published phase =>
    rw [phase] at course
    exact ⟨rfl, _, course⟩
  | resumed delay phase =>
    rw [phase] at course
    exact course.elim
  | rested phase => exact ⟨rfl, course⟩

/-- The command bus where every attempt finds what the one of this number does. -/
def CommandBus.settled (commandBus : CommandBus Data Handlers State Command) (number : Nat) :
    CommandBus Data Handlers State Command :=
  { commandBus with
    aggregates := fun _ => commandBus.aggregates number
    rules := fun _ => commandBus.rules number }

/-- A command whose decision is known is committed with it, whatever its publisher answers. -/
theorem CommandBus.advance_commits (commandBus : CommandBus Data Handlers State Command) (number : Nat)
    {registry : EventRegistry Data} {world : Deployment Data Handlers} (moment : Moment)
    {command : Command} {history : List (Event Data)} {base : Nat} {state : State} {payloads : List Data}
    (found : world.store.history registry (commandBus.target command) = .ok history)
    (loads : (commandBus.aggregates number).load (commandBus.rules number) (commandBus.target command) history =
      .ok (.start (commandBus.target command) base, state))
    (decides : (commandBus.rules number).decide state (.start (commandBus.target command) base) command = .ok payloads)
    (nonempty : payloads ≠ [])
    (taken : ∀ events, Event.Stamped (commandBus.target command) base events →
      events.map Event.data = payloads → ∃ behind, world.store.append events = .ok behind) :
    ∃ events, Event.Stamped (commandBus.target command) base events ∧ events.map Event.data = payloads ∧
      world.store.append events = .ok ((Dispatch.start (commandBus.engine registry number) moment command).advance
        (commandBus.engine registry number) moment world).2.store := by
  have kept (dispatch : Dispatch Data State Command) (later : Deployment Data Handlers)
      (holds : dispatch.command = command ∧
        dispatch.phase.OnCourse world.store (commandBus.target command) base state payloads later.store) :
      (dispatch.step (commandBus.engine registry number) moment later).1.command = command ∧
        (dispatch.step (commandBus.engine registry number) moment later).1.phase.OnCourse world.store
          (commandBus.target command) base state payloads
          (dispatch.step (commandBus.engine registry number) moment later).2.store := by
    obtain ⟨rfl, course⟩ := holds
    have dispatchStep := dispatchStep_step (commandBus.settled number) registry dispatch moment later
    exact dispatchStep.onCourse found loads decides nonempty taken course
  obtain ⟨⟨_, course⟩, atRest⟩ := Dispatch.advance_invariant (commandBus.engine registry number) moment _ kept
    (Dispatch.start (commandBus.engine registry number) moment command) world ⟨rfl, rfl⟩
  generalize (Dispatch.start (commandBus.engine registry number) moment command).advance
    (commandBus.engine registry number) moment world = final at course atRest
  cases phase : final.1.phase with
  | finished result =>
    rw [phase] at course
    exact course
  | pausing delay =>
    rw [phase] at course
    exact course.elim
  | _ =>
    rw [phase] at atRest
    cases atRest

end Inventory
