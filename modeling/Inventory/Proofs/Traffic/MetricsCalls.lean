import Inventory.Proofs.Metrics
import Inventory.Proofs.Traffic.Broadcast
import Inventory.Proofs.Traffic.Budget

/-! What a step of a dispatch counts. Whatever is counted has its place in what is known of the dispatch and in the
journal: each attempt but the first follows a conflict and is a retry, a dispatch that has ended was counted once with
its outcome, and what is counted as stored or published was noted in the journal. -/
namespace Inventory
variable {Data Handlers State Command : Type}

def Deed.metricsCalls (aggregateType : String) : Deed Data → List MetricsCall
  | .appended _ events (.ok ()) => [.stored aggregateType events.length]
  | .appended _ _ (.error fault) => if fault.isConflict then [.conflict aggregateType] else []
  | .published events (.ok ()) => [.ofBatch events]
  | .published _ (.error _) | .read _ => []

def Phase.metricsCalls (aggregateType : String) (seconds : Float) : Phase Data State → List MetricsCall
  | .finished result => [.dispatched aggregateType (Dispatch.label result) seconds]
  | _ => []

def Dispatch.metricsCalls (dispatch : Dispatch Data State Command) (deed? : Option (Deed Data))
    (next : Phase Data State) (aggregateType : String) (seconds : Float) : List MetricsCall :=
  match dispatch.phase with
  | .finished _ => []
  | .pausing _ => [.retry operation]
  | _ => deed?.elim [] (Deed.metricsCalls aggregateType) ++ next.metricsCalls aggregateType seconds

def Deed.units (aggregateType : String) : Deed Data → Units
  | .appended _ events (.ok ()) => (MetricsCall.stored aggregateType events.length).units
  | .published events (.ok ()) => (MetricsCall.ofBatch events).units
  | .appended _ _ (.error _) | .published _ (.error _) | .read _ => 0

namespace Dispatch

def conflictUnits (aggregateType : String) : Units :=
  (MetricsCall.conflict aggregateType).units

/-- A conflict that another attempt follows. -/
def retryUnits (aggregateType : String) : Units :=
  conflictUnits aggregateType + (MetricsCall.retry operation).units

def endUnits (aggregateType : String) (result : Except Fault (Committed Data)) : Units :=
  if label result = "conflict" then conflictUnits aggregateType else 0

end Dispatch

def Phase.units (aggregateType : String) : Phase Data State → Units
  | .pausing _ => Dispatch.conflictUnits aggregateType
  | .finished result =>
      Dispatch.endUnits aggregateType result + (MetricsCall.dispatched aggregateType (Dispatch.label result) 0).units
  | _ => 0

/-- What was counted of a dispatch, besides its batches. -/
def Dispatch.units (dispatch : Dispatch Data State Command) (aggregateType : String) : Units :=
  (dispatch.attempt - 1) • Dispatch.retryUnits aggregateType + dispatch.phase.units aggregateType

namespace Dispatch

theorem label_eq_conflict {result : Except Fault (Committed Data)} :
    label result = "conflict" ↔ ∃ fault, result = .error fault ∧ fault.isConflict = true := by
  cases result with
  | ok committed => simp [label]
  | error fault =>
    cases fault <;>
      simp [label, Fault.isRejected, Fault.isConflict, Fault.isConfiguration, Fault.isPublish]

theorem endUnits_ok (aggregateType : String) (committed : Committed Data) :
    endUnits aggregateType (.ok committed) = 0 :=
  if_neg (by simp [label])

theorem endUnits_error {fault : Fault} (other : fault.isConflict = false) (aggregateType : String) :
    endUnits aggregateType (.error fault : Except Fault (Committed Data)) = 0 := by
  refine if_neg fun conflict => ?_
  obtain ⟨raised, same, holds⟩ := label_eq_conflict.mp conflict
  cases same
  rw [holds] at other
  cases other

/-- Where an attempt ends, the conflict that it ends with is counted, and the dispatch if no other attempt follows. -/
theorem units_ended (dispatch : Dispatch Data State Command) (policy : Retry.Policy)
    (result : Except Fault (Committed Data)) (aggregateType : String) (seconds : Float) :
    (dispatch.ended policy result).units aggregateType =
      (dispatch.attempt - 1) • retryUnits aggregateType + (endUnits aggregateType result +
        (((dispatch.ended policy result).phase.metricsCalls aggregateType seconds).map MetricsCall.units).sum) := by
  have finished :
      (((dispatch.moveTo (.finished result)).phase.metricsCalls aggregateType seconds).map MetricsCall.units).sum =
      (MetricsCall.dispatched aggregateType (label result) 0).units :=
    (add_zero _).trans (MetricsCall.units_dispatched ..)
  cases result with
  | ok committed =>
    change _ = _ + (_ + (((dispatch.moveTo _).phase.metricsCalls _ _).map MetricsCall.units).sum)
    rw [finished]
    rfl
  | error fault =>
    rcases dispatch.ended_cases policy fault with last | ⟨conflict, _, pausing⟩
    · rw [last, finished]
      rfl
    · rw [pausing, endUnits, if_pos (label_eq_conflict.mpr ⟨fault, rfl, conflict⟩)]
      exact congrArg _ (add_zero (conflictUnits aggregateType)).symm

end Dispatch

namespace Phase

theorem units_of_underway {phase : Phase Data State} (underway : phase.isAtRest = false) (aggregateType : String) :
    phase.units aggregateType = 0 := by
  cases phase <;> first | rfl | cases underway

theorem metricsCalls_of_underway {phase : Phase Data State} (underway : phase.isAtRest = false) (aggregateType : String)
    (seconds : Float) : phase.metricsCalls aggregateType seconds = [] := by
  cases phase <;> first | rfl | cases underway

end Phase

namespace Dispatch

/-- The step that leads from a dispatch to the next one counts what comes to the dispatch and to the journal. -/
def Accounts (dispatch next : Dispatch Data State Command) (deed? : Option (Deed Data)) : Prop :=
  ∀ aggregateType seconds, next.units aggregateType + deed?.elim 0 (Deed.units aggregateType) =
    dispatch.units aggregateType + ((dispatch.metricsCalls deed? next.phase aggregateType seconds).map
      MetricsCall.units).sum

variable {dispatch next : Dispatch Data State Command} {deed? : Option (Deed Data)}

theorem accounts_underway (underway : dispatch.phase.isAtRest = false) {more : String → Units}
    (after : ∀ aggregateType seconds, next.units aggregateType =
      (dispatch.attempt - 1) • retryUnits aggregateType +
        (more aggregateType + ((next.phase.metricsCalls aggregateType seconds).map MetricsCall.units).sum))
    (balanced : ∀ aggregateType, more aggregateType + deed?.elim 0 (Deed.units aggregateType) =
      ((deed?.elim [] (Deed.metricsCalls aggregateType)).map MetricsCall.units).sum) :
    dispatch.Accounts next deed? := by
  intro aggregateType seconds
  have metricsCalls : dispatch.metricsCalls deed? next.phase aggregateType seconds =
      deed?.elim [] (Deed.metricsCalls aggregateType) ++ next.phase.metricsCalls aggregateType seconds := by
    unfold Dispatch.metricsCalls
    split
    next phase => rw [phase] at underway; cases underway
    next phase => rw [phase] at underway; cases underway
    next => rfl
  rw [metricsCalls, after aggregateType seconds, units, Phase.units_of_underway underway, List.map_append,
    List.sum_append,
    ← balanced aggregateType]
  abel

theorem accounts_ended (underway : dispatch.phase.isAtRest = false) (policy : Retry.Policy)
    {result : Except Fault (Committed Data)}
    (balanced : ∀ aggregateType, endUnits aggregateType result + deed?.elim 0 (Deed.units aggregateType) =
      ((deed?.elim [] (Deed.metricsCalls aggregateType)).map MetricsCall.units).sum) :
    dispatch.Accounts (dispatch.ended policy result) deed? :=
  accounts_underway underway (dispatch.units_ended policy result) balanced

theorem accounts_moveTo (underway : dispatch.phase.isAtRest = false) {phase : Phase Data State}
    (still : phase.isAtRest = false)
    (balanced : ∀ aggregateType, 0 + deed?.elim 0 (Deed.units aggregateType) =
      ((deed?.elim [] (Deed.metricsCalls aggregateType)).map MetricsCall.units).sum) :
    dispatch.Accounts (dispatch.moveTo phase) deed? := by
  refine accounts_underway underway (fun aggregateType seconds => ?_) balanced
  rw [units, moveTo, Phase.units_of_underway still, Phase.metricsCalls_of_underway still]
  rfl

end Dispatch

variable [Payload Data]

theorem DispatchStep.accounts {registry : EventRegistry Data} {commandBus : CommandBus Data Handlers State Command}
    {store later : EventStore} {dispatch next : Dispatch Data State Command} {deed? : Option (Deed Data)}
    (dispatchStep : DispatchStep registry commandBus store dispatch deed? next later)
    (undisputed : commandBus.Undisputed)
    (positive : 0 < dispatch.attempt) : dispatch.Accounts next deed? := by
  have silent (aggregateType : String) : (0 : Units) + 0 = (([] : List MetricsCall).map MetricsCall.units).sum :=
    add_zero 0
  have single (metricsCall : MetricsCall) : 0 + metricsCall.units = ([metricsCall].map MetricsCall.units).sum :=
    add_comm ..
  cases dispatchStep with
  | @unread fault phase failed =>
    refine Dispatch.accounts_ended (by rw [phase]; rfl) commandBus.retry fun aggregateType => ?_
    rw [Dispatch.endUnits_error (EventRegistry.decodeRecords_fault failed).1]
    exact silent aggregateType
  | @unloaded history fault phase found failed =>
    have other : fault.isConflict = false := by
      rcases AggregateRegistry.load_eq_error failed with ⟨_, rfl⟩ | ⟨state, data, raised⟩
      · rfl
      · exact undisputed.apply _ state data _ raised
    refine Dispatch.accounts_ended (by rw [phase]; rfl) commandBus.retry fun aggregateType => ?_
    rw [Dispatch.endUnits_error other]
    exact silent aggregateType
  | undecided phase failed =>
    have other := undisputed.decide _ _ _ _ _ failed
    refine Dispatch.accounts_ended (by rw [phase]; rfl) commandBus.retry fun aggregateType => ?_
    rw [Dispatch.endUnits_error other]
    exact silent aggregateType
  | @idle context state phase nothing =>
    change dispatch.Accounts (dispatch.ended commandBus.retry (.ok ⟨[], context.version⟩)) none
    refine Dispatch.accounts_ended (by rw [phase]; rfl) commandBus.retry fun aggregateType => ?_
    rw [Dispatch.endUnits_ok]
    exact silent aggregateType
  | loaded phase | decided phase | looked _ phase | stamped _ phase | taken phase =>
    exact Dispatch.accounts_moveTo (by rw [phase]; rfl) rfl silent
  | @refused context events fault phase failed =>
    refine Dispatch.accounts_ended (by rw [phase]; rfl) commandBus.retry fun aggregateType => ?_
    by_cases conflict : fault.isConflict = true
    · rw [Dispatch.endUnits, if_pos (Dispatch.label_eq_conflict.mpr ⟨fault, rfl, conflict⟩)]
      simp [Deed.units, Deed.metricsCalls, conflict]
      rfl
    · rw [Dispatch.endUnits_error (Bool.eq_false_iff.mpr conflict)]
      simp [Deed.units, Deed.metricsCalls, conflict]
  | stored phase stores => exact Dispatch.accounts_moveTo (by rw [phase]; rfl) rfl fun aggregateType => single _
  | unpublished fault phase =>
    have other : fault.whilePublishing.isConflict = false := by cases fault <;> rfl
    rw [← Dispatch.ended_whilePublishing]
    refine Dispatch.accounts_ended (by rw [phase]; rfl) commandBus.retry fun aggregateType => ?_
    rw [Dispatch.endUnits_error other]
    exact silent aggregateType
  | @published context events phase =>
    change dispatch.Accounts (dispatch.ended commandBus.retry (.ok ⟨events, context.version⟩)) _
    refine Dispatch.accounts_ended (by rw [phase]; rfl) commandBus.retry fun aggregateType => ?_
    rw [Dispatch.endUnits_ok]
    exact single (.ofBatch events)
  | resumed delay phase =>
    -- the conflict that the pause was owed to belongs to the attempts behind from now on
    intro aggregateType seconds
    have attempt : dispatch.attempt + 1 - 1 = dispatch.attempt - 1 + 1 := by omega
    simp only [Dispatch.units, Dispatch.metricsCalls, phase, Phase.units, attempt, succ_nsmul, Dispatch.retryUnits]
    simp
    abel
  | rested phase =>
    intro aggregateType seconds
    rw [Dispatch.metricsCalls, phase]
    rfl

theorem Deployment.publish_metrics (deployment : Deployment Data Handlers) (events : List (Event Data))
    (aggregateType : String) :
    (deployment.publish events).2.side.metrics =
      MetricsCall.countAll deployment.side.metrics
        (Deed.metricsCalls aggregateType (.published events (deployment.publish events).1)) := by
  unfold publish
  cases deployment.side.bus.publish events with
  | error fault => exact (MetricsCall.countAll_nil _).symm
  | ok bus =>
    dsimp only [Deed.metricsCalls, MetricsCall.countAll]
    split
    next empty =>
      rw [List.isEmpty_iff.mp empty]
      exact (Option.map_id' ..).symm
    next =>
      refine Option.map_congr fun metrics _ => ?_
      exact (MetricsCall.count_ofBatch metrics events).symm

namespace Dispatch
variable {registry : EventRegistry Data} {commandBus : CommandBus Data Handlers State Command}

def secondsUntil (dispatch : Dispatch Data State Command) (moment : Moment) : Float :=
  (moment.elapsed.since dispatch.started).inSeconds

theorem conclude_metrics (dispatch : Dispatch Data State Command) (number : Nat) (moment : Moment)
    (world : Deployment Data Handlers) (result : Except Fault (Committed Data)) :
    let next := dispatch.conclude (commandBus.engine registry number) moment world result
    next.2.side.metrics = MetricsCall.countAll world.side.metrics
      (next.1.phase.metricsCalls (commandBus.target dispatch.command).aggregateType.text
        (dispatch.secondsUntil moment)) := by
  intro next
  simp only [next, conclude]
  split
  · exact (MetricsCall.countAll_nil _).symm
  · rfl

theorem step_metrics (registry : EventRegistry Data) (onBus : commandBus.publisher = .eventBus)
    (dispatch : Dispatch Data State Command) (moment : Moment) (world : Deployment Data Handlers) :
    let engine := commandBus.engine registry dispatch.attempt
    let next := dispatch.step engine moment world
    next.2.side.metrics = MetricsCall.countAll world.side.metrics
      (dispatch.metricsCalls (dispatch.deed? engine world) next.1.phase
        (commandBus.target dispatch.command).aggregateType.text
        (dispatch.secondsUntil moment)) := by
  intro engine next
  have silent (metrics? : Option Metrics) : metrics? = MetricsCall.countAll metrics? [] :=
    (MetricsCall.countAll_nil metrics?).symm
  cases phase : dispatch.phase with
  | reading =>
    simp only [next, step, phase, deed?, read, Dispatch.metricsCalls]
    cases engine.backend.history world (engine.target dispatch.command) with
    | error fault => exact conclude_metrics ..
    | ok history =>
      dsimp only
      cases engine.aggregates.load engine.rules (engine.target dispatch.command) history with
      | error fault => exact conclude_metrics ..
      | ok loaded => exact silent _
  | deciding context state =>
    simp only [next, step, phase, deed?, decide, Dispatch.metricsCalls]
    cases engine.rules.decide state context dispatch.command with
    | error fault => exact conclude_metrics ..
    | ok payloads =>
      cases payloads with
      | nil => exact conclude_metrics ..
      | cons first rest => exact silent _
  | stamping context reading pending =>
    simp only [next, step, phase, deed?, stamp, Dispatch.metricsCalls]
    cases pending with
    | nil => exact silent _
    | cons first rest => cases reading <;> exact silent _
  | appending context events =>
    simp only [next, step, phase, deed?, append, Dispatch.metricsCalls]
    have answer : engine.backend.append world events = world.append events := rfl
    rw [answer, Deployment.append]
    cases world.store.append events with
    | error fault =>
      dsimp only
      rw [MetricsCall.countAll_append, Option.elim_some, Deed.metricsCalls]
      refine (conclude_metrics ..).trans ?_
      split
      · rfl
      · rw [MetricsCall.countAll_nil]
    | ok store => rfl
  | publishing context events =>
    simp only [next, step_publishing phase, phase, deed?, Dispatch.metricsCalls]
    have answer : engine.backend.publish world events = world.publish events :=
      congrArg (fun publisher => publisher.publish world events) onBus
    rw [answer]
    refine (conclude_metrics ..).trans ?_
    rw [MetricsCall.countAll_append,
      world.publish_metrics events (commandBus.target dispatch.command).aggregateType.text]
    rfl
  | pausing delay =>
    simp only [next, step, phase, Dispatch.metricsCalls]
    rfl
  | finished result =>
    simp only [next, step, phase, Dispatch.metricsCalls]
    exact silent _

end Dispatch

end Inventory
