import Inventory.Aggregate
import Inventory.Clock
import Inventory.Metrics
import Inventory.Retry

/-! Dispatching a command. A dispatch reads the history of the command's stream, replays it, lets the rules
decide, stamps the new events with the versions that follow the history, appends them on the condition that
these versions are free, and publishes them. Nothing is held between the read and the append: a writer that
came first shows at the append as a conflict, after which the whole attempt may be made again, for nothing
was written. Every step that others may come in between is a step of its own, the reading of the wall clock
and the stamp made from it included. -/
namespace Inventory

/-- What dispatches work on: a world that is read, appended to, published to and counted in. -/
structure Backend (World Data : Type) where
  history : World → StreamId → Except Fault (List (Event Data))
  append : World → List (Event Data) → Except Fault Unit × World
  publish : World → List (Event Data) → Except Fault Unit × World
  stamp : World → Int → Int × World
  count : World → (Metrics → Metrics) → World

structure Engine (World Data State Command : Type) where
  backend : Backend World Data
  aggregates : AggregateRegistry State Data
  rules : Rules State Data Command
  target : Command → StreamId
  retry : Retry.Policy
  add : Nat → Nat → Nat := Version.add

/-- This is `rebuild`: the state of an aggregate as its history leaves it, without any command. -/
def Engine.rebuild {World Data State Command : Type} (engine : Engine World Data State Command)
    (world : World) (stream : StreamId) : Except Fault State :=
  match engine.backend.history world stream with
  | .error fault => .error fault
  | .ok history => (engine.aggregates.load engine.rules stream history).map Prod.snd

/-- What both clocks show: the wall clock in milliseconds, and the time since the start, which never runs
backwards. -/
structure Moment where
  wall : Int
  elapsed : Duration

/-- What a dispatch has committed: its events, perhaps none, and the version of the stream behind them. -/
structure Committed (Data : Type) where
  events : List (Event Data)
  version : Nat

inductive Phase (Data State : Type) where
  | reading
  | deciding (context : Context Data) (state : State)
  | stamping (context : Context Data) (reading : Option Int) (pending : List Data)
  | appending (context : Context Data) (events : List (Event Data))
  | publishing (context : Context Data) (events : List (Event Data))
  | pausing (delay : Duration)
  | finished (result : Except Fault (Committed Data))

/-- One run of `dispatch`. Its attempts are runs of `attempt`, of which each phase up to the pause is a part. -/
structure Dispatch (Data State Command : Type) where
  command : Command
  attempt : Nat
  delay : Duration
  started : Duration
  phase : Phase Data State

namespace Dispatch
variable {World Data State Command : Type}

def start (engine : Engine World Data State Command) (moment : Moment) (command : Command) :
    Dispatch Data State Command where
  command := command
  attempt := 1
  delay := engine.retry.initialDelay
  started := moment.elapsed
  phase := .reading

def moveTo (dispatch : Dispatch Data State Command) (phase : Phase Data State) :
    Dispatch Data State Command :=
  { dispatch with phase }

def result? (dispatch : Dispatch Data State Command) : Option (Except Fault (Committed Data)) :=
  match dispatch.phase with
  | .finished result => some result
  | _ => none

def label : Except Fault (Committed Data) → String
  | .ok _ => "ok"
  | .error fault =>
      if fault.isRejected then "rejected"
      else if fault.isConflict then "conflict"
      else if fault.isConfiguration then "configuration"
      else if fault.isPublish then "publish_failed"
      else "error"

def operation : String :=
  "dispatch"

def aggregateName (engine : Engine World Data State Command) (command : Command) : String :=
  (engine.target command).aggregateType.text

/-- The end of an attempt. `retry_loop` has it made again after a pause, or `dispatch` counts the result and returns
it. -/
def conclude (dispatch : Dispatch Data State Command) (engine : Engine World Data State Command)
    (moment : Moment) (world : World) (result : Except Fault (Committed Data)) :
    Dispatch Data State Command × World :=
  match engine.retry.outcome? Fault.isTransient dispatch.attempt result with
  | none => (dispatch.moveTo (.pausing dispatch.delay), world)
  | some _ =>
      (dispatch.moveTo (.finished result),
        engine.backend.count world fun metrics =>
          metrics.countDispatch (aggregateName engine dispatch.command) (label result)
            (moment.elapsed.since dispatch.started).inSeconds)

/-- This is `load`, from `get_events` on. -/
def read (dispatch : Dispatch Data State Command) (engine : Engine World Data State Command)
    (moment : Moment) (world : World) : Dispatch Data State Command × World :=
  let stream := engine.target dispatch.command
  match engine.backend.history world stream with
  | .error fault => dispatch.conclude engine moment world (.error fault)
  | .ok history =>
      match engine.aggregates.load engine.rules stream history with
      | .error fault => dispatch.conclude engine moment world (.error fault)
      | .ok (context, state) => (dispatch.moveTo (.deciding context state), world)

/-- This is `handle_command`, whose answer may be that there is nothing to store. -/
def decide (dispatch : Dispatch Data State Command) (engine : Engine World Data State Command)
    (moment : Moment) (world : World) (context : Context Data) (state : State) :
    Dispatch Data State Command × World :=
  match engine.rules.decide state context dispatch.command with
  | .error fault => dispatch.conclude engine moment world (.error fault)
  | .ok [] => dispatch.conclude engine moment world (.ok ⟨[], context.version⟩)
  | .ok (first :: rest) => (dispatch.moveTo (.stamping context none (first :: rest)), world)

/-- This is `store_events`. A conflict is counted for every append that lost. -/
def append (dispatch : Dispatch Data State Command) (engine : Engine World Data State Command)
    (moment : Moment) (world : World) (context : Context Data) (events : List (Event Data)) :
    Dispatch Data State Command × World :=
  let aggregate := aggregateName engine dispatch.command
  match engine.backend.append world events with
  | (.error fault, world) =>
      let world := if fault.isConflict then engine.backend.count world (·.countConflict aggregate)
        else world
      dispatch.conclude engine moment world (.error fault)
  | (.ok (), world) =>
      (dispatch.moveTo (.publishing context events),
        engine.backend.count world (·.countStored aggregate events.length))

/-- This is `publish_events`. Events that were stored and not published stay stored. -/
def publish (dispatch : Dispatch Data State Command) (engine : Engine World Data State Command)
    (moment : Moment) (world : World) (context : Context Data) (events : List (Event Data)) :
    Dispatch Data State Command × World :=
  match engine.backend.publish world events with
  | (.error fault, world) => dispatch.conclude engine moment world (.error fault.whilePublishing)
  | (.ok (), world) => dispatch.conclude engine moment world (.ok ⟨events, context.version⟩)

def resume (dispatch : Dispatch Data State Command) (engine : Engine World Data State Command)
    (world : World) : Dispatch Data State Command × World :=
  ({ dispatch with
      attempt := dispatch.attempt + 1
      delay := engine.retry.nextDelay dispatch.delay
      phase := .reading },
    engine.backend.count world (·.countRetry operation))

variable [Payload Data]

/-- This is `record` for the next pending payload, the wall clock being read first, and `take_uncommitted` when none
is left. -/
def stamp (dispatch : Dispatch Data State Command) (engine : Engine World Data State Command)
    (moment : Moment) (world : World) (context : Context Data) (reading : Option Int)
    (pending : List Data) : Dispatch Data State Command × World :=
  match pending, reading with
  | [], _ =>
      let (events, context) := context.take
      (dispatch.moveTo (.appending context events), world)
  | _ :: _, none => (dispatch.moveTo (.stamping context (some moment.wall) pending), world)
  | first :: rest, some reading =>
      let (time, world) := engine.backend.stamp world reading
      let context := context.record first time (engine.add context.version 1)
      (dispatch.moveTo (.stamping context none rest), world)

def step (dispatch : Dispatch Data State Command) (engine : Engine World Data State Command)
    (moment : Moment) (world : World) : Dispatch Data State Command × World :=
  match dispatch.phase with
  | .reading => dispatch.read engine moment world
  | .deciding context state => dispatch.decide engine moment world context state
  | .stamping context reading pending => dispatch.stamp engine moment world context reading pending
  | .appending context events => dispatch.append engine moment world context events
  | .publishing context events => dispatch.publish engine moment world context events
  | .pausing _ => dispatch.resume engine world
  | .finished _ => (dispatch, world)

end Dispatch

end Inventory
