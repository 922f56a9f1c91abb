import Inventory.Dispatch.Running
import Inventory.EventBus.Roster
import Inventory.EventStore

/-! A deployment within one process: the event store, the bus with the loops that read it, the commit clock
and the metrics, on which dispatches, publishers and readers work. -/
namespace Inventory

structure Deployment (Data Handlers : Type) where
  store : EventStore := .empty
  clock : Clock := {}
  side : ReadSide Handlers
  roster : Roster Data Handlers := {}

namespace Deployment
variable {Data Handlers : Type}

def fresh (metrics : Option Metrics) (handlers : Handlers) : Deployment Data Handlers where
  side := { bus := .empty, metrics, handlers }

def count (deployment : Deployment Data Handlers) (counting : Metrics → Metrics) :
    Deployment Data Handlers :=
  { deployment with side := { deployment.side with metrics := deployment.side.metrics.map counting } }

def setBus (deployment : Deployment Data Handlers) (bus : EventBus) : Deployment Data Handlers :=
  { deployment with side := { deployment.side with bus } }

def notify (deployment : Deployment Data Handlers) : Deployment Data Handlers :=
  { deployment with roster := deployment.roster.notify }

def stamp (deployment : Deployment Data Handlers) (reading : Int) :
    Int × Deployment Data Handlers :=
  let (time, clock) := deployment.clock.stamp reading
  (time, { deployment with clock })

variable [Payload Data]

def append (deployment : Deployment Data Handlers) (events : List (Event Data))
    (add : Nat → Nat → Nat := Nat.add) : Except Fault Unit × Deployment Data Handlers :=
  match deployment.store.append events add with
  | .error fault => (.error fault, deployment)
  | .ok store => (.ok (), { deployment with store })

/-- This is `publish_events`: the batch goes into the log, then the loops are woken, and then it is counted. -/
def publish (deployment : Deployment Data Handlers) (events : List (Event Data)) :
    Except Fault Unit × Deployment Data Handlers :=
  match deployment.side.bus.publish events with
  | .error fault => (.error fault, deployment)
  | .ok bus =>
      if events.isEmpty then (.ok (), deployment)
      else (.ok (), (deployment.setBus bus).notify.count (·.countPublished events))

def history (registry : EventRegistry Data) (deployment : Deployment Data Handlers)
    (stream : StreamId) : Except Fault (List (Event Data)) :=
  deployment.store.history registry stream

def backend (registry : EventRegistry Data) (add : Nat → Nat → Nat := Nat.add) :
    Backend (Deployment Data Handlers) Data where
  history := history registry
  append deployment events := deployment.append events add
  publish := publish
  stamp := stamp
  count := count

def start (deployment : Deployment Data Handlers) (handlers : List (Handler Data Handlers)) :
    Deployment Data Handlers :=
  { deployment with roster := deployment.roster.start handlers }

def settle (registry : EventRegistry Data) (deployment : Deployment Data Handlers) :
    Deployment Data Handlers :=
  let (roster, side) := deployment.roster.run registry deployment.side
  { deployment with roster, side }

def giveWay (registry : EventRegistry Data) (deployment : Deployment Data Handlers) :
    Deployment Data Handlers :=
  let (roster, side) := deployment.roster.giveWay registry deployment.side
  { deployment with roster, side }

def take? (deployment : Deployment Data Handlers) : Option (Deployment Data Handlers) :=
  (deployment.roster.take? 1).map fun roster => { deployment with roster }

def sharing (registry : EventRegistry Data) : Sharing (Deployment Data Handlers) where
  take? := take?
  giveWay := giveWay registry
  rest := settle registry

def shutdown (registry : EventRegistry Data) (deployment : Deployment Data Handlers) :
    Deployment Data Handlers :=
  let (roster, side) := deployment.roster.shutdown registry deployment.side
  { deployment with roster, side }

/-- Lets go of all loops, which end when they have read what there is. -/
def abandon (registry : EventRegistry Data) (deployment : Deployment Data Handlers) :
    Deployment Data Handlers :=
  let (roster, side) := deployment.roster.abandon registry deployment.side
  { deployment with roster, side }

def pollInterval : Nat :=
  5

/-- Waits until a group has read what is in the log now. Who waits looks first and then at every interval,
as long as the time allows, and the loops run as soon as time passes. -/
def waitFor (registry : EventRegistry Data) (deployment : Deployment Data Handlers) (group : String)
    (milliseconds : Nat) : Bool × Deployment Data Handlers :=
  let caughtUp (deployment : Deployment Data Handlers) :=
    deployment.side.bus.size ≤ deployment.side.bus.offset group
  if caughtUp deployment then (true, deployment)
  else if milliseconds = 0 then (false, (sharing registry).take deployment)
  else
    let settled := deployment.settle registry
    let looks := milliseconds / pollInterval
    if 0 < looks ∧ caughtUp settled then (true, (sharing registry).take settled)
    else if milliseconds = looks * pollInterval then
      (false, (sharing registry).take ((sharing registry).take settled))
    else (false, (sharing registry).take settled)

end Deployment

end Inventory
