import Inventory.EventBus.Consumer

/-! The loops of one process take turns. Those that can go on stand in a queue, and a turn lasts until its
loop parks or ends. A publication calls all parked loops into the queue in the order in which they parked;
so does a signal for those that it is for. Loops run when whoever else works gives way to them: until the
queue is empty when it has nothing to do before time passes, and else for one round of turns. It gives way
when it has to wait, and also when what it waits for was there at once too often in a row, so that the loops
are never left out. -/
namespace Inventory

/-- No more loops than this have their turn before whoever gave way goes on, if it can. -/
def Roster.turnsPerRound : Nat :=
  61

/-- So often may what somebody waits for be there at once before loops have a turn. -/
def Roster.fullAllowance : Nat :=
  128

structure Roster (Data State : Type) where
  queue : List (Consumer Data State) := []
  parked : List (Consumer Data State) := []
  crews : Nat := 0
  /-- How often what somebody waits for may still be there at once. -/
  allowance : Nat := Roster.fullAllowance

namespace Roster
variable {Data State : Type}

/-- This is `start_consumers`: one loop for each handler, at the end of the queue. -/
def start (roster : Roster Data State) (handlers : List (Handler Data State)) : Roster Data State :=
  { roster with
    queue := roster.queue ++ handlers.map fun handler => { handler, crew := roster.crews }
    crews := roster.crews + 1 }

def notify (roster : Roster Data State) : Roster Data State :=
  { roster with queue := (roster.queue ++ roster.parked).map Consumer.notify, parked := [] }

def crewSize (roster : Roster Data State) (crew : Nat) : Nat :=
  (roster.queue ++ roster.parked).countP (·.crew == crew)

def take? (roster : Roster Data State) (amount : Nat) : Option (Roster Data State) :=
  if amount ≤ roster.allowance then some { roster with allowance := roster.allowance - amount }
  else none

def signal (roster : Roster Data State) (signal : Signal) (reaches : Consumer Data State → Bool) :
    Roster Data State :=
  let queue := roster.queue ++ roster.parked.filter reaches
  { roster with
    queue := queue.map fun consumer => if reaches consumer then consumer.hear signal else consumer
    parked := roster.parked.filter (!reaches ·) }

variable [Payload Data]

def takeTurns (registry : EventRegistry Data) :
    List (Consumer Data State) → List (Consumer Data State) → ReadSide State →
      List (Consumer Data State) × ReadSide State
  | [], parked, side => (parked, side)
  | consumer :: rest, parked, side =>
      let (consumer, side) := consumer.settle registry side
      takeTurns registry rest (if consumer.isEnded then parked else parked ++ [consumer]) side

def runFirst (count : Nat) (roster : Roster Data State) (registry : EventRegistry Data)
    (side : ReadSide State) : Roster Data State × ReadSide State :=
  let (parked, side) := takeTurns registry (roster.queue.take count) roster.parked side
  ({ roster with queue := roster.queue.drop count, parked, allowance := fullAllowance }, side)

def giveWay (roster : Roster Data State) (registry : EventRegistry Data) (side : ReadSide State) :
    Roster Data State × ReadSide State :=
  roster.runFirst turnsPerRound registry side

def run (roster : Roster Data State) (registry : EventRegistry Data) (side : ReadSide State) :
    Roster Data State × ReadSide State :=
  roster.runFirst roster.queue.length registry side

/-- Gives way round after round until a crew has ended. The ends that the last round brought were there at
once. -/
def awaitEnd (registry : EventRegistry Data) (crew : Nat) :
    Nat → Roster Data State × ReadSide State → Roster Data State × ReadSide State
  | 0, reached => reached
  | rounds + 1, (roster, side) =>
      let left := roster.crewSize crew
      if left = 0 then (roster, side)
      else
        let (roster, side) := roster.giveWay registry side
        let ended := left - roster.crewSize crew
        awaitEnd registry crew rounds ((roster.take? ended).getD roster, side)

/-- Tells a crew to stop and waits until each of its loops has, while others go on; nobody waits for a crew
that has ended. -/
def stop (registry : EventRegistry Data) (roster : Roster Data State) (side : ReadSide State)
    (crew : Nat) : Roster Data State × ReadSide State :=
  let roster := roster.signal .stop (·.crew == crew)
  awaitEnd registry crew roster.queue.length (roster, side)

/-- This is `shutdown` of every crew, in the order in which they were started. -/
def shutdown (roster : Roster Data State) (registry : EventRegistry Data) (side : ReadSide State) :
    Roster Data State × ReadSide State :=
  (List.range roster.crews).foldl (fun (roster, side) crew => roster.stop registry side crew)
    (roster, side)

/-- Lets go of all loops without telling them to stop; each ends when it has nothing left to read. -/
def abandon (roster : Roster Data State) (registry : EventRegistry Data) (side : ReadSide State) :
    Roster Data State × ReadSide State :=
  (roster.signal .abandoned fun _ => true).run registry side

end Roster

end Inventory
