import Inventory.Retry

/-! Connecting to the database while its cluster comes up: every failure is worth another attempt, with
pauses from half a second to five seconds. Once connected, the keyspace is created unless it is there. -/
namespace Inventory.Connection

def policy : Retry.Policy where
  maxAttempts := 10
  initialDelay := .ofMilliseconds 500
  maxDelay := .ofSeconds 5
  multiplier := 2.0

inductive Failure where
  | noKnownNodes
  | unreachable (host : String)
deriving DecidableEq, Repr

def Failure.message : Failure → String
  | .noKnownNodes => "Empty known nodes list"
  | .unreachable host => "No answer from " ++ host

/-- What comes of one attempt when no host answers. -/
def contactNobody : List String → Failure
  | [] => .noKnownNodes
  | host :: _ => .unreachable host

/-- The attempts that `connect` makes. -/
def attemptAll (hosts : List String) : Retry.Run Failure Unit Unit :=
  policy.run Retry.always (fun _ state => (.error (contactNobody hosts), state)) ()

/-- The timer time of the pauses, in milliseconds. -/
def waited {Error Value State : Type} (run : Retry.Run Error Value State) : Nat :=
  run.pauses.foldl (fun total pause => total + pause.timerMilliseconds) 0

def creation : String :=
  "CREATE KEYSPACE IF NOT EXISTS "

def replication : String :=
  " WITH REPLICATION = \x7b'class': 'SimpleStrategy', 'replication_factor': 1\x7d"

def createKeyspace (keyspace : String) : String :=
  creation ++ keyspace ++ replication

end Inventory.Connection
