import Inventory.Duration
import Inventory.Fault

/-! A message broker as seen from its clients: where it is found and which topic holds the events, the
settings that clients are made with, and what comes of talking to brokers that nobody can reach. -/
namespace Inventory.Broker

structure Config where
  brokers : String
  topic : String
  transactionalId : Option String := none
  sendTimeout : Duration := .ofSeconds 5
deriving DecidableEq

namespace Config

def producer (config : Config) : List (String × String) :=
  [("bootstrap.servers", config.brokers),
    ("message.timeout.ms", toString config.sendTimeout.milliseconds),
    ("enable.idempotence", "true")] ++
  match config.transactionalId with
  | none => []
  | some id => [("transactional.id", id)]

def consumer (config : Config) (group : String) : List (String × String) :=
  [("bootstrap.servers", config.brokers), ("group.id", group), ("enable.auto.commit", "false"),
    ("auto.offset.reset", "earliest"), ("isolation.level", "read_committed")]

end Config

/-- A message and the key that keeps the messages of one aggregate in order. -/
structure Message where
  key : String
  payload : List UInt8

def Message.size (message : Message) : Nat :=
  message.key.utf8ByteSize + message.payload.length

/-- The greatest message that a client takes, its key included. -/
def greatestMessage : Nat :=
  1000000

def sendFailure (reason : String) : Cause :=
  ⟨"Kafka send error: Message production error: " ++ reason, []⟩

/-- A client to which messages are handed; what it answers for each. -/
abbrev Client := Message → Except Cause Unit

/-- A client whose brokers do not exist: a message that is too large is refused at once, and any other is
never acknowledged. -/
def unreachable : Client := fun message =>
  if greatestMessage < message.size then
    .error (sendFailure "MessageSizeTooLarge (Broker: Message size too large)")
  else .error (sendFailure "MessageTimedOut (Local: Message timed out)")

def Client.sendAll (client : Client) : List Message → Except Cause Unit
  | [] => .ok ()
  | message :: rest =>
      match client message with
      | .error cause => .error cause
      | .ok () => sendAll client rest

def transactionFailure (reason : String) : Cause :=
  ⟨"Transaction error: " ++ reason, [reason]⟩

/-- Connecting to brokers that do not exist fails only where transactions have to be set up. -/
def connectUnreachable (config : Config) : Except Cause Client :=
  match config.transactionalId with
  | none => .ok unreachable
  | some id =>
      if id.isEmpty then
        .error (transactionFailure "The Transactional API requires transactional.id to be configured")
      else .error (transactionFailure "Local: Timed out")

def subscribe (config : Config) (group : String) : Except Cause Unit :=
  if group.isEmpty then .error ⟨"Client creation error: rdkafka consumer queue not available", []⟩
  else if config.topic.isEmpty then
    .error ⟨"Subscription error: Local: Invalid argument or configuration", []⟩
  else .ok ()

/-- Subscribes every group, or none of them when one fails. -/
def subscribeAll (config : Config) : List String → Except Cause Unit
  | [] => .ok ()
  | group :: rest =>
      match subscribe config group with
      | .error cause => .error cause
      | .ok () => subscribeAll config rest

end Inventory.Broker
