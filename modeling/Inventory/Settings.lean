import Inventory.Broker
import Inventory.Retry
import Inventory.Text.Blank
import Inventory.Text.Quoted

/-! The settings of the program, read from named variables. Blanks around a value do not count, a variable
that is unset or has nothing else in it keeps its default, and the first variable with a value that cannot
be used refuses the settings as a whole. -/
namespace Inventory

structure Settings where
  brokers : String
  databaseHosts : List String
  keyspace : String
  topic : String
  /-- The name under which batches are published in transactions, none for no transactions. -/
  transactionalId : Option String
  metricsPort : UInt16
  maxAttempts : UInt32
deriving DecidableEq

namespace Settings

def defaults : Settings where
  brokers := "127.0.0.1:9092"
  databaseHosts := ["127.0.0.1:9042"]
  keyspace := "home_inventory"
  topic := "home-inventory.events"
  transactionalId := some "scylla-cqrs-publisher"
  metricsPort := 9090
  maxAttempts := 3

inductive Reason where
  | keyspaceCharacters
  | notADigit
  | tooLarge
deriving DecidableEq, Repr

def Reason.text : Reason → String
  | .keyspaceCharacters => "only letters, digits and underscores are allowed"
  | .notADigit => "invalid digit found in string"
  | .tooLarge => "number too large to fit in target type"

structure Invalid where
  name : String
  value : String
  reason : Reason
deriving DecidableEq, Repr

def Invalid.message (invalid : Invalid) : String :=
  invalid.name ++ " has an invalid value " ++ Text.quoted invalid.value ++ ": " ++ invalid.reason.text

def pieces : List Char → List (List Char)
  | [] => [[]]
  | character :: rest =>
      if character = ',' then [] :: pieces rest
      else
        match pieces rest with
        | [] => [[character]]
        | piece :: more => (character :: piece) :: more

/-- The hosts in a list between commas, blanks around them and empty ones dropped. -/
def hosts (text : String) : List String :=
  ((pieces text.toList).map Text.trimChars).filterMap fun piece =>
    if piece.isEmpty then none else some (String.ofList piece)

def isKeyspaceChar (character : Char) : Bool :=
  character.isAlphanum || character == '_'

def readKeyspace (name value : String) : Except Invalid String :=
  if value.toList.all isKeyspaceChar then .ok value
  else .error { name, value, reason := .keyspaceCharacters }

/-- A number up to a greatest one from its digits, the first flaw from the left counting. -/
def digits (greatest : Nat) (number : Nat) : List Char → Except Reason Nat
  | [] => .ok number
  | character :: rest =>
      if character.isDigit then
        let number := 10 * number + (character.toNat - '0'.toNat)
        if greatest < number then .error .tooLarge else digits greatest number rest
      else .error .notADigit

/-- A number may have a plus sign and leading zeros; there has to be a digit. -/
def readNumber (greatest : Nat) (name value : String) : Except Invalid Nat :=
  let unsigned := match value.toList with
    | '+' :: rest => rest
    | text => text
  let read := if unsigned.isEmpty then .error .notADigit else digits greatest 0 unsigned
  read.mapError fun reason => { name, value, reason }

/-- The word for no transactions, in any case of its letters. -/
def readTransactionalId (value : String) : Option String :=
  if value.toList.map Char.toLower = "none".toList then none else some value

/-- The value of a variable without the blanks around it, unless nothing is left. -/
def value? (lookup : String → Option String) (name : String) : Option String :=
  match lookup name with
  | none => none
  | some text =>
      let trimmed := Text.trim text
      if trimmed.isEmpty then none else some trimmed

def checked {Value : Type} (lookup : String → Option String) (name : String) (default : Value)
    (read : String → String → Except Invalid Value) : Except Invalid Value :=
  match value? lookup name with
  | none => .ok default
  | some value => read name value

/-- This is `from_lookup`. Of the values that can be refused the keyspace comes first, then the port, then the
attempts. -/
def ofLookup (lookup : String → Option String) : Except Invalid Settings :=
  match checked lookup "SCYLLA_KEYSPACE" defaults.keyspace readKeyspace with
  | .error invalid => .error invalid
  | .ok keyspace =>
      match checked lookup "METRICS_PORT" defaults.metricsPort.toNat (readNumber 65535) with
      | .error invalid => .error invalid
      | .ok port =>
          match checked lookup "DISPATCH_MAX_ATTEMPTS" defaults.maxAttempts.toNat
              (readNumber 4294967295) with
          | .error invalid => .error invalid
          | .ok attempts =>
              .ok
                { brokers := (value? lookup "KAFKA_BROKERS").getD defaults.brokers
                  databaseHosts := ((value? lookup "SCYLLA_HOSTS").map hosts).getD defaults.databaseHosts
                  keyspace
                  topic := (value? lookup "EVENTS_TOPIC").getD defaults.topic
                  transactionalId := match value? lookup "KAFKA_TRANSACTIONAL_ID" with
                    | none => defaults.transactionalId
                    | some value => readTransactionalId value
                  metricsPort := UInt16.ofNat port
                  maxAttempts := UInt32.ofNat attempts }

def broker (settings : Settings) : Broker.Config where
  brokers := settings.brokers
  topic := settings.topic
  transactionalId := settings.transactionalId

def dispatchRetry (settings : Settings) : Retry.Policy :=
  { Retry.Policy.withMaxAttempts settings.maxAttempts.toNat with
    initialDelay := .ofMilliseconds 20
    maxDelay := .ofMilliseconds 500 }

end Settings

end Inventory
