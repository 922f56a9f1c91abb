import Inventory.Breaker
import Inventory.Broker
import Inventory.EventBus
import Inventory.Metrics

/-! Publishing to a broker behind a circuit breaker. Events are encoded before the breaker is asked, so a
batch that cannot be encoded does not count. After a call that the breaker admitted or refused, the gauge
shows the breaker's state. Publications may overlap: encoding, admission, the sending's end and the report
are steps of their own. -/
namespace Inventory.Broker

structure Publisher where
  breaker : Breaker := {}
  metrics : Option Metrics

def breakerConfig : Breaker.Config :=
  { failureThreshold := 5, timeout := .ofSeconds 30, successThreshold := 3 }

def circuitOpen : Cause :=
  ⟨"circuit breaker open for Kafka", []⟩

namespace Publication

inductive Phase where
  | encoding
  | admission (messages : List Message)
  | sending (messages : List Message)
  | report (result : Except (Breaker.Error Cause) Unit)
  | finished (result : Except Fault Unit)

end Publication

/-- One run of `publish_events` behind a circuit breaker. -/
structure Publication (Data : Type) where
  events : List (Event Data)
  phase : Publication.Phase := .encoding

namespace Publication
variable {Data : Type}

def moveTo (publication : Publication Data) (phase : Phase) : Publication Data :=
  { publication with phase }

def outcome : Except (Breaker.Error Cause) Unit → Except Fault Unit
  | .ok () => .ok ()
  | .error .circuitOpen => .error (.publish circuitOpen)
  | .error (.failed cause) => .error (.publish cause)

def enter (publication : Publication Data) (now : Duration) (publisher : Publisher)
    (messages : List Message) : Publication Data × Publisher :=
  match publisher.breaker.enter? breakerConfig now with
  | none => (publication.moveTo (.report (.error .circuitOpen)), publisher)
  | some breaker => (publication.moveTo (.sending messages), { publisher with breaker })

def complete (publication : Publication Data) (now : Duration) (publisher : Publisher)
    (sent : Except Cause Unit) : Publication Data × Publisher :=
  (publication.moveTo (.report (sent.mapError .failed)),
    { publisher with
      breaker := publisher.breaker.complete breakerConfig now (Breaker.outcomeOf sent) })

/-- The gauge shows what the breaker's state is now, whatever it was when this call ended. -/
def report (publication : Publication Data) (publisher : Publisher)
    (result : Except (Breaker.Error Cause) Unit) : Publication Data × Publisher :=
  let shown (metrics : Metrics) := metrics.showBreaker publisher.breaker.state
  let counted (metrics : Metrics) := match result with
    | .ok () => metrics.countPublished publication.events
    | .error _ => metrics
  (publication.moveTo (.finished (outcome result)),
    { publisher with metrics := publisher.metrics.map fun metrics => counted (shown metrics) })

variable [Payload Data]

def messages : List (Event Data) → Except Fault (List Message)
  | [] => .ok []
  | event :: rest =>
      match event.marshal with
      | .error fault => .error fault
      | .ok payload =>
          match messages rest with
          | .error fault => .error fault
          | .ok more => .ok (⟨event.stream.aggregateId.text, payload⟩ :: more)

def encode (publication : Publication Data) (publisher : Publisher) :
    Publication Data × Publisher :=
  if publication.events.isEmpty then (publication.moveTo (.finished (.ok ())), publisher)
  else
    match messages publication.events with
    | .error fault => (publication.moveTo (.finished (.error fault)), publisher)
    | .ok messages => (publication.moveTo (.admission messages), publisher)

def step (publication : Publication Data) (client : Client) (now : Duration)
    (publisher : Publisher) : Publication Data × Publisher :=
  match publication.phase with
  | .encoding => publication.encode publisher
  | .admission messages => publication.enter now publisher messages
  | .sending messages => publication.complete now publisher (client.sendAll messages)
  | .report result => publication.report publisher result
  | .finished _ => (publication, publisher)

def steps (client : Client) (now : Duration) :
    Nat → Publication Data × Publisher → Publication Data × Publisher
  | 0, reached => reached
  | count + 1, (publication, publisher) =>
      steps client now count (publication.step client now publisher)

def stepCount : Nat :=
  4

end Publication

def Publisher.publish {Data : Type} [Payload Data] (publisher : Publisher) (client : Client)
    (now : Duration) (events : List (Event Data)) : Except Fault Unit × Publisher :=
  match Publication.steps client now Publication.stepCount ({ events }, publisher) with
  | ({ phase := .finished result, .. }, publisher) => (result, publisher)
  | (_, publisher) => (.ok (), publisher)

end Inventory.Broker
