import Inventory.Json.Value
import Inventory.Metrics

/-! The health report. While the publisher's circuit is open, stored events do not reach the transport, and
the service reports itself unavailable until it closes. -/
namespace Inventory.Metrics

structure Health where
  status : Nat
  body : Json

def healthStatus : Breaker.State → Nat
  | .closed | .halfOpen => 200
  | .opened => 503

def healthWord : Breaker.State → String
  | .closed => "healthy"
  | .halfOpen => "recovering"
  | .opened => "degraded"

def circuitWord : Breaker.State → String
  | .closed => "closed"
  | .halfOpen => "half_open"
  | .opened => "open"

def serviceName : String :=
  "scylla-cqrs"

def health (metrics : Metrics) : Health where
  status := healthStatus metrics.breakerState
  body := .ofMembers
    [("status", .text (healthWord metrics.breakerState)), ("service", .text serviceName),
      ("publisher_circuit", .text (circuitWord metrics.breakerState))]

def healthType : String :=
  "application/json"

end Inventory.Metrics
