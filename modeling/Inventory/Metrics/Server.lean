import Inventory.Json.Printer
import Inventory.Metrics.Exposition
import Inventory.Metrics.Health

/-! The server that answers scrapes and health checks. It takes a port of its own, and fails where another
program holds that port. -/
namespace Inventory.Metrics.Server

inductive Failure where
  | portTaken
deriving DecidableEq, Repr

def bind (taken : List UInt16) (port : UInt16) : Except Failure (List UInt16) :=
  if port ∈ taken then .error .portTaken else .ok (port :: taken)

structure Response where
  status : Nat
  contentType : String
  body : String

def scrape (metrics : Metrics) : Response where
  status := 200
  contentType := expositionType
  body := String.join (metrics.exposition.map (· ++ "\n"))

def healthCheck (metrics : Metrics) : Response where
  status := metrics.health.status
  contentType := healthType
  body := metrics.health.body.print

def respond? (metrics : Metrics) (path : String) : Option Response :=
  match path with
  | "/metrics" => some (scrape metrics)
  | "/health" => some (healthCheck metrics)
  | _ => none

end Inventory.Metrics.Server
