import Inventory.Startup

/-! The command line. The settings come from the environment; what the start reports is written to the error
output, and the lines that the filter admits to the standard output. -/
namespace Inventory

def variableNames : List String :=
  ["KAFKA_BROKERS", "SCYLLA_HOSTS", "SCYLLA_KEYSPACE", "EVENTS_TOPIC", "KAFKA_TRANSACTIONAL_ID",
    "METRICS_PORT", "DISPATCH_MAX_ATTEMPTS", Startup.filterName]

end Inventory

open Inventory in
def main : IO UInt32 := do
  let values ← variableNames.mapM fun name => do
    return (name, ← IO.getEnv name)
  let lookup (name : String) : Option String := (values.lookup name).join
  let report := Startup.run lookup
  for line in Startup.written (lookup Startup.filterName) report.log do
    IO.println line.text
  IO.eprint report.errors
  return report.exitCode
