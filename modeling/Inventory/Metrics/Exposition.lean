import Inventory.Decimal.Layout
import Inventory.Metrics

/-! The text in which metrics are scraped. Families stand in the order of their names, only those with
samples, each under a line of help and a line with its type; samples stand in the order of their labels'
values. -/
namespace Inventory.Metrics

/-- Samples are positional at every magnitude, with no more digits than it takes to read them back. -/
def sampleLayout : Decimal.Layout :=
  { tie := .up, least := none, greatest := none, pointed := false, signed := false, powerWidth := 1 }

def sampleText (value : Float) : String :=
  sampleLayout.render value

structure Sample where
  name : String
  labels : List (String × String)
  value : Float

structure Family where
  name : String
  help : String
  kind : String
  samples : List Sample

def escapeLabelChar (character : Char) : List Char :=
  if character = '\\' then ['\\', '\\']
  else if character = '"' then ['\\', '"']
  else if character = '\n' then ['\\', 'n']
  else [character]

def escapeLabel (value : String) : String :=
  String.ofList (value.toList.flatMap escapeLabelChar)

def labelText (label : String × String) : String :=
  label.1 ++ "=\"" ++ escapeLabel label.2 ++ "\""

def Sample.line (sample : Sample) : String :=
  let labels := if sample.labels.isEmpty then ""
    else "\x7b" ++ String.intercalate "," (sample.labels.map labelText) ++ "\x7d"
  sample.name ++ labels ++ " " ++ sampleText sample.value

def Family.lines (family : Family) : List String :=
  if family.samples.isEmpty then []
  else ("# HELP " ++ family.name ++ " " ++ family.help) ::
    ("# TYPE " ++ family.name ++ " " ++ family.kind) :: family.samples.map Sample.line

def counterFamily (name help : String) (labels : List String) (counter : Counter) : Family where
  name := name
  help := help
  kind := "counter"
  samples := counter.entries.map fun (values, count) =>
    ⟨name, labels.zip values, Float.ofNat count.toNat⟩

def histogramSamples (name : String) (labels : List (String × String)) (histogram : Histogram) :
    List Sample :=
  List.zipWith
      (fun bound count =>
        ⟨name ++ "_bucket", labels ++ [("le", sampleText bound)], Float.ofNat count⟩)
      Histogram.bounds histogram.counts ++
    [⟨name ++ "_bucket", labels ++ [("le", "+Inf")], Float.ofNat histogram.count⟩,
      ⟨name ++ "_sum", labels, histogram.sum⟩,
      ⟨name ++ "_count", labels, Float.ofNat histogram.count⟩]

def histogramFamily (name help : String) (labels : List String)
    (histograms : Samples Histogram) : Family where
  name := name
  help := help
  kind := "histogram"
  samples := histograms.entries.flatMap fun (values, histogram) =>
    histogramSamples name (labels.zip values) histogram

def families (metrics : Metrics) : List Family :=
  [⟨"circuit_breaker_state", "Circuit breaker state (0=Closed, 1=Open, 2=HalfOpen)", "gauge",
      [⟨"circuit_breaker_state", [], Float.ofInt metrics.breaker⟩]⟩,
    histogramFamily "command_dispatch_duration_seconds" "Command dispatch duration"
      ["aggregate_type"] metrics.durations,
    counterFamily "commands_dispatched_total" "Total commands dispatched by outcome"
      ["aggregate_type", "outcome"] metrics.dispatched,
    counterFamily "events_published_total" "Total events published to the bus" ["event_type"]
      metrics.published,
    counterFamily "events_stored_total" "Total events appended to the event store"
      ["aggregate_type"] metrics.stored,
    counterFamily "handler_events_total" "Messages seen by event handlers by outcome"
      ["handler", "outcome"] metrics.deliveries,
    counterFamily "retry_attempts_total" "Total retry attempts" ["operation"] metrics.retries,
    counterFamily "version_conflicts_total"
      "Appends rejected because a version was already claimed" ["aggregate_type"]
      metrics.conflicts]

def exposition (metrics : Metrics) : List String :=
  metrics.families.flatMap Family.lines

def expositionType : String :=
  "text/plain; version=0.0.4"

end Inventory.Metrics
