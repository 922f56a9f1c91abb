import Inventory.Connection
import Inventory.Household.Part
import Inventory.Settings

/-! The start of the program: the settings are read, the registries are filled, and the database is
connected to. What goes wrong is reported on the error output and ends the program. Along the way lines
are logged, and a filter says which of them are written. -/
namespace Inventory.Startup

inductive Level where
  | error
  | warn
  | info
  | debug
  | trace
deriving DecidableEq, Repr

def Level.rank : Level → Nat
  | .error => 1
  | .warn => 2
  | .info => 3
  | .debug => 4
  | .trace => 5

def Level.ofText? (text : String) : Option Level :=
  match text.toList.map Char.toLower |> String.ofList with
  | "error" => some .error
  | "warn" => some .warn
  | "info" => some .info
  | "debug" => some .debug
  | "trace" => some .trace
  | _ => none

structure LogLine where
  level : Level
  text : String

/-- Up to which level the lines of a target are written, none for not at all. A directive without a target
speaks of all. -/
structure Directive where
  target : String
  level : Option Level
deriving DecidableEq, Repr

def logTarget : String :=
  "scylla_cqrs"

def isTargetChar (character : Char) : Bool :=
  character.isAlphanum || character == '_' || character == ':' || character == '-'

def limit? (text : String) : Option (Option Level) :=
  if text.toList.map Char.toLower = "off".toList then some none else (Level.ofText? text).map some

def Directive.ofText? (text : String) : Option Directive :=
  match text.splitOn "=" with
  | [word] =>
      match limit? word with
      | some level => some ⟨"", level⟩
      | none =>
          if word.toList.all isTargetChar ∧ !word.isEmpty then some ⟨word, some .trace⟩ else none
  | [target, word] =>
      if target.toList.all isTargetChar ∧ !target.isEmpty then
        (limit? word).map fun level => ⟨target, level⟩
      else none
  | _ => none

/-- The directives in force when none are given or those given cannot be read. -/
def defaultDirectives : List Directive :=
  [⟨"", some .info⟩, ⟨logTarget, some .debug⟩]

def directives (filter : Option String) : List Directive :=
  match filter with
  | none => defaultDirectives
  | some text => ((text.splitOn ",").mapM Directive.ofText?).getD defaultDirectives

/-- The directive for a target is the one that names the most of it, and of two such the later. -/
def limitFor (target : String) (directives : List Directive) : Option Level :=
  let matching := directives.filter fun directive =>
    directive.target.toList.isPrefixOf target.toList
  let best := matching.foldl
    (fun (best : Option Directive) directive =>
      if best.all fun other => other.target.length ≤ directive.target.length then some directive
      else best)
    none
  best.bind Directive.level

def written (filter : Option String) (log : List LogLine) : List LogLine :=
  match limitFor logTarget (directives filter) with
  | none => []
  | some limit => log.filter fun line => line.level.rank ≤ limit.rank

/-- How a run ended: its exit code, the error output, and all lines it would log. -/
structure Report where
  exitCode : UInt32
  errors : String
  log : List LogLine

def failed (message : String) (log : List LogLine) : Report where
  exitCode := 1
  errors := "Error: " ++ message ++ "\n"
  log := log

def began : LogLine :=
  ⟨.info, "Starting event-sourced household inventory"⟩

/-- The lines between the settings and the database: one for each type that is registered among them. -/
def prepared : List LogLine :=
  [⟨.info, "Loaded settings"⟩, ⟨.info, "Metrics registry created"⟩] ++
    (Household.Fact.kinds.map fun kind =>
      ⟨.debug, "Registered event type " ++ kind.eventType.text⟩) ++
    [⟨.debug, "Registered aggregate type " ++ Household.aggregateType.text⟩]

def attemptLine (number : Nat) : LogLine :=
  ⟨.info, "Connecting to the database, attempt " ++ toString number⟩

def connectionLog (pauses : Nat) : List LogLine :=
  attemptLine 1 :: (List.range pauses).flatMap fun index =>
    [⟨.warn, "Transient failure, retrying after delay"⟩, attemptLine (index + 2)]

def run (lookup : String → Option String) : Report :=
  match Settings.ofLookup lookup with
  | .error invalid => failed invalid.message [began]
  | .ok settings =>
      let connection := Connection.attemptAll settings.databaseHosts
      let log := began :: prepared ++ connectionLog connection.pauses.length
      match connection.outcome.result with
      | .error failure =>
          failed failure.message (log ++ [⟨.error, "Operation failed after all retries"⟩])
      | .ok () => { exitCode := 0, errors := "", log }

def filterName : String :=
  "RUST_LOG"

end Inventory.Startup
