import Inventory.Proofs.EventBus.Consumer

/-! A bus and its audience. Any number of loops read the log of one bus, and nobody says who moves next, so a run is a
list of turns in any order. A publisher takes two of them, one to put its batch into the log and one to wake the loops
that are registered; a loop takes one for each of its steps. Loops are started in crews, whose owners stop them or let
go of them once; who stops a crew comes back when each of its loops has ended. A journal notes, turn by turn, what the
loops did for their handlers. -/
namespace Inventory
variable {Data State : Type}

structure Note where
  loop : Nat
  crew : Nat
  group : String
  doing : Consumer.Doing

/-- Loops that were started together. -/
structure Crew where
  signal : Signal := .run
  /-- Whoever told them to stop has waited for them to end. -/
  dismissed : Bool := false

structure Audience (Data State : Type) where
  side : ReadSide State
  loops : List (Consumer Data State) := []
  crews : List Crew := []
  /-- The batches in the log whose publishers have not woken the loops yet. -/
  unannounced : List (List (Event Data)) := []
  journal : List Note := []

inductive Turn (Data State : Type) where
  | publish (events : List (Event Data))
  /-- The publisher of one of the batches that are not announced yet wakes the loops. -/
  | announce (index : Nat)
  | setAvailable (available : Bool)
  | start (handlers : List (Handler Data State))
  | step (index : Nat)
  /-- A parked loop turns to the signal, though it may have been woken as well. -/
  | heed (index : Nat)
  | stop (crew : Nat)
  /-- Whoever told the crew to stop sees that each of its loops has ended. -/
  | dismiss (crew : Nat)
  | abandon (crew : Nat)
  | sway (metrics : Option Metrics) (handlers : State)

def Consumer.note (consumer : Consumer Data State) (index : Nat) (doing : Consumer.Doing) : Note where
  loop := index
  crew := consumer.crew
  group := consumer.group
  doing := doing

/-- The loop reads for this group and has not ended. -/
def Consumer.Serves (consumer : Consumer Data State) (group : String) : Prop :=
  consumer.group = group ∧ consumer.isEnded = false

instance (consumer : Consumer Data State) (group : String) : Decidable (consumer.Serves group) :=
  inferInstanceAs (Decidable (_ ∧ _))

namespace Audience

def opening (metrics : Option Metrics) (handlers : State) : Audience Data State where
  side := { bus := .empty, metrics, handlers }

def log (audience : Audience Data State) : List (List UInt8) :=
  audience.side.bus.log

def offset (audience : Audience Data State) (group : String) : Nat :=
  audience.side.bus.offset group

def advance (audience : Audience Data State) (index : Nat) (consumer : Consumer Data State)
    (doing? : Option Consumer.Doing) (next : Consumer Data State) (side : ReadSide State) : Audience Data State :=
  { audience with
    side
    loops := audience.loops.set index next
    journal := audience.journal ++ (doing?.map (consumer.note index)).toList }

def tell (audience : Audience Data State) (crew : Nat) (signal : Signal) : Audience Data State :=
  match audience.crews[crew]? with
  | some { signal := .run, .. } =>
      { audience with
        crews := audience.crews.set crew { signal }
        loops := audience.loops.map fun consumer =>
          if consumer.crew = crew then consumer.hear signal else consumer }
  | _ => audience

theorem side_tell (audience : Audience Data State) (crew : Nat) (signal : Signal) :
    (audience.tell crew signal).side = audience.side ∧
      (audience.tell crew signal).crews.length = audience.crews.length := by
  unfold tell
  split
  · exact ⟨rfl, List.length_set ..⟩
  · exact ⟨rfl, rfl⟩

def hasEnded (audience : Audience Data State) (crew : Nat) : Bool :=
  audience.loops.all fun consumer => consumer.crew = crew → consumer.isEnded

/-- No two loops read for the group at one time. -/
def Solo (audience : Audience Data State) (group : String) : Prop :=
  audience.loops.Pairwise fun first second => ¬ (first.Serves group ∧ second.Serves group)

instance (audience : Audience Data State) (group : String) : Decidable (audience.Solo group) :=
  inferInstanceAs (Decidable (List.Pairwise _ _))

variable [Payload Data]

def step (registry : EventRegistry Data) (audience : Audience Data State) :
    Turn Data State → Audience Data State
  | .publish events =>
      match audience.side.bus.publish events with
      | .error _ => audience
      | .ok bus =>
          if events.isEmpty then audience
          else
            { audience with
              side := { audience.side with bus }, unannounced := audience.unannounced ++ [events] }
  | .announce index =>
      match audience.unannounced[index]? with
      | none => audience
      | some events =>
          { audience with
            side := { audience.side with metrics := audience.side.metrics.map (·.countPublished events) }
            loops := audience.loops.map Consumer.notify
            unannounced := audience.unannounced.eraseIdx index }
  | .setAvailable available =>
      { audience with side := { audience.side with bus := audience.side.bus.setAvailable available } }
  | .start handlers =>
      { audience with
        loops := audience.loops ++ handlers.map fun handler => { handler, crew := audience.crews.length }
        crews := audience.crews ++ [{}] }
  | .step index =>
      match audience.loops[index]? with
      | none => audience
      | some consumer =>
          let next := consumer.step registry audience.side
          audience.advance index consumer (consumer.doing? registry audience.side) next.1 next.2
  | .heed index =>
      match audience.loops[index]? with
      | none => audience
      | some consumer =>
          if consumer.stage = .parked then audience.advance index consumer none consumer.heed audience.side
          else audience
  | .stop crew => audience.tell crew .stop
  | .dismiss crew =>
      if audience.hasEnded crew then
        { audience with
          crews := audience.crews.modify crew fun told =>
            if told.signal = .stop then { told with dismissed := true } else told }
      else audience
  | .abandon crew => audience.tell crew .abandoned
  | .sway metrics handlers => { audience with side := { audience.side with metrics, handlers } }

def run (registry : EventRegistry Data) (audience : Audience Data State) (turns : List (Turn Data State)) :
    Audience Data State :=
  turns.foldl (step registry) audience

def Throughout (registry : EventRegistry Data) (audience : Audience Data State) (turns : List (Turn Data State))
    (holds : Audience Data State → Prop) : Prop :=
  ∀ earlier, earlier <+: turns → holds (audience.run registry earlier)

section
variable {registry : EventRegistry Data} {audience : Audience Data State}

theorem run_append (registry : EventRegistry Data) (audience : Audience Data State)
    (turns rest : List (Turn Data State)) :
    audience.run registry (turns ++ rest) = (audience.run registry turns).run registry rest :=
  List.foldl_append

theorem Throughout.last {turns : List (Turn Data State)} {holds : Audience Data State → Prop}
    (always : Throughout registry audience turns holds) : holds (audience.run registry turns) :=
  always turns List.prefix_rfl

theorem Throughout.of_append {turns rest : List (Turn Data State)} {holds : Audience Data State → Prop}
    (always : Throughout registry audience (turns ++ rest) holds) : Throughout registry audience turns holds :=
  fun earlier before => always earlier (before.trans (List.prefix_append turns rest))

variable (registry audience)

theorem throughout_nil (holds : Audience Data State → Prop) :
    Throughout registry audience [] holds ↔ holds audience := by
  constructor
  · exact fun always => always.last
  · intro now earlier before
    rw [List.prefix_nil.mp before]
    exact now

theorem throughout_cons (turn : Turn Data State) (rest : List (Turn Data State))
    (holds : Audience Data State → Prop) :
    Throughout registry audience (turn :: rest) holds ↔
      holds audience ∧ Throughout registry (audience.step registry turn) rest holds := by
  constructor
  · intro always
    refine ⟨always [] (List.nil_prefix ..), fun earlier before => ?_⟩
    exact always (turn :: earlier) (List.cons_prefix_cons.mpr ⟨rfl, before⟩)
  · rintro ⟨now, later⟩ earlier before
    rcases List.prefix_cons_iff.mp before with rfl | ⟨more, rfl, inside⟩
    · exact now
    · exact later more inside

end

instance decidableThroughout (registry : EventRegistry Data) (holds : Audience Data State → Prop)
    [DecidablePred holds] : (turns : List (Turn Data State)) → (audience : Audience Data State) →
      Decidable (Throughout registry audience turns holds)
  | [], audience => decidable_of_iff _ (throughout_nil registry audience holds).symm
  | turn :: rest, audience =>
      have := decidableThroughout registry holds rest (audience.step registry turn)
      decidable_of_iff _ (throughout_cons registry audience turn rest holds).symm

end Audience

end Inventory
