import Inventory.Dispatch

/-! Running dispatches. An attempt that nothing comes in between is advanced to its pause or its end, which
it reaches because every step brings it nearer. Several dispatches that start at one time all read first;
then the last of them runs to its pause or its end, and the others after it in their order; after that
whoever has waited long enough goes on. In between they give way to what else goes on in the world. -/
namespace Inventory

/-- How far an attempt still is from its end: the phases left, and the steps left within stamping. -/
def Phase.remaining {Data State : Type} : Phase Data State → Nat × Nat
  | .reading => (5, 0)
  | .deciding _ _ => (4, 0)
  | .stamping _ none pending => (3, 2 * pending.length + 1)
  | .stamping _ (some _) pending => (3, 2 * pending.length)
  | .appending _ _ => (2, 0)
  | .publishing _ _ => (1, 0)
  | .pausing _ | .finished _ => (0, 0)

def Phase.isAtRest {Data State : Type} : Phase Data State → Bool
  | .pausing _ | .finished _ => true
  | _ => false

namespace Dispatch
variable {World Data State Command : Type}

theorem remaining_conclude (dispatch : Dispatch Data State Command)
    (engine : Engine World Data State Command) (moment : Moment) (world : World)
    (result : Except Fault (Committed Data)) :
    (dispatch.conclude engine moment world result).1.phase.remaining = (0, 0) := by
  unfold conclude
  split <;> rfl

variable [Payload Data]

/-- Every step brings an attempt that is under way nearer to its end. -/
theorem remaining_step (dispatch : Dispatch Data State Command)
    (engine : Engine World Data State Command) (moment : Moment) (world : World)
    (underway : dispatch.phase.isAtRest = false) :
    Prod.Lex (· < ·) (· < ·) (dispatch.step engine moment world).1.phase.remaining
      dispatch.phase.remaining := by
  unfold step
  cases phase : dispatch.phase with
  | reading =>
      simp only [read]
      split
      · rw [remaining_conclude]
        exact .left _ _ (by decide)
      · split
        · rw [remaining_conclude]
          exact .left _ _ (by decide)
        · exact .left _ _ (by decide)
  | deciding context state =>
      simp only [decide]
      split
      · rw [remaining_conclude]
        exact .left _ _ (by decide)
      · rw [remaining_conclude]
        exact .left _ _ (by decide)
      · exact .left _ _ (by decide)
  | stamping context reading pending =>
      cases pending with
      | nil => cases reading <;> exact .left _ _ (by decide)
      | cons first rest =>
          cases reading with
          | none => exact .right _ (by simp)
          | some time => exact .right _ (by simp only [List.length_cons]; omega)
  | appending context events =>
      simp only [append]
      split
      · rw [remaining_conclude]
        exact .left _ _ (by decide)
      · exact .left _ _ (by decide)
  | publishing context events =>
      simp only [publish]
      split <;>
      · rw [remaining_conclude]
        exact .left _ _ (by decide)
  | pausing delay => simp [phase, Phase.isAtRest] at underway
  | finished result => simp [phase, Phase.isAtRest] at underway

def advance (engine : Engine World Data State Command) (moment : Moment)
    (dispatch : Dispatch Data State Command) (world : World) : Dispatch Data State Command × World :=
  match underway : dispatch.phase.isAtRest with
  | true => (dispatch, world)
  | false =>
      have := dispatch.remaining_step engine moment world underway
      advance engine moment (dispatch.step engine moment world).1 (dispatch.step engine moment world).2
termination_by dispatch.phase.remaining
decreasing_by exact this

end Dispatch

/-- How dispatches share their thread with whatever else goes on in the world. -/
structure Sharing (World : Type) where
  /-- Something that was waited for is there at once; absent when that happened too often in a row, and
  others have their turn first. -/
  take? : World → Option World
  giveWay : World → World
  /-- Nothing is to be done here until time has passed. -/
  rest : World → World

namespace Sharing
variable {World Outer : Type}

def within (sharing : Sharing World) (inner : Outer → World) (replace : Outer → World → Outer) :
    Sharing Outer where
  take? outer := (sharing.take? (inner outer)).map (replace outer)
  giveWay outer := replace outer (sharing.giveWay (inner outer))
  rest outer := replace outer (sharing.rest (inner outer))

def take (sharing : Sharing World) (world : World) : World :=
  match sharing.take? world with
  | some world => world
  | none =>
      let refreshed := sharing.giveWay world
      (sharing.take? refreshed).getD refreshed

end Sharing

namespace Dispatch
variable {World Data State Command : Type} [Payload Data]

def advanceOn (engine : Engine World Data State Command) (sharing : Sharing World) (moment : Moment) :
    Nat → Dispatch Data State Command → World → Dispatch Data State Command × World
  | 0, dispatch, world => dispatch.advance engine moment world
  | pauses + 1, dispatch, world =>
      match dispatch.advance engine moment world with
      | (dispatch, world) =>
          match dispatch.phase with
          | .pausing delay =>
              if delay.timerMilliseconds = 0 then
                match sharing.take? world with
                | none => (dispatch, world)
                | some world =>
                    match dispatch.resume engine world with
                    | (dispatch, world) => advanceOn engine sharing moment pauses dispatch world
              else (dispatch, world)
          | _ => (dispatch, world)

end Dispatch

/-- A dispatch and the milliseconds that it has waited in pauses. -/
structure Waiting (Data State Command : Type) where
  dispatch : Dispatch Data State Command
  waited : Nat := 0
  /-- It has read and goes on when all have. -/
  held : Bool := false

namespace Waiting
variable {World Data State Command : Type}

def wake? (waiting : Waiting Data State Command) : Option Nat :=
  if waiting.held then some waiting.waited
  else
    match waiting.dispatch.phase with
    | .pausing delay => some (waiting.waited + delay.timerMilliseconds)
    | _ => none

def isDue (time : Nat) (waiting : Waiting Data State Command) : Bool :=
  waiting.wake?.any (· ≤ time)

def nextWake? (waiting : List (Waiting Data State Command)) : Option Nat :=
  (waiting.filterMap wake?).min?

variable [Payload Data]

def advance (engine : Engine World Data State Command) (sharing : Sharing World) (moment : Moment)
    (waiting : Waiting Data State Command) (world : World) : Waiting Data State Command × World :=
  let (dispatch, world) :=
    waiting.dispatch.advanceOn engine sharing moment engine.retry.maxAttempts world
  ({ waiting with dispatch }, world)

def goOn (engine : Engine World Data State Command) (sharing : Sharing World) (moment : Moment)
    (time : Nat) (waiting : Waiting Data State Command) (world : World) :
    Waiting Data State Command × World :=
  if waiting.isDue time then
    match sharing.take? world with
    | none => (waiting, world)
    | some world =>
        let (dispatch, world) :=
          if waiting.held then (waiting.dispatch, world) else waiting.dispatch.resume engine world
        advance engine sharing moment { dispatch, waited := time } world
  else (waiting, world)

def goOnAll (engine : Engine World Data State Command) (sharing : Sharing World) (moment : Moment)
    (time : Nat) :
    List (Waiting Data State Command) → World → List (Waiting Data State Command) × World
  | [], world => ([], world)
  | waiting :: rest, world =>
      let (waiting, world) := waiting.goOn engine sharing moment time world
      let (rest, world) := goOnAll engine sharing moment time rest world
      (waiting :: rest, world)

/-- Lets them go on, in the order of time, until each has ended. Before that they give way to others, and
rest when none of them can go on at once. -/
def finish (engine : Engine World Data State Command) (sharing : Sharing World) (moment : Moment) :
    Nat → Nat → List (Waiting Data State Command) → World → List (Waiting Data State Command) × World
  | 0, _, waiting, world => (waiting, world)
  | rounds + 1, now, waiting, world =>
      match nextWake? waiting with
      | none => (waiting, world)
      | some wake =>
          let world := if wake ≤ now then sharing.giveWay world else sharing.rest world
          let time := max now wake
          let (waiting, world) := goOnAll engine sharing moment time waiting world
          finish engine sharing moment rounds time waiting world

def readAll (engine : Engine World Data State Command) (moment : Moment) :
    List (Waiting Data State Command) → World → List (Waiting Data State Command) × World
  | [], world => ([], world)
  | waiting :: rest, world =>
      let (dispatch, world) := waiting.dispatch.step engine moment world
      let (rest, world) := readAll engine moment rest world
      ({ waiting with dispatch, held := true } :: rest, world)

/-- The last one to read is not held, since all have read then, and runs on. -/
def advanceLast (engine : Engine World Data State Command) (sharing : Sharing World) (moment : Moment)
    (waiting : List (Waiting Data State Command)) (world : World) :
    List (Waiting Data State Command) × World :=
  match waiting.getLast? with
  | none => ([], world)
  | some last =>
      let (last, world) := advance engine sharing moment { last with held := false } world
      (waiting.dropLast ++ [last], world)

/-- So many dispatches are looked after in turn, and give way after the last has run on. Of more than these
the ones that can go on do so at once, unless the last has to wait. -/
def joinLimit : Nat :=
  30

def dispatchTogether (engine : Engine World Data State Command) (sharing : Sharing World)
    (moment : Moment) (commands : List Command) (world : World) :
    List (Waiting Data State Command) × World :=
  let waiting := commands.map fun command =>
    ({ dispatch := .start engine moment command } : Waiting Data State Command)
  let (waiting, world) := readAll engine moment waiting world
  let (waiting, world) := advanceLast engine sharing moment waiting world
  let lastWaits := (waiting.getLast?.bind wake?).isSome
  let (waiting, world) :=
    if joinLimit < commands.length ∧ !lastWaits then goOnAll engine sharing moment 0 waiting world
    else (waiting, world)
  finish engine sharing moment (commands.length * (engine.retry.maxAttempts + 1)) 0 waiting world

end Waiting

end Inventory
