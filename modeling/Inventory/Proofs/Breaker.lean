import Inventory.Proofs.Breaker.Turn
import Mathlib.Data.List.Infix

/-! A breaker with one caller at a time: a call is answered before the next one is made, and time does not go back. Then
the two counters mean what the settings say, failures in a row since the breaker closed and successes in a row since it
was open, though they are set back at different places. -/
namespace Inventory.Breaker
variable {World Reason Value : Type}

/-- Something to be run, the moment it is asked for, and the moment it is done if it is run. -/
structure Call (World Reason Value : Type) where
  began : Duration
  ended : Duration
  operation : World → Except Reason Value × World

inductive Verdict where
  | refused
  | succeeded
  | failed
deriving DecidableEq, Repr

structure Entry (Reason Value : Type) where
  met : State
  left : State
  moment : Duration
  answer : Except (Error Reason) Value

structure Circuit (World Reason Value : Type) where
  breaker : Breaker := {}
  world : World
  journal : List (Entry Reason Value) := []

namespace Entry

def verdict (entry : Entry Reason Value) : Verdict :=
  match entry.answer with
  | .ok _ => .succeeded
  | .error (.failed _) => .failed
  | .error .circuitOpen => .refused

def kind (entry : Entry Reason Value) : State × Verdict :=
  (entry.met, entry.verdict)

/-- The breaker opened when the call was done. -/
def Opens (entry : Entry Reason Value) : Prop :=
  entry.verdict ≠ .refused ∧ entry.left = .opened

/-- The breaker became closed when the call was done. -/
def Closes (entry : Entry Reason Value) : Prop :=
  entry.met ≠ .closed ∧ entry.left = .closed

instance (entry : Entry Reason Value) : Decidable entry.Opens :=
  inferInstanceAs (Decidable (_ ∧ _))

theorem opens_failed (met : State) (moment : Duration) (reason : Reason) :
    Opens (⟨met, .opened, moment, .error (.failed reason)⟩ : Entry Reason Value) :=
  ⟨by simp [verdict], rfl⟩

end Entry

namespace Circuit

def note (circuit : Circuit World Reason Value) (breaker : Breaker) (world : World) (moment : Duration)
    (answer : Except (Error Reason) Value) : Circuit World Reason Value where
  breaker := breaker
  world := world
  journal := circuit.journal ++ [⟨circuit.breaker.state, breaker.state, moment, answer⟩]

def call (config : Config) (circuit : Circuit World Reason Value) (call : Call World Reason Value) :
    Circuit World Reason Value :=
  match circuit.breaker.call config call.began call.ended call.operation circuit.world with
  | (.error .circuitOpen, breaker, world) => circuit.note breaker world call.began (.error .circuitOpen)
  | (answer, breaker, world) => circuit.note breaker world call.ended answer

def run (config : Config) (circuit : Circuit World Reason Value) (calls : List (Call World Reason Value)) :
    Circuit World Reason Value :=
  calls.foldl (Circuit.call config) circuit

def opened? (circuit : Circuit World Reason Value) : Option Duration :=
  (circuit.journal.filter fun entry => entry.Opens).getLast?.map Entry.moment

end Circuit

def Call.times (call : Call World Reason Value) : List Nat :=
  [call.began.nanoseconds, call.ended.nanoseconds]

/-- No call is made before the one before it is done, and none is done before it is made. -/
def Paced (calls : List (Call World Reason Value)) : Prop :=
  (calls.flatMap Call.times).Pairwise (· ≤ ·)

/-- So many trials with success after the breaker was open, the first of them the one that found it open. -/
def recovery : Nat → List (State × Verdict)
  | 0 => []
  | count + 1 => (.opened, .succeeded) :: List.replicate count (.halfOpen, .succeeded)

/-- What a call does, after all calls before it: the entry of the call, and what is the case when it is done. -/
structure Obeys (config : Config) (before : Circuit World Reason Value) (call : Call World Reason Value)
    (after : Circuit World Reason Value) (entry : Entry Reason Value) : Prop where
  journal : after.journal = before.journal ++ [entry]
  met : entry.met = before.breaker.state
  left : entry.left = after.breaker.state
  /-- It is refused just while less than the timeout has passed since the breaker opened last. -/
  refused_iff : entry.verdict = .refused ↔ entry.met = .opened ∧
    ∃ opened, before.opened? = some opened ∧
      call.began.nanoseconds < opened.nanoseconds + config.timeout.nanoseconds
  /-- A refusal changes nothing, and the operation is not run. -/
  refused : entry.verdict = .refused →
    after.breaker = before.breaker ∧ after.world = before.world ∧ entry.answer = .error .circuitOpen
  /-- Otherwise the operation is run, and its result is the answer. -/
  ran : entry.verdict ≠ .refused →
    (call.operation before.world).1.mapError .failed = entry.answer ∧
      (call.operation before.world).2 = after.world ∧ entry.moment = call.ended
  /-- A call that finds the breaker open and is not refused is run on trial. -/
  trial : entry.met = .opened → entry.verdict ≠ .refused →
    (before.breaker.enter? config call.began).map Breaker.state = some .halfOpen
  /-- It opens with a failure on trial, or with the failure that is the last of enough in a row. -/
  opens_iff : entry.Opens ↔ (entry.met ≠ .closed ∧ entry.verdict = .failed) ∨
    List.replicate (max 1 config.failureThreshold) (.closed, .failed) <:+ after.journal.map Entry.kind
  /-- It closes with the success on trial that is the last of enough in a row. -/
  closes_iff : entry.Closes ↔ recovery (max 1 config.successThreshold) <:+ after.journal.map Entry.kind
  /-- With neither, it stays closed, or on trial. -/
  stays : entry.verdict ≠ .refused → ¬ entry.Opens → ¬ entry.Closes →
    entry.left = if entry.met = .closed then .closed else .halfOpen

/-- What a breaker in a state knows of the calls so far. -/
def Circuit.Tallies (circuit : Circuit World Reason Value) : State → Prop
  | .closed => ∀ count,
      List.replicate count (.closed, .failed) <:+ circuit.journal.map Entry.kind ↔ count ≤ circuit.breaker.failures
  | .halfOpen => 0 < circuit.breaker.successes ∧ ∀ count,
      recovery (count + 1) <:+ circuit.journal.map Entry.kind ↔ count + 1 = circuit.breaker.successes
  | .opened => circuit.opened? = circuit.breaker.openedAt

structure Circuit.Sound (config : Config) (now : Duration) (circuit : Circuit World Reason Value) : Prop where
  safe : Safe config now circuit.breaker
  failures_le : circuit.breaker.failures ≤ max 1 config.failureThreshold
  tallies : circuit.Tallies circuit.breaker.state

/-- All that can become of a call. -/
inductive Passage (config : Config) (circuit : Circuit World Reason Value) (call : Call World Reason Value) :
    Breaker → World → Duration → Except (Error Reason) Value → Prop
  | refused (found : circuit.breaker.state = .opened)
      (early : circuit.breaker.cooledDown config call.began = false) :
      Passage config circuit call circuit.breaker circuit.world call.began (.error .circuitOpen)
  | spared {value : Value} {world : World} (found : circuit.breaker.state = .closed)
      (ran : call.operation circuit.world = (.ok value, world)) :
      Passage config circuit call { circuit.breaker with failures := 0 } world call.ended (.ok value)
  | counted {reason : Reason} {world : World} (found : circuit.breaker.state = .closed)
      (ran : call.operation circuit.world = (.error reason, world))
      (few : circuit.breaker.failures + 1 < config.failureThreshold) :
      Passage config circuit call { circuit.breaker with failures := circuit.breaker.failures + 1 } world call.ended
        (.error (.failed reason))
  | tripped {reason : Reason} {world : World} (found : circuit.breaker.state = .closed)
      (ran : call.operation circuit.world = (.error reason, world))
      (many : config.failureThreshold ≤ circuit.breaker.failures + 1) :
      Passage config circuit call
        (openedAnew { circuit.breaker with failures := circuit.breaker.failures + 1 } call.ended) world call.ended
        (.error (.failed reason))
  | passed {admitted : Breaker} {value : Value} {world : World}
      (entered : circuit.breaker.enter? config call.began = some admitted) (trial : admitted.state = .halfOpen)
      (ran : call.operation circuit.world = (.ok value, world))
      (few : admitted.successes + 1 < config.successThreshold) :
      Passage config circuit call { admitted with successes := admitted.successes + 1 } world call.ended (.ok value)
  | restored {admitted : Breaker} {value : Value} {world : World}
      (entered : circuit.breaker.enter? config call.began = some admitted) (trial : admitted.state = .halfOpen)
      (ran : call.operation circuit.world = (.ok value, world))
      (many : config.successThreshold ≤ admitted.successes + 1) :
      Passage config circuit call admitted.closedAnew world call.ended (.ok value)
  | relapsed {admitted : Breaker} {reason : Reason} {world : World}
      (entered : circuit.breaker.enter? config call.began = some admitted) (trial : admitted.state = .halfOpen)
      (ran : call.operation circuit.world = (.error reason, world)) :
      Passage config circuit call (admitted.openedAnew call.ended) world call.ended (.error (.failed reason))

theorem enter?_trial {breaker admitted : Breaker} {config : Config} {now : Duration}
    (entered : breaker.enter? config now = some admitted) (trial : admitted.state = .halfOpen) :
    (breaker.state = .halfOpen ∧ admitted = breaker) ∨
      (breaker.state = .opened ∧ breaker.cooledDown config now = true ∧ admitted = breaker.onTrial) := by
  cases turn_of_enter?_some entered with
  | admitted found => exact .inl ⟨trial, rfl⟩
  | tried found cooled => exact .inr ⟨found, cooled, rfl⟩

theorem enter?_closed {breaker admitted : Breaker} {config : Config} {now : Duration}
    (entered : breaker.enter? config now = some admitted) (other : admitted.state ≠ .halfOpen) :
    breaker.state = .closed ∧ admitted = breaker := by
  cases turn_of_enter?_some entered with
  | admitted found =>
    cases state : breaker.state with
    | closed => exact ⟨rfl, rfl⟩
    | opened => exact absurd state found
    | halfOpen => exact absurd state other
  | tried found cooled => exact absurd rfl other

theorem ne_closed_of_trial {breaker admitted : Breaker} {config : Config} {now : Duration}
    (entered : breaker.enter? config now = some admitted) (trial : admitted.state = .halfOpen) :
    breaker.state ≠ .closed := by
  rcases enter?_trial entered trial with ⟨found, _⟩ | ⟨found, _⟩
  · simp [found]
  · simp [found]

/-- What a call becomes that is admitted and run, by what its end does at the breaker. -/
theorem Turn.passage {config : Config} {circuit : Circuit World Reason Value} {call : Call World Reason Value}
    {admitted left : Breaker} {result : Except Reason Value} {world : World}
    (turn : Turn config call.ended admitted (.completed (outcomeOf result)) left)
    (entered : circuit.breaker.enter? config call.began = some admitted)
    (ran : call.operation circuit.world = (result, world)) :
    Passage config circuit call left world call.ended (result.mapError .failed) := by
  cases result with
  | ok value =>
    cases turn with
    | spared found =>
      obtain ⟨closed, rfl⟩ := enter?_closed entered found
      exact .spared closed ran
    | passed found few => exact .passed entered found ran few
    | restored found many => exact .restored entered found ran many
  | error reason =>
    cases turn with
    | counted found few =>
      obtain ⟨closed, rfl⟩ := enter?_closed entered found
      exact .counted closed ran few
    | tripped found many =>
      obtain ⟨closed, rfl⟩ := enter?_closed entered found
      exact .tripped closed ran many
    | relapsed found => exact .relapsed entered found ran

namespace Circuit
variable {config : Config} {circuit : Circuit World Reason Value} {call : Call World Reason Value}

theorem call_of_refused (kept : circuit.breaker.enter? config call.began = none) :
    circuit.call config call = circuit.note circuit.breaker circuit.world call.began (.error .circuitOpen) := by
  rw [Circuit.call, Breaker.call, kept]

theorem call_of_admitted {admitted : Breaker} {result : Except Reason Value} {world : World}
    (entered : circuit.breaker.enter? config call.began = some admitted)
    (ran : call.operation circuit.world = (result, world)) :
    circuit.call config call = circuit.note (admitted.complete config call.ended (outcomeOf result)) world call.ended
      (result.mapError .failed) := by
  rw [Circuit.call, Breaker.call, entered, ran]
  cases result <;> rfl

theorem call_passage (config : Config) (circuit : Circuit World Reason Value) (call : Call World Reason Value) :
    ∃ breaker world moment answer, Passage config circuit call breaker world moment answer ∧
      circuit.call config call = circuit.note breaker world moment answer := by
  cases entered : circuit.breaker.enter? config call.began with
  | none =>
    cases turn_of_enter?_none entered with
    | refused found early => exact ⟨_, _, _, _, .refused found early, call_of_refused entered⟩
  | some admitted =>
    cases ran : call.operation circuit.world with
    | mk result world =>
      exact ⟨_, _, _, _, (turn_of_complete ..).passage entered ran, call_of_admitted entered ran⟩

theorem call_safe (safe : Safe config call.began circuit.breaker)
    (lasts : call.began.nanoseconds ≤ call.ended.nanoseconds) :
    Safe config call.ended (circuit.call config call).breaker := by
  cases entered : circuit.breaker.enter? config call.began with
  | none =>
    rw [call_of_refused entered]
    exact safe.mono lasts
  | some admitted =>
    cases ran : call.operation circuit.world with
    | mk result world =>
      rw [call_of_admitted entered ran]
      exact (turn_of_complete ..).safe (((turn_of_enter?_some entered).safe safe).mono lasts)

end Circuit

theorem concat_suffix {front kinds : List (State × Verdict)} {kind last : State × Verdict} :
    front ++ [kind] <:+ kinds ++ [last] ↔ front <:+ kinds ∧ last = kind := by
  have same : [kind].length = [last].length := rfl
  rw [List.suffix_append_inj_of_length_eq same, List.singleton_inj, eq_comm]

theorem replicate_suffix {kind last : State × Verdict} {count : Nat} {kinds : List (State × Verdict)}
    (positive : 0 < count) :
    List.replicate count kind <:+ kinds ++ [last] ↔ last = kind ∧ List.replicate (count - 1) kind <:+ kinds := by
  obtain ⟨fewer, rfl⟩ := Nat.exists_eq_add_one_of_ne_zero (Nat.ne_of_gt positive)
  rw [List.replicate_succ', concat_suffix, Nat.add_sub_cancel, and_comm]

theorem replicate_suffix_other {kind last : State × Verdict} (other : last ≠ kind) (count : Nat)
    (kinds : List (State × Verdict)) : List.replicate count kind <:+ kinds ++ [last] ↔ count ≤ 0 := by
  cases count with
  | zero => simp
  | succ count =>
    rw [replicate_suffix (Nat.succ_pos count)]
    simp [other]

theorem recovery_suffix {last : State × Verdict} {count : Nat} {kinds : List (State × Verdict)} :
    recovery (count + 1) <:+ kinds ++ [last] ↔
      (count = 0 ∧ last = (.opened, .succeeded)) ∨
        (0 < count ∧ last = (.halfOpen, .succeeded) ∧ recovery count <:+ kinds) := by
  cases count with
  | zero =>
    change [] ++ [(State.opened, Verdict.succeeded)] <:+ kinds ++ [last] ↔ _
    rw [concat_suffix]
    simp
  | succ count =>
    have longer : recovery (count + 2) = recovery (count + 1) ++ [(.halfOpen, .succeeded)] := by
      rw [recovery, recovery, List.replicate_succ', List.cons_append]
    rw [longer, concat_suffix]
    simp [and_comm]

namespace Circuit.Sound
variable {config : Config} {now : Duration} {circuit : Circuit World Reason Value} {call : Call World Reason Value}
  {admitted : Breaker}

theorem mono (sound : circuit.Sound config now) {later : Duration} (le : now.nanoseconds ≤ later.nanoseconds) :
    circuit.Sound config later :=
  { sound with safe := sound.safe.mono le }

theorem successes_lt (sound : circuit.Sound config now) :
    circuit.breaker.successes < max 1 config.successThreshold := by
  cases state : circuit.breaker.state with
  | closed => exact (sound.safe.closed state).2.1 ▸ threshold_pos _
  | opened =>
    obtain ⟨_, _, _, none⟩ := sound.safe.opened state
    exact none ▸ threshold_pos _
  | halfOpen => exact sound.safe.halfOpen state

/-- On trial the breaker counts the successes since it was open. -/
theorem recovers (sound : circuit.Sound config now)
    (entered : circuit.breaker.enter? config call.began = some admitted) (trial : admitted.state = .halfOpen)
    (count : Nat) :
    recovery (count + 1) <:+ circuit.journal.map Entry.kind ++ [(circuit.breaker.state, .succeeded)] ↔
      count = admitted.successes := by
  rw [recovery_suffix]
  rcases enter?_trial entered trial with ⟨found, rfl⟩ | ⟨found, _, rfl⟩
  · have tallies := sound.tallies
    rw [found] at tallies
    obtain ⟨some, counted⟩ := tallies
    rw [found]
    cases count with
    | zero => simpa using Nat.ne_of_lt some
    | succ count => simpa using counted count
  · rw [found]
    simp [onTrial]

theorem admitted_lt (sound : circuit.Sound config now)
    (entered : circuit.breaker.enter? config call.began = some admitted) (trial : admitted.state = .halfOpen) :
    admitted.failures = circuit.breaker.failures ∧ admitted.successes < max 1 config.successThreshold := by
  rcases enter?_trial entered trial with ⟨_, rfl⟩ | ⟨_, _, rfl⟩
  · exact ⟨rfl, sound.successes_lt⟩
  · exact ⟨rfl, threshold_pos _⟩

/-- Closed, the breaker counts the failures since it closed or since the last success. -/
theorem fails (sound : circuit.Sound config now) (verdict : Verdict) :
    List.replicate (max 1 config.failureThreshold) (.closed, .failed) <:+
        circuit.journal.map Entry.kind ++ [(circuit.breaker.state, verdict)] ↔
      circuit.breaker.state = .closed ∧ verdict = .failed ∧
        config.failureThreshold ≤ circuit.breaker.failures + 1 := by
  rw [replicate_suffix (threshold_pos _), Prod.mk.injEq, and_assoc]
  refine and_congr_right fun found => and_congr_right fun _ => ?_
  have tallies := sound.tallies
  rw [found] at tallies
  rw [tallies]
  omega

theorem cooledDown_iff (sound : circuit.Sound config now) (found : circuit.breaker.state = .opened) :
    circuit.breaker.cooledDown config now = false ↔ ∃ opened, circuit.opened? = some opened ∧
      now.nanoseconds < opened.nanoseconds + config.timeout.nanoseconds := by
  obtain ⟨opened, known, past, _⟩ := sound.safe.opened found
  have last := sound.tallies
  rw [found] at last
  have reached : circuit.breaker.cooledDown config now =
      decide (config.timeout.nanoseconds ≤ now.nanoseconds - opened.nanoseconds) := by
    rw [cooledDown, known]
    rfl
  rw [reached, show circuit.opened? = _ from last, known, decide_eq_false_iff_not]
  simp only [Option.some.injEq, exists_eq_left']
  omega

end Circuit.Sound

namespace Passage
variable {config : Config} {now : Duration} {circuit : Circuit World Reason Value} {call : Call World Reason Value}
  {breaker : Breaker} {world : World} {moment : Duration} {answer : Except (Error Reason) Value}

theorem opens_iff (passage : Passage config circuit call breaker world moment answer)
    (sound : circuit.Sound config now) :
    let entry : Entry Reason Value := ⟨circuit.breaker.state, breaker.state, moment, answer⟩
    entry.Opens ↔ (entry.met ≠ .closed ∧ entry.verdict = .failed) ∨
      List.replicate (max 1 config.failureThreshold) (.closed, .failed) <:+
        circuit.journal.map Entry.kind ++ [entry.kind] := by
  intro entry
  rw [Entry.kind, sound.fails]
  cases passage with
  | refused found early => simp [entry, Entry.Opens, Entry.verdict]
  | spared found ran => simp [entry, Entry.Opens, Entry.verdict, found]
  | counted found ran few => simpa [entry, Entry.Opens, Entry.verdict, found] using few
  | tripped found ran many => simpa [entry, Entry.Opens, Entry.verdict, found, openedAnew] using many
  | passed entered trial ran few => simp [entry, Entry.Opens, Entry.verdict, trial]
  | restored entered trial ran many => simp [entry, Entry.Opens, Entry.verdict, closedAnew]
  | relapsed entered trial ran =>
    simp [entry, Entry.Opens, Entry.verdict, openedAnew, ne_closed_of_trial entered trial]

theorem closes_iff (passage : Passage config circuit call breaker world moment answer)
    (sound : circuit.Sound config now) :
    let entry : Entry Reason Value := ⟨circuit.breaker.state, breaker.state, moment, answer⟩
    entry.Closes ↔
      recovery (max 1 config.successThreshold) <:+ circuit.journal.map Entry.kind ++ [entry.kind] := by
  intro entry
  have positive : max 1 config.successThreshold = max 1 config.successThreshold - 1 + 1 := by omega
  rw [positive]
  cases passage with
  | refused found early =>
    rw [recovery_suffix]
    simp [entry, Entry.Closes, Entry.kind, Entry.verdict, found]
  | spared found ran =>
    rw [recovery_suffix]
    simp [entry, Entry.Closes, Entry.kind, found]
  | counted found ran few =>
    rw [recovery_suffix]
    simp [entry, Entry.Closes, Entry.kind, found]
  | tripped found ran many =>
    rw [recovery_suffix]
    simp [entry, Entry.Closes, Entry.kind, found]
  | relapsed entered trial ran =>
    rw [recovery_suffix]
    simp [entry, Entry.Closes, Entry.kind, Entry.verdict, openedAnew]
  | passed entered trial ran few =>
    have counted := sound.recovers entered trial (max 1 config.successThreshold - 1)
    refine iff_of_false ?_ (fun suffix => ?_)
    · simp [entry, Entry.Closes, trial]
    · have := counted.mp suffix
      omega
  | restored entered trial ran many =>
    have counted := sound.recovers entered trial (max 1 config.successThreshold - 1)
    have less := (sound.admitted_lt entered trial).2
    refine iff_of_true ?_ (counted.mpr ?_)
    · exact ⟨ne_closed_of_trial entered trial, rfl⟩
    · omega

theorem refused_iff (passage : Passage config circuit call breaker world moment answer)
    (sound : circuit.Sound config call.began) :
    let entry : Entry Reason Value := ⟨circuit.breaker.state, breaker.state, moment, answer⟩
    entry.verdict = .refused ↔ entry.met = .opened ∧ ∃ opened, circuit.opened? = some opened ∧
      call.began.nanoseconds < opened.nanoseconds + config.timeout.nanoseconds := by
  intro entry
  -- A call that was run on trial had found the breaker on trial already, or cooled down.
  have cooled {admitted : Breaker} (entered : circuit.breaker.enter? config call.began = some admitted)
      (trial : admitted.state = .halfOpen) (found : circuit.breaker.state = .opened) :
      ¬ ∃ opened, circuit.opened? = some opened ∧
        call.began.nanoseconds < opened.nanoseconds + config.timeout.nanoseconds := by
    rw [← sound.cooledDown_iff found]
    rcases enter?_trial entered trial with ⟨other, _⟩ | ⟨_, cooled, _⟩
    · rw [found] at other
      cases other
    · rw [cooled]
      decide
  cases passage with
  | refused found early =>
    exact iff_of_true rfl ⟨found, (sound.cooledDown_iff found).mp early⟩
  | spared found ran | counted found ran few | tripped found ran many =>
    simp [entry, Entry.verdict, found]
  | passed entered trial ran few | restored entered trial ran many | relapsed entered trial ran =>
    exact iff_of_false (by simp [entry, Entry.verdict]) fun early => cooled entered trial early.1 early.2

theorem obeys (passage : Passage config circuit call breaker world moment answer)
    (sound : circuit.Sound config call.began) :
    Obeys config circuit call (circuit.note breaker world moment answer)
      ⟨circuit.breaker.state, breaker.state, moment, answer⟩ where
  journal := rfl
  met := rfl
  left := rfl
  refused_iff := passage.refused_iff sound
  refused verdict := by
    cases passage with
    | refused found early => exact ⟨rfl, rfl, rfl⟩
    | _ => cases verdict
  ran verdict := by
    cases passage with
    | refused found early => exact absurd rfl verdict
    | spared found ran | counted found ran few | tripped found ran many | passed entered trial ran few
    | restored entered trial ran many | relapsed entered trial ran =>
      rw [ran]
      exact ⟨rfl, rfl, rfl⟩
  trial met verdict := by
    cases passage with
    | refused found early => exact absurd rfl verdict
    | spared found ran | counted found ran few | tripped found ran many =>
      rw [found] at met
      cases met
    | passed entered trial ran few | restored entered trial ran many | relapsed entered trial ran =>
      rw [entered, Option.map_some, trial]
  opens_iff := by
    rw [Circuit.note, List.map_append]
    exact passage.opens_iff sound
  closes_iff := by
    rw [Circuit.note, List.map_append]
    exact passage.closes_iff sound
  stays verdict still kept := by
    cases passage with
    | refused found early => exact absurd rfl verdict
    | spared found ran | counted found ran few => simp [found]
    | tripped found ran many | relapsed entered trial ran => exact absurd ⟨verdict, rfl⟩ still
    | passed entered trial ran few => simp [trial, ne_closed_of_trial entered trial]
    | restored entered trial ran many => exact absurd ⟨ne_closed_of_trial entered trial, rfl⟩ kept

end Passage

theorem Circuit.opened?_note (circuit : Circuit World Reason Value) (breaker : Breaker) (world : World)
    (moment : Duration) (answer : Except (Error Reason) Value) :
    (circuit.note breaker world moment answer).opened? =
      if Entry.Opens ⟨circuit.breaker.state, breaker.state, moment, answer⟩ then some moment
      else circuit.opened? := by
  rw [opened?, note, List.filter_append, List.filter_singleton]
  split
  next opens =>
    rw [decide_eq_true opens, cond_true, List.getLast?_concat]
    rfl
  next shut =>
    rw [decide_eq_false shut, cond_false, List.append_nil]
    rfl

namespace Passage
variable {config : Config} {now : Duration} {circuit : Circuit World Reason Value} {call : Call World Reason Value}
  {breaker : Breaker} {world : World} {moment : Duration} {answer : Except (Error Reason) Value}

theorem failures_le (passage : Passage config circuit call breaker world moment answer)
    (sound : circuit.Sound config now) : breaker.failures ≤ max 1 config.failureThreshold := by
  cases passage with
  | refused => exact sound.failures_le
  | spared | restored => exact Nat.zero_le _
  | counted found ran few => exact Nat.le_trans (Nat.le_of_lt few) (Nat.le_max_right ..)
  | tripped found ran many => exact (sound.safe.closed found).2.2
  | passed entered trial | relapsed entered trial =>
    exact (sound.admitted_lt entered trial).1.trans_le sound.failures_le

theorem tallies (passage : Passage config circuit call breaker world moment answer)
    (sound : circuit.Sound config now) : (circuit.note breaker world moment answer).Tallies breaker.state := by
  have before := sound.tallies
  cases passage with
  | refused found early =>
    rw [found] at before ⊢
    rw [Circuit.Tallies, Circuit.opened?_note, if_neg fun opens => opens.1 rfl]
    exact before
  | spared found ran =>
    rw [show ({ circuit.breaker with failures := 0 } : Breaker).state = .closed from found]
    intro count
    rw [Circuit.note, List.map_append]
    exact replicate_suffix_other (fun same => by cases congrArg Prod.snd same) count _
  | counted found ran few =>
    rw [found] at before
    rw [show ({ circuit.breaker with failures := circuit.breaker.failures + 1 } : Breaker).state = .closed from found]
    intro count
    rw [Circuit.note, List.map_append]
    cases count with
    | zero => simp
    | succ count =>
      have kind : (circuit.breaker.state, Verdict.failed) = (.closed, .failed) := Prod.ext found rfl
      exact (replicate_suffix (Nat.succ_pos count)).trans
        ((and_iff_right kind).trans ((before count).trans Nat.succ_le_succ_iff.symm))
  | tripped found ran many | relapsed entered trial ran =>
    refine (Circuit.opened?_note ..).trans ?_
    exact if_pos (Entry.opens_failed ..)
  | @passed admitted value world entered trial ran few =>
    rw [show ({ admitted with successes := admitted.successes + 1 } : Breaker).state = .halfOpen from trial]
    refine ⟨Nat.succ_pos _, fun count => ?_⟩
    rw [Circuit.note, List.map_append]
    exact (sound.recovers entered trial count).trans Nat.succ_inj.symm
  | restored entered trial ran many =>
    intro count
    rw [Circuit.note, List.map_append]
    exact replicate_suffix_other (fun same => by cases congrArg Prod.snd same) count _

end Passage

namespace Circuit

theorem call_sound {config : Config} {circuit : Circuit World Reason Value} {call : Call World Reason Value}
    (sound : circuit.Sound config call.began) (lasts : call.began.nanoseconds ≤ call.ended.nanoseconds) :
    (circuit.call config call).Sound config call.ended := by
  have safe := call_safe sound.safe lasts
  obtain ⟨breaker, world, moment, answer, passage, same⟩ := call_passage config circuit call
  rw [same] at safe ⊢
  exact { safe, failures_le := passage.failures_le sound, tallies := passage.tallies sound }

theorem run_sound (config : Config) (world : World) {calls : List (Call World Reason Value)} (paced : Paced calls)
    {now : Duration} (later : ∀ time ∈ calls.flatMap Call.times, time ≤ now.nanoseconds) :
    (run config { world } calls).Sound config now := by
  induction calls using List.reverseRecOn generalizing now with
  | nil =>
    refine { safe := .of_closed rfl rfl rfl (threshold_pos _), failures_le := Nat.zero_le _, tallies := ?_ }
    intro count
    simp [run]
  | append_singleton calls call ih =>
    rw [Paced, List.flatMap_append, List.flatMap_singleton] at paced
    rw [List.flatMap_append, List.flatMap_singleton] at later
    obtain ⟨before, own, apart⟩ := List.pairwise_append.mp paced
    have begun (time : Nat) (member : time ∈ calls.flatMap Call.times) : time ≤ call.began.nanoseconds :=
      apart time member _ List.mem_cons_self
    have lasts : call.began.nanoseconds ≤ call.ended.nanoseconds := by simpa [Call.times] using own
    have past : call.ended.nanoseconds ≤ now.nanoseconds := later _ (by simp [Call.times])
    rw [run, List.foldl_append]
    exact (call_sound (ih before begun) lasts).mono past

end Circuit

/-- After any calls, none of which overlap: a call is refused just while the breaker is open and has not cooled down,
and otherwise run; the breaker opens just with the failure that makes enough of them in a row, or with one on trial; it
closes just with the success that makes enough of them in a row since it was open; and the counters stay within the
settings. -/
theorem automaton_run (config : Config) (world : World) (calls : List (Call World Reason Value))
    (call : Call World Reason Value) (paced : Paced (calls ++ [call])) :
    let before := Circuit.run config { world } calls
    let after := before.call config call
    (∃ entry, Obeys config before call after entry) ∧
      after.breaker.failures ≤ max 1 config.failureThreshold ∧
        after.breaker.successes < max 1 config.successThreshold := by
  intro before after
  rw [Paced, List.flatMap_append, List.flatMap_singleton] at paced
  obtain ⟨earlier, own, apart⟩ := List.pairwise_append.mp paced
  have sound : before.Sound config call.began :=
    Circuit.run_sound config world earlier fun time member => apart time member _ List.mem_cons_self
  have done : after.Sound config call.ended := Circuit.call_sound sound (by simpa [Call.times] using own)
  refine ⟨?_, done.failures_le, done.successes_lt⟩
  obtain ⟨breaker, world, moment, answer, passage, same⟩ := Circuit.call_passage config before call
  rw [show after = _ from same]
  exact ⟨_, passage.obeys sound⟩

def attempt (began ended : Nat) (result : Except String Unit) : Call Nat String Unit where
  began := ⟨began⟩
  ended := ⟨ended⟩
  operation count := (result, count + 1)

def cautious : Config where
  failureThreshold := 2
  timeout := ⟨10⟩
  successThreshold := 2

/-- A failure is forgotten with the success behind it, two more open the breaker at the time 5, it is still hot at the
time 14, and at the time 15 it has cooled down. -/
def drill : List (Call Nat String Unit) :=
  [attempt 0 1 (.error "first"), attempt 1 2 (.ok ()), attempt 2 3 (.error "second"), attempt 3 5 (.error "third"),
    attempt 14 14 (.ok ()), attempt 15 16 (.ok ())]

theorem automaton_drill :
    let before := Circuit.run cautious { world := 0 } drill
    let after := before.call cautious (attempt 16 17 (.ok ()))
    Paced (drill ++ [attempt 16 17 (.ok ())]) ∧ (∃ entry, Obeys cautious before (attempt 16 17 (.ok ())) after entry) ∧
      after.breaker.failures ≤ 2 ∧ after.breaker.successes < 2 :=
  have paced : Paced (drill ++ [attempt 16 17 (.ok ())]) := by
    unfold Paced
    decide
  ⟨paced, automaton_run cautious 0 drill (attempt 16 17 (.ok ())) paced⟩

example : (Circuit.run cautious { world := 0 } (drill ++ [attempt 16 17 (.ok ())])).journal.map Entry.kind =
    [(.closed, .failed), (.closed, .succeeded), (.closed, .failed), (.closed, .failed), (.opened, .refused),
      (.opened, .succeeded), (.halfOpen, .succeeded)] := by decide

end Inventory.Breaker
