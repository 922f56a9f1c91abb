import Inventory.EventBus.Consumer
import Inventory.Proofs.EventBus
import Mathlib.Tactic.Common

/-! What one step of a loop can do. Each kind of step is listed with what it depends on and what it changes in the loop
and in what the loop works on, so that whatever holds of loops is shown kind by kind. Between two messages a loop does
nothing but six such steps, so that one that nobody disturbs comes to rest. -/
namespace Inventory
variable {Data State : Type}

/-- What a step does for the handler, with the position and the message that it does it with. -/
inductive Consumer.Doing where
  | began (position : Nat) (message : List UInt8)
  /-- The delivery came to an outcome. -/
  | finished (position : Nat) (message : List UInt8)
deriving DecidableEq, Repr

namespace Consumer

/-- Something happened that a parked loop goes on for: it was woken, its owner is gone, or there is a signal to stop
that it has not waited for. -/
def isCalled (consumer : Consumer Data State) : Bool :=
  consumer.woken || consumer.signal = .abandoned || (consumer.signal = .stop && consumer.unheard)

variable [Payload Data]

def doing? (consumer : Consumer Data State) (registry : EventRegistry Data) (side : ReadSide State) :
    Option Doing :=
  match consumer.stage with
  | .reading offset => (side.bus.log[offset]?).map (.began offset)
  | .delivering offset message =>
      ((consumer.handler.deliver registry side.metrics side.handlers message).1).map
        fun _ => .finished offset message
  | .checking | .enlisting | .looking | .committing _ | .parked | .ended _ => none

end Consumer

namespace Handler
variable [Payload Data]

/-- The handler breaks down at the event of this message, in some state that it can be in. -/
def CrashesAt (handler : Handler Data State) (registry : EventRegistry Data) (message : List UInt8) : Prop :=
  ∃ state event, registry.unmarshal message = .ok event ∧ event.eventType ∈ handler.interest ∧
    (handler.handle state event).2 = .crashed

omit [Payload Data] in
theorem delivery?_eq_none {reaction : Reaction} (none : reaction.delivery? = none) : reaction = .crashed := by
  cases reaction with
  | crashed => rfl
  | handled => cases none
  | failed => cases none

theorem crashesAt_of_deliver {handler : Handler Data State} {registry : EventRegistry Data}
    {metrics : Option Metrics} {state : State} {message : List UInt8}
    (crashed : (handler.deliver registry metrics state message).1 = none) :
    handler.CrashesAt registry message := by
  have broken : (handler.react registry state message).2 = none := by
    unfold deliver at crashed
    split at crashed
    next reacted => rw [reacted]
    next => cases crashed
  unfold react at broken
  split at broken
  · cases broken
  next record found =>
    split at broken
    · cases broken
    next wanted =>
      split at broken
      · cases broken
      next event decoded =>
        have same : event.eventType = record.eventType := by
          unfold EventRegistry.decodeRecord at decoded
          split at decoded
          · cases decoded
          · cases decoded
            rfl
        refine ⟨state, event, ?_, ?_, delivery?_eq_none broken⟩
        · rw [EventRegistry.unmarshal, found]
          exact decoded
        · rw [same]
          exact of_not_not wanted

end Handler

variable [Payload Data]

/-- The kinds of steps: a loop and what it works on before a step, what the step does, and both behind it. -/
inductive ConsumerStep (registry : EventRegistry Data) (side : ReadSide State) (consumer : Consumer Data State) :
    Option Consumer.Doing → Consumer Data State → ReadSide State → Prop
  | stopped (stage : consumer.stage = .checking) (told : consumer.signal = .stop) :
      ConsumerStep registry side consumer none (consumer.moveTo (.ended .stopped)) side
  | passed (stage : consumer.stage = .checking) (untold : consumer.signal ≠ .stop) :
      ConsumerStep registry side consumer none (consumer.moveTo .enlisting) side
  | enlisted (stage : consumer.stage = .enlisting) :
      ConsumerStep registry side consumer none { consumer with stage := .looking, woken := false } side
  | looked (stage : consumer.stage = .looking) :
      ConsumerStep registry side consumer none (consumer.moveTo (.reading (side.bus.offset consumer.group))) side
  | read {offset : Nat} {message : List UInt8} (stage : consumer.stage = .reading offset)
      (found : side.bus.log[offset]? = some message) :
      ConsumerStep registry side consumer (some (.began offset message))
        (consumer.moveTo (.delivering offset message)) side
  | parked {offset : Nat} (stage : consumer.stage = .reading offset) (beyond : side.bus.log.length ≤ offset) :
      ConsumerStep registry side consumer none (consumer.moveTo .parked) side
  | delivered {offset : Nat} {message : List UInt8} {outcome : Delivery} {metrics : Option Metrics} {handlers : State}
      (stage : consumer.stage = .delivering offset message)
      (called : consumer.handler.deliver registry side.metrics side.handlers message =
        (some outcome, metrics, handlers)) :
      ConsumerStep registry side consumer (some (.finished offset message)) (consumer.moveTo (.committing offset))
        { side with metrics, handlers }
  | crashed {offset : Nat} {message : List UInt8} {metrics : Option Metrics} {handlers : State}
      (stage : consumer.stage = .delivering offset message)
      (called : consumer.handler.deliver registry side.metrics side.handlers message = (none, metrics, handlers)) :
      ConsumerStep registry side consumer none (consumer.moveTo (.ended .crashed)) { side with metrics, handlers }
  | committed {offset : Nat} (stage : consumer.stage = .committing offset) :
      ConsumerStep registry side consumer none (consumer.moveTo .checking)
        { side with bus := side.bus.commit consumer.group (offset + 1) }
  | woke (stage : consumer.stage = .parked) (woken : consumer.woken = true) :
      ConsumerStep registry side consumer none (consumer.moveTo .checking) side
  | heard (stage : consumer.stage = .parked) (told : consumer.signal = .stop) :
      ConsumerStep registry side consumer none { consumer with stage := .checking, unheard := false } side
  | left (stage : consumer.stage = .parked) (alone : consumer.signal = .abandoned) :
      ConsumerStep registry side consumer none (consumer.moveTo (.ended .abandoned)) side
  | stayed (still : consumer.stage = .parked ∨ consumer.isEnded = true) :
      ConsumerStep registry side consumer none consumer side

namespace Consumer
variable {registry : EventRegistry Data} {side : ReadSide State} {consumer : Consumer Data State}

/-- A parked loop may turn to the signal first, whatever else has happened. -/
theorem consumerStep_heed (registry : EventRegistry Data) (side : ReadSide State) (stage : consumer.stage = .parked) :
    ConsumerStep registry side consumer none consumer.heed side := by
  unfold heed
  split
  · exact .stayed (.inl stage)
  next told =>
    split
    · exact .heard stage told
    · exact .stayed (.inl stage)
  next alone => exact .left stage alone

theorem consumerStep_step (consumer : Consumer Data State) (registry : EventRegistry Data) (side : ReadSide State) :
    ConsumerStep registry side consumer (consumer.doing? registry side) (consumer.step registry side).1
      (consumer.step registry side).2 := by
  cases stage : consumer.stage with
  | checking =>
    simp only [step, doing?, stage]
    split
    next told => exact .stopped stage told
    next untold => exact .passed stage untold
  | enlisting =>
    simp only [step, doing?, stage]
    exact .enlisted stage
  | looking =>
    simp only [step, doing?, stage]
    exact .looked stage
  | reading offset =>
    simp only [step, doing?, stage]
    cases found : side.bus.log[offset]? with
    | none => exact .parked stage (List.getElem?_eq_none_iff.mp found)
    | some message => exact .read stage found
  | delivering offset message =>
    simp only [step, doing?, deliver, stage]
    cases called : consumer.handler.deliver registry side.metrics side.handlers message with
    | mk outcome rest =>
      cases outcome with
      | none => exact .crashed stage called
      | some outcome => exact .delivered stage called
  | committing offset =>
    simp only [step, doing?, stage]
    exact .committed stage
  | parked =>
    simp only [step, doing?, stage]
    split
    next woken => exact .woke stage woken
    next => exact consumerStep_heed registry side stage
  | ended ending =>
    simp only [step, doing?, stage]
    exact .stayed (.inr (by rw [isEnded, stage]))

end Consumer

namespace ConsumerStep
variable {registry : EventRegistry Data} {side later : ReadSide State} {consumer next : Consumer Data State}
  {doing? : Option Consumer.Doing}

theorem handler_eq (consumerStep : ConsumerStep registry side consumer doing? next later) :
    next.handler = consumer.handler := by
  cases consumerStep <;> rfl

theorem group_eq (consumerStep : ConsumerStep registry side consumer doing? next later) : next.group = consumer.group :=
  congrArg Handler.name consumerStep.handler_eq

theorem crew_eq (consumerStep : ConsumerStep registry side consumer doing? next later) : next.crew = consumer.crew := by
  cases consumerStep <;> rfl

theorem signal_eq (consumerStep : ConsumerStep registry side consumer doing? next later) :
    next.signal = consumer.signal := by
  cases consumerStep <;> rfl

theorem log_eq (consumerStep : ConsumerStep registry side consumer doing? next later) :
    later.bus.log = side.bus.log := by
  cases consumerStep <;> rfl

theorem offset_eq (consumerStep : ConsumerStep registry side consumer doing? next later) {group : String}
    (other : consumer.group ≠ group) : later.bus.offset group = side.bus.offset group := by
  cases consumerStep with
  | committed => exact (EventBus.offset_commit ..).trans (if_neg (Ne.symm other))
  | _ => rfl

/-- A delivery is finished just when the handler was called with the message and the call has come to an outcome; the
metrics and the handlers are then what the call has made of them. -/
theorem finished_iff (consumerStep : ConsumerStep registry side consumer doing? next later) {position : Nat}
    {message : List UInt8}
    (stage : consumer.stage = .delivering position message) :
    doing? = some (.finished position message) ↔ ∃ outcome,
      consumer.handler.deliver registry side.metrics side.handlers message =
        (some outcome, later.metrics, later.handlers) := by
  cases consumerStep with
  | delivered other called =>
    cases stage.symm.trans other
    exact ⟨fun _ => ⟨_, called⟩, fun _ => rfl⟩
  | crashed other called =>
    cases stage.symm.trans other
    refine ⟨nofun, fun ⟨outcome, again⟩ => ?_⟩
    cases called.symm.trans again
  | stayed still =>
    rcases still with other | ended
    · cases stage.symm.trans other
    · rw [Consumer.isEnded, stage] at ended
      cases ended
  | stopped other | passed other | enlisted other | looked other | read other | parked other | committed other
  | woke other | heard other | left other => cases stage.symm.trans other

theorem delivering_of_finished {position : Nat} {message : List UInt8}
    (consumerStep : ConsumerStep registry side consumer (some (.finished position message)) next later) :
    consumer.stage = .delivering position message := by
  cases consumerStep with
  | delivered stage called => exact stage

theorem of_isEnded (consumerStep : ConsumerStep registry side consumer doing? next later)
    (ended : consumer.isEnded = true) :
    doing? = none ∧ next = consumer ∧ later = side := by
  unfold Consumer.isEnded at ended
  split at ended
  next ending stage =>
    cases consumerStep with
    | stayed => exact ⟨rfl, rfl, rfl⟩
    | stopped other | passed other | enlisted other | looked other | read other | parked other
    | delivered other | crashed other | committed other | woke other | heard other | left other =>
      rw [stage] at other
      cases other
  next => cases ended

end ConsumerStep

namespace Consumer
variable {registry : EventRegistry Data} {side : ReadSide State} {consumer : Consumer Data State}

/-- The loop has ended, or it is parked and nothing calls it. -/
def Rests (consumer : Consumer Data State) : Prop :=
  consumer.isEnded = true ∨ consumer.stage = .parked ∧ consumer.isCalled = false

theorem Rests.step (rests : consumer.Rests) (registry : EventRegistry Data) (side : ReadSide State) :
    consumer.step registry side = (consumer, side) := by
  rcases rests with ended | ⟨stage, uncalled⟩
  · unfold isEnded at ended
    split at ended
    next ending stage => rw [Consumer.step, stage]
    next => cases ended
  · simp only [isCalled, Bool.or_eq_false_iff, decide_eq_false_iff_not] at uncalled
    obtain ⟨⟨unwoken, owned⟩, told⟩ := uncalled
    rw [Consumer.step, stage]
    simp only [unwoken, Bool.false_eq_true, if_false, heed]
    cases signal : consumer.signal with
    | run => rfl
    | stop =>
      have heard : consumer.unheard = false := by simpa [signal] using told
      simp only [heard, Bool.false_eq_true, if_false]
    | abandoned => exact absurd signal owned

theorem Rests.steps (rests : consumer.Rests) (registry : EventRegistry Data) (side : ReadSide State)
    (count : Nat) : steps registry count (consumer, side) = (consumer, side) := by
  induction count with
  | zero => rfl
  | succ count ih => rw [Consumer.steps, rests.step registry side, ih]

theorem steps_add (registry : EventRegistry Data) (first second : Nat)
    (reached : Consumer Data State × ReadSide State) :
    steps registry (first + second) reached = steps registry second (steps registry first reached) := by
  induction first generalizing reached with
  | zero => rw [Nat.zero_add]; rfl
  | succ first ih =>
    rw [Nat.succ_add]
    exact ih _

theorem rests_of_le {first second : Nat} {reached : Consumer Data State × ReadSide State}
    (rests : (steps registry first reached).1.Rests) (more : first ≤ second) :
    (steps registry second reached).1.Rests := by
  rw [← Nat.add_sub_cancel' more, steps_add, rests.steps registry _]
  exact rests

/-- One time round: the loop comes to rest, or it has read one message more. -/
theorem steps_round (registry : EventRegistry Data) (side : ReadSide State) (stage : consumer.stage = .checking) :
    (steps registry 5 (consumer, side)).1.Rests ∨ ∃ next later,
      steps registry 6 (consumer, side) = (next, later) ∧ next.stage = .checking ∧
        later.bus.size - later.bus.offset next.group < side.bus.size - side.bus.offset consumer.group := by
  by_cases told : consumer.signal = .stop
  · left
    have ended : (steps registry 1 (consumer, side)).1.Rests := by
      simp only [steps, step, stage, told, if_true]
      exact .inl rfl
    exact rests_of_le ended (by decide)
  · let offset := side.bus.offset consumer.group
    let registered : Consumer Data State := { consumer with stage := .reading offset, woken := false }
    have reads : steps registry 3 (consumer, side) = (registered, side) := by
      simp only [steps, step, stage, told, if_false]
      rfl
    cases found : side.bus.log[offset]? with
    | none =>
      left
      have parks : steps registry 4 (consumer, side) = (registered.moveTo .parked, side) := by
        rw [steps_add registry 3 1, reads]
        simp only [steps, step, registered, found]
      by_cases alone : consumer.signal = .abandoned
      · rw [steps_add registry 4 1, parks]
        simp only [steps, step, heed, moveTo, registered, alone, Bool.false_eq_true, if_false]
        exact .inl rfl
      · have rests : (steps registry 4 (consumer, side)).1.Rests := by
          rw [parks]
          exact .inr ⟨rfl, by simp [isCalled, moveTo, registered, alone, told]⟩
        exact rests_of_le rests (by decide)
    | some message =>
      have delivers : steps registry 5 (consumer, side) =
          (registered.moveTo (.delivering offset message)).deliver registry side offset message := by
        rw [steps_add registry 3 2, reads]
        simp only [steps, step, registered, found, moveTo]
      cases outcome : (consumer.handler.deliver registry side.metrics side.handlers message) with
      | mk delivery rest =>
        cases delivery with
        | none =>
          left
          rw [delivers]
          simp only [deliver, moveTo, registered, outcome]
          exact .inl rfl
        | some delivery =>
          right
          let later : ReadSide State :=
            { bus := side.bus.commit consumer.group (offset + 1), metrics := rest.1, handlers := rest.2 }
          have moved : later.bus.offset consumer.group = offset + 1 :=
            (EventBus.offset_commit ..).trans (if_pos rfl)
          have inside : offset < side.bus.size := (List.getElem?_eq_some_iff.mp found).1
          refine ⟨registered.moveTo .checking, later, ?_, rfl, ?_⟩
          · rw [steps_add registry 5 1, delivers]
            simp only [deliver, moveTo, registered, outcome, steps, step]
            rfl
          · change side.bus.size - later.bus.offset consumer.group < side.bus.size - offset
            omega

/-- From the look at the signal on, six steps for a message and five around them are enough. -/
theorem rests_of_checking (registry : EventRegistry Data) (left : Nat) (consumer : Consumer Data State)
    (side : ReadSide State) (stage : consumer.stage = .checking)
    (behind : side.bus.size - side.bus.offset consumer.group ≤ left) :
    (steps registry (6 * left + 5) (consumer, side)).1.Rests := by
  induction left generalizing consumer side with
  | zero =>
    rcases steps_round registry side stage with rests | ⟨next, later, _, _, less⟩
    · exact rests
    · omega
  | succ left ih =>
    rcases steps_round registry side stage with rests | ⟨next, later, reached, again, less⟩
    · exact rests_of_le rests (by omega)
    · rw [show 6 * (left + 1) + 5 = 6 + (6 * left + 5) by omega, steps_add, reached]
      exact ih next later again (by omega)

theorem settle_rests (registry : EventRegistry Data) (side : ReadSide State)
    (start : consumer.stage = .checking ∨ consumer.stage = .parked) :
    (consumer.settle registry side).1.Rests := by
  rw [settle, enoughSteps]
  obtain ⟨count, same⟩ : ∃ count, 6 * (side.bus.size - side.bus.offset consumer.group) + 5 = count := ⟨_, rfl⟩
  have whole (next : Consumer Data State) (group : next.group = consumer.group) (stage : next.stage = .checking) :
      (steps registry count (next, side)).1.Rests := by
    rw [← same, ← group]
    exact rests_of_checking registry _ next side stage (Nat.le_refl _)
  rw [show 6 * (side.bus.size - side.bus.offset consumer.group) + 6 = count + 1 by omega]
  rcases start with checking | parked
  · exact rests_of_le (whole consumer rfl checking) (Nat.le_succ count)
  · by_cases rests : consumer.Rests
    · rw [rests.steps registry]
      exact rests
    · rw [steps, step, parked]
      dsimp only
      by_cases woken : consumer.woken = true
      · rw [if_pos woken]
        exact whole (consumer.moveTo .checking) rfl rfl
      · rw [if_neg woken, heed]
        cases signal : consumer.signal with
        | run => exact absurd (.inr ⟨parked, by simp [isCalled, woken, signal]⟩) rests
        | stop =>
          dsimp only
          split
          · exact whole _ rfl rfl
          next heard => exact absurd (.inr ⟨parked, by simp [isCalled, woken, signal, heard]⟩) rests
        | abandoned =>
          have ended : (consumer.moveTo (.ended .abandoned)).Rests := .inl rfl
          rw [ended.steps registry]
          exact ended

theorem steps_same (registry : EventRegistry Data) (count : Nat) (reached : Consumer Data State × ReadSide State) :
    (steps registry count reached).1.crew = reached.1.crew ∧
      (steps registry count reached).1.signal = reached.1.signal := by
  induction count generalizing reached with
  | zero => exact ⟨rfl, rfl⟩
  | succ count ih =>
    have consumerStep := reached.1.consumerStep_step registry reached.2
    obtain ⟨crew, signal⟩ := ih (reached.1.step registry reached.2)
    exact ⟨crew.trans consumerStep.crew_eq, signal.trans consumerStep.signal_eq⟩

theorem settle_same (consumer : Consumer Data State) (registry : EventRegistry Data) (side : ReadSide State) :
    (consumer.settle registry side).1.crew = consumer.crew ∧
      (consumer.settle registry side).1.signal = consumer.signal :=
  steps_same registry (enoughSteps side consumer) (consumer, side)

end Consumer

end Inventory
