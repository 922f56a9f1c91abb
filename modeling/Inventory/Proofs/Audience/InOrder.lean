import Inventory.Proofs.Audience.Alone
import Inventory.Proofs.Audience.Dismissal

/-! What a group gets when one loop at a time reads for it and its handler does not break down: the messages of the
log in their order, each once, up to where the group has come, whatever comes of the deliveries and whatever the other
groups do. The loops may be stopped and started again at any point. A message is handed over where a loop takes it up,
and all that were are delivered by a call of the handler, but for the one in hand. -/
namespace Inventory
variable {Data State : Type}

/-- The loop has got a message that its group is not yet moved behind. -/
def Stage.isBusy : Stage → Bool
  | .delivering _ _ | .committing _ => true
  | .checking | .enlisting | .looking | .reading _ | .parked | .ended _ => false

/-- The message that the handler is called with, with its position. -/
def Stage.inHand? : Stage → Option (List UInt8 × Nat)
  | .delivering position message => some (message, position)
  | .checking | .enlisting | .looking | .reading _ | .committing _ | .parked | .ended _ => none

/-- The message that is handed to the handler, with its position. -/
def Consumer.Doing.handed? : Consumer.Doing → Option (List UInt8 × Nat)
  | .began position message => some (message, position)
  | .finished _ _ => none

def Consumer.Doing.delivered? : Consumer.Doing → Option (List UInt8 × Nat)
  | .began _ _ => none
  | .finished position message => some (message, position)

/-- How many messages the group of a loop has got, when no other loop reads for it. -/
def Consumer.reached (consumer : Consumer Data State) (bus : EventBus) : Nat :=
  if consumer.stage.isBusy then bus.offset consumer.group + 1 else bus.offset consumer.group

theorem Stage.inHand?_of_not_isBusy {stage : Stage} (idle : stage.isBusy = false) : stage.inHand? = none := by
  cases stage with
  | delivering => cases idle
  | _ => rfl

theorem Consumer.isEnded_of_isBusy (consumer : Consumer Data State) (busy : consumer.stage.isBusy = true) :
    consumer.isEnded = false := by
  unfold Consumer.isEnded
  split
  next ending stage =>
    rw [stage] at busy
    cases busy
  next => rfl

namespace Audience

def noted (audience : Audience Data State) (group : String) (part : Consumer.Doing → Option (List UInt8 × Nat)) :
    List (List UInt8 × Nat) :=
  (audience.journal.filter (·.group = group)).filterMap (part ·.doing)

def heard (audience : Audience Data State) (group : String) : List (List UInt8 × Nat) :=
  audience.noted group Consumer.Doing.handed?

def delivered (audience : Audience Data State) (group : String) : List (List UInt8 × Nat) :=
  audience.noted group Consumer.Doing.delivered?

def inHand? (audience : Audience Data State) (group : String) : Option (List UInt8 × Nat) :=
  audience.loops.findSome? fun consumer => if consumer.group = group then consumer.stage.inHand? else none

/-- A delivery to the group is in progress, or done without the group having been moved. -/
def isBusy (audience : Audience Data State) (group : String) : Bool :=
  audience.loops.any fun consumer => consumer.group = group && consumer.stage.isBusy

/-- How many messages the group has got: those that lie behind it, and the one that is under way. -/
def reached (audience : Audience Data State) (group : String) : Nat :=
  if audience.isBusy group then audience.offset group + 1 else audience.offset group

/-- No loop of the group has ended because the handler broke down. -/
def Unbroken (audience : Audience Data State) (group : String) : Prop :=
  ∀ consumer ∈ audience.loops, consumer.group = group → consumer.stage ≠ .ended .crashed

instance (audience : Audience Data State) (group : String) : Decidable (audience.Unbroken group) :=
  inferInstanceAs (Decidable (∀ consumer ∈ audience.loops, _))

structure InOrder (audience : Audience Data State) (group : String) : Prop where
  heard_eq : audience.heard group = (audience.log.take (audience.reached group)).zipIdx
  reached_le : audience.reached group ≤ audience.log.length
  whole : audience.heard group = audience.delivered group ++ (audience.inHand? group).toList

/-- In this turn a loop of the group calls its handler with a message, the delivery comes to an outcome, and the metrics
and the handlers are left as the delivery leaves them. -/
def Delivers [Payload Data] (registry : EventRegistry Data) (audience : Audience Data State) (turn : Turn Data State)
    (later : Audience Data State) (group : String) (message : List UInt8) (position : Nat) : Prop :=
  ∃ index consumer outcome, turn = .step index ∧ audience.loops[index]? = some consumer ∧ consumer.group = group ∧
    consumer.stage = .delivering position message ∧
    consumer.handler.deliver registry audience.side.metrics audience.side.handlers message =
      (some outcome, later.side.metrics, later.side.handlers)

end Audience

variable [Payload Data] {registry : EventRegistry Data}

namespace ConsumerStep
variable {side later : ReadSide State} {consumer next : Consumer Data State} {doing? : Option Consumer.Doing}

theorem offset_le (consumerStep : ConsumerStep registry side consumer doing? next later)
    (aligned : ∀ offset, consumer.stage.offset? = some offset → offset = side.bus.offset consumer.group) :
    side.bus.offset consumer.group ≤ later.bus.offset consumer.group := by
  cases consumerStep with
  | @committed offset stage =>
    rw [EventBus.offset_commit, if_pos rfl, aligned offset (by rw [stage]; rfl)]
    exact Nat.le_succ _
  | _ => exact Nat.le_refl _

/-- Unless the handler breaks down, a step leaves the group with what it has got, or it hands the next message of the
log to the handler. -/
theorem reached (consumerStep : ConsumerStep registry side consumer doing? next later)
    (aligned : ∀ offset, consumer.stage.offset? = some offset → offset = side.bus.offset consumer.group)
    (unbroken : next.stage ≠ .ended .crashed) :
    doing?.bind Consumer.Doing.handed? = none ∧ next.reached later.bus = consumer.reached side.bus ∨
      ∃ message, doing?.bind Consumer.Doing.handed? = some (message, consumer.reached side.bus) ∧
        side.bus.log[consumer.reached side.bus]? = some message ∧
          next.reached later.bus = consumer.reached side.bus + 1 := by
  cases consumerStep with
  | @read offset message stage found =>
    have same := aligned offset (by rw [stage]; rfl)
    have before : consumer.reached side.bus = offset := by
      rw [Consumer.reached, stage, same]
      rfl
    refine .inr ⟨message, ?_, ?_, ?_⟩
    · rw [before]
      rfl
    · rw [before]
      exact found
    · rw [before, same]
      rfl
  | @committed offset stage =>
    have same := aligned offset (by rw [stage]; rfl)
    refine .inl ⟨rfl, ?_⟩
    rw [Consumer.reached, Consumer.reached, stage, ← same]
    exact (EventBus.offset_commit ..).trans (if_pos rfl)
  | crashed => exact absurd rfl unbroken
  | delivered stage =>
    refine .inl ⟨rfl, ?_⟩
    rw [Consumer.reached, Consumer.reached, stage]
    rfl
  | stayed => exact .inl ⟨rfl, rfl⟩
  | stopped stage | passed stage | enlisted stage | looked stage | parked stage | woke stage | heard stage
  | left stage =>
    refine .inl ⟨rfl, ?_⟩
    rw [Consumer.reached, Consumer.reached, stage]
    rfl

theorem inHand? (consumerStep : ConsumerStep registry side consumer doing? next later)
    (unbroken : next.stage ≠ .ended .crashed) :
    consumer.stage.inHand?.toList ++ (doing?.bind Consumer.Doing.handed?).toList =
      (doing?.bind Consumer.Doing.delivered?).toList ++ next.stage.inHand?.toList := by
  cases consumerStep with
  | crashed => exact absurd rfl unbroken
  | stayed => exact List.append_nil _
  | stopped stage | passed stage | enlisted stage | looked stage | read stage | parked stage | delivered stage
  | committed stage | woke stage | heard stage | left stage =>
    rw [stage]
    rfl

end ConsumerStep

namespace Audience
variable {audience later : Audience Data State} {group : String}

omit [Payload Data] in
theorem inOrder_opening (metrics : Option Metrics) (handlers : State) (group : String) :
    (opening metrics handlers : Audience Data State).InOrder group :=
  ⟨rfl, Nat.le_refl 0, rfl⟩

omit [Payload Data] in
theorem Solo.idle {before behind : List (Consumer Data State)} {consumer : Consumer Data State}
    (solo : audience.Solo group) (whole : audience.loops = before ++ consumer :: behind)
    (serves : consumer.Serves group) :
    ∀ other ∈ before ++ behind, ¬ (other.group = group ∧ other.stage.isBusy = true) :=
  fun other around ⟨own, busy⟩ => solo.others whole serves around ⟨own, other.isEnded_of_isBusy busy⟩

omit [Payload Data] in
theorem Solo.isBusy {before behind : List (Consumer Data State)} {consumer next : Consumer Data State}
    (solo : audience.Solo group) (whole : audience.loops = before ++ consumer :: behind)
    (serves : consumer.Serves group) (same : next.group = group) (loops : later.loops = before ++ next :: behind) :
    later.isBusy group = next.stage.isBusy := by
  have idle := solo.idle whole serves
  rw [Audience.isBusy, loops, Bool.eq_iff_iff, List.any_eq_true]
  constructor
  · rintro ⟨other, member, busy⟩
    rw [List.perm_middle.mem_iff, List.mem_cons] at member
    simp only [Bool.and_eq_true, decide_eq_true_eq] at busy
    rcases member with rfl | around
    · exact busy.2
    · exact absurd busy (idle other around)
  · intro busy
    refine ⟨next, by simp, ?_⟩
    simp only [same, busy, decide_true, Bool.and_self]

omit [Payload Data] in
theorem Solo.inHand? {before behind : List (Consumer Data State)} {consumer next : Consumer Data State}
    (solo : audience.Solo group) (whole : audience.loops = before ++ consumer :: behind)
    (serves : consumer.Serves group) (same : next.group = group) (loops : later.loops = before ++ next :: behind) :
    later.inHand? group = next.stage.inHand? := by
  have empty (part : List (Consumer Data State)) (around : part ⊆ before ++ behind) :
      (part.findSome? fun other => if other.group = group then other.stage.inHand? else none) = none := by
    rw [List.findSome?_eq_none_iff]
    intro other member
    split
    next own =>
      have idle := solo.idle whole serves other (around member)
      exact Stage.inHand?_of_not_isBusy (Bool.not_eq_true _ ▸ fun busy => idle ⟨own, busy⟩)
    next => rfl
  rw [Audience.inHand?, loops, List.findSome?_append, List.findSome?_cons, if_pos same,
    empty before (List.subset_append_left ..), empty behind (List.subset_append_right ..), Option.none_or]
  cases next.stage.inHand? <;> rfl

omit [Payload Data] in
theorem isBusy_of_ne {before behind : List (Consumer Data State)} {consumer next : Consumer Data State}
    (whole : audience.loops = before ++ consumer :: behind) (loops : later.loops = before ++ next :: behind)
    (other : consumer.group ≠ group) (same : next.group = consumer.group) :
    later.isBusy group = audience.isBusy group ∧ later.inHand? group = audience.inHand? group := by
  have apart : next.group ≠ group := same ▸ other
  constructor
  · simp only [Audience.isBusy, loops, whole, List.any_append, List.any_cons, other, apart, decide_false,
      Bool.false_and, Bool.false_or]
  · simp only [Audience.inHand?, loops, whole, List.findSome?_append, List.findSome?_cons, other, apart, if_false]

omit [Payload Data] in
theorem noted_advance (audience : Audience Data State) (index : Nat) (consumer next : Consumer Data State)
    (doing? : Option Consumer.Doing) (side : ReadSide State) (group : String)
    (part : Consumer.Doing → Option (List UInt8 × Nat)) :
    (audience.advance index consumer doing? next side).noted group part =
      audience.noted group part ++ if consumer.group = group then (doing?.bind part).toList else [] := by
  rw [noted, advance, List.filter_append, List.filterMap_append, ← noted]
  congr 1
  cases doing? with
  | none => simp
  | some doing =>
    by_cases own : consumer.group = group
    · cases taken : part doing <;> simp [Consumer.note, own, taken]
    · simp [Consumer.note, own]

omit [Payload Data] in
theorem reached_congr (loops : later.isBusy group = audience.isBusy group)
    (offset : later.offset group = audience.offset group) : later.reached group = audience.reached group := by
  rw [reached, reached, loops, offset]

omit [Payload Data] in
theorem InOrder.same (inOrder : audience.InOrder group) (heard : later.heard group = audience.heard group)
    (log : audience.log <+: later.log) (reached : later.reached group = audience.reached group)
    (whole : later.heard group = later.delivered group ++ (later.inHand? group).toList) : later.InOrder group := by
  obtain ⟨more, longer⟩ := log
  refine ⟨?_, ?_, whole⟩
  · rw [heard, reached, ← longer, List.take_append_of_le_length inOrder.reached_le]
    exact inOrder.heard_eq
  · rw [reached, ← longer, List.length_append]
    exact Nat.le_add_right_of_le inOrder.reached_le

omit [Payload Data] in
theorem InOrder.next (inOrder : audience.InOrder group) {message : List UInt8}
    (found : audience.log[audience.reached group]? = some message)
    (heard : later.heard group = audience.heard group ++ [(message, audience.reached group)])
    (log : later.log = audience.log) (reached : later.reached group = audience.reached group + 1)
    (whole : later.heard group = later.delivered group ++ (later.inHand? group).toList) : later.InOrder group := by
  have inside := (List.getElem?_eq_some_iff.mp found).1
  refine ⟨?_, ?_, whole⟩
  · rw [heard, reached, log, List.take_add_one, found, inOrder.heard_eq, List.zipIdx_append, List.length_take,
      Nat.min_eq_left (Nat.le_of_lt inside), Nat.zero_add]
    rfl
  · rw [reached, log]
    exact inside

theorem InOrder.whole_advance (inOrder : audience.InOrder group) (solo : audience.Solo group) {index : Nat}
    {consumer next : Consumer Data State} {doing? : Option Consumer.Doing} {side : ReadSide State}
    (found : audience.loops[index]? = some consumer) (alive : consumer.isEnded = false)
    (consumerStep : ConsumerStep registry audience.side consumer doing? next side)
    (unbroken : (audience.advance index consumer doing? next side).Unbroken group) :
    let later := audience.advance index consumer doing? next side
    later.heard group = later.delivered group ++ (later.inHand? group).toList := by
  intro later
  obtain ⟨before, behind, loops, _, set⟩ := exists_around found
  have loopsLater : later.loops = before ++ next :: behind := set next
  rw [heard, delivered, noted_advance, noted_advance]
  by_cases own : consumer.group = group
  · subst own
    have member : next ∈ later.loops := by
      rw [loopsLater]
      exact List.mem_append_right _ List.mem_cons_self
    have held : audience.inHand? consumer.group = consumer.stage.inHand? :=
      solo.inHand? loops ⟨rfl, alive⟩ rfl loops
    have holds : later.inHand? consumer.group = next.stage.inHand? :=
      solo.inHand? loops ⟨rfl, alive⟩ consumerStep.group_eq loopsLater
    have split := inOrder.whole
    rw [heard, delivered, held] at split
    rw [if_pos rfl, if_pos rfl, holds, split, List.append_assoc, List.append_assoc,
      consumerStep.inHand? (unbroken next member consumerStep.group_eq)]
  · rw [if_neg own, if_neg own, List.append_nil, List.append_nil,
      (isBusy_of_ne loops loopsLater own consumerStep.group_eq).2]
    exact inOrder.whole

theorem InOrder.readStep (inOrder : audience.InOrder group) (aligned : audience.Aligned group)
    (solo : audience.Solo group) (readStep : ReadStep registry audience later) (unbroken : later.Unbroken group) :
    later.InOrder group := by
  cases readStep with
  | @moved index consumer next doing? side found alive consumerStep =>
    obtain ⟨before, behind, whole, _, set⟩ := exists_around found
    have split := inOrder.whole_advance solo found alive consumerStep unbroken
    have sameLog : (audience.advance index consumer doing? next side).log = audience.log := consumerStep.log_eq
    by_cases own : consumer.group = group
    · subst own
      have here : audience.reached consumer.group = consumer.reached audience.side.bus := by
        rw [Audience.reached, solo.isBusy whole ⟨rfl, alive⟩ rfl whole]
        rfl
      have there : (audience.advance index consumer doing? next side).reached consumer.group =
          next.reached side.bus := by
        rw [Audience.reached, solo.isBusy whole ⟨rfl, alive⟩ consumerStep.group_eq (set next), Consumer.reached,
          consumerStep.group_eq]
        rfl
      have member : next ∈ (audience.advance index consumer doing? next side).loops := by
        change next ∈ audience.loops.set index next
        simp [set]
      -- the group has got as much as the one loop shows by its stage
      rcases consumerStep.reached (aligned consumer (List.mem_of_getElem? found) rfl)
        (unbroken next member consumerStep.group_eq) with
        ⟨silent, same⟩ | ⟨message, handed, held, more⟩
      · refine inOrder.same ?_ (sameLog ▸ List.prefix_rfl) (there.trans (same.trans here.symm)) split
        rw [heard, noted_advance, if_pos rfl, silent, Option.toList_none, List.append_nil, heard]
      · rw [← here] at held handed more
        refine inOrder.next held ?_ sameLog (there.trans more) split
        rw [heard, noted_advance, if_pos rfl, handed, Option.toList_some, heard]
    · refine inOrder.same ?_ (sameLog ▸ List.prefix_rfl)
        (reached_congr (isBusy_of_ne whole (set next) own consumerStep.group_eq).1 (consumerStep.offset_eq own)) split
      rw [heard, noted_advance, if_neg own, List.append_nil, heard]
  | joined handlers =>
    have same : (audience.step registry (.start handlers)).inHand? group = audience.inHand? group := by
      rw [inHand?, step, List.findSome?_append]
      refine (congrArg _ (List.findSome?_eq_none_iff.mpr fun consumer member => ?_)).trans Option.or_none
      obtain ⟨handler, _, rfl⟩ := List.mem_map.mp member
      exact ite_self none
    refine inOrder.same rfl List.prefix_rfl (reached_congr ?_ rfl) (same ▸ inOrder.whole)
    rw [isBusy, step, List.any_append, List.any_map]
    simp [isBusy, Stage.isBusy]
  | elsewhere change alike loops crews journal log offset =>
    have noted (part : Consumer.Doing → Option (List UInt8 × Nat)) :
        later.noted group part = audience.noted group part := by
      rw [Audience.noted, journal, Audience.noted]
    have same : later.inHand? group = audience.inHand? group := by
      rw [inHand?, loops, List.findSome?_map, inHand?]
      congr
      funext consumer
      rw [Function.comp_apply, (alike consumer).group_eq, (alike consumer).stage]
    refine inOrder.same (noted _) log (reached_congr ?_ (offset group)) ?_
    · rw [isBusy, loops, List.any_map, isBusy]
      congr
      funext consumer
      rw [Function.comp_apply, (alike consumer).group_eq, (alike consumer).stage]
    · rw [heard, delivered, noted, noted, same]
      exact inOrder.whole

theorem journal_step (registry : EventRegistry Data) (audience : Audience Data State) {turn : Turn Data State}
    (other : ∀ index, turn ≠ .step index) : (audience.step registry turn).journal = audience.journal := by
  cases turn with
  | step index => exact absurd rfl (other index)
  | publish events =>
    rw [step]
    split
    · rfl
    · split <;> rfl
  | announce index =>
    rw [step]
    split <;> rfl
  | heed index =>
    rw [step]
    split
    · rfl
    · split
      · exact List.append_nil _
      · rfl
  | stop crew | abandon crew =>
    rw [step, tell]
    split <;> rfl
  | dismiss crew =>
    rw [step]
    split <;> rfl
  | setAvailable | start | sway => rfl

/-- A turn adds to what was delivered the message that it delivers, or it delivers nothing and leaves it as it was. -/
theorem delivered_step (registry : EventRegistry Data) (audience : Audience Data State) (turn : Turn Data State)
    (group : String) :
    let later := audience.step registry turn
    (∃ message position, Delivers registry audience turn later group message position ∧
      later.delivered group = audience.delivered group ++ [(message, position)]) ∨
    (¬ ∃ message position, Delivers registry audience turn later group message position) ∧
      later.delivered group = audience.delivered group := by
  intro later
  by_cases other : ∀ index, turn ≠ .step index
  · refine .inr ⟨?_, ?_⟩
    · rintro ⟨_, _, index, _, _, same, _⟩
      exact other index same
    · rw [delivered, noted, journal_step registry audience other, delivered, noted]
  · obtain ⟨index, rfl⟩ : ∃ index, turn = .step index := by simpa using other
    cases found : audience.loops[index]? with
    | none =>
      have same : later = audience := by rw [show later = audience.step registry (.step index) from rfl, step, found]
      refine .inr ⟨?_, by rw [same]⟩
      rintro ⟨_, _, _, _, _, turn, there, _⟩
      cases turn
      cases found.symm.trans there
    | some consumer =>
      have consumerStep := consumer.consumerStep_step registry audience.side
      obtain ⟨next, side, doing?, moved, consumerStep⟩ : ∃ next side doing?,
          later = audience.advance index consumer doing? next side ∧
            ConsumerStep registry audience.side consumer doing? next side := by
        refine ⟨_, _, _, ?_, consumerStep⟩
        rw [show later = audience.step registry (.step index) from rfl, step, found]
      -- a call of the handler and its note come together
      have only {message : List UInt8} {position : Nat}
          (delivers : Delivers registry audience (.step index) later group message position) :
          consumer.group = group ∧ doing? = some (.finished position message) := by
        obtain ⟨_, _, outcome, turn, there, own, stage, called⟩ := delivers
        cases turn
        cases found.symm.trans there
        rw [moved] at called
        exact ⟨own, (consumerStep.finished_iff stage).mpr ⟨outcome, called⟩⟩
      have idle (other : ∀ message position, ¬ (consumer.group = group ∧ doing? = some (.finished position message))) :
          ¬ ∃ message position, Delivers registry audience (.step index) later group message position := by
        rintro ⟨message, position, delivers⟩
        exact other message position (only delivers)
      rw [show later.delivered group = _ from congrArg (delivered · group) moved, delivered, noted_advance, ← delivered]
      by_cases own : consumer.group = group
      · rw [if_pos own]
        cases doing? with
        | none => exact .inr ⟨idle (by simp), List.append_nil _⟩
        | some doing =>
          cases doing with
          | began => exact .inr ⟨idle (by simp), List.append_nil _⟩
          | finished position message =>
            have stage := consumerStep.delivering_of_finished
            obtain ⟨outcome, called⟩ := (consumerStep.finished_iff stage).mp rfl
            have left : side = later.side := (congrArg Audience.side moved).symm
            rw [left] at called
            exact .inl ⟨message, position, ⟨index, consumer, outcome, rfl, found, own, stage, called⟩, rfl⟩
      · rw [if_neg own, List.append_nil]
        exact .inr ⟨idle fun message position both => own both.1, rfl⟩

theorem Aligned.offset_le (aligned : audience.Aligned group) (readStep : ReadStep registry audience later) :
    audience.offset group ≤ later.offset group := by
  cases readStep with
  | @moved index consumer next doing? side found alive consumerStep =>
    by_cases own : consumer.group = group
    · subst own
      exact consumerStep.offset_le (aligned consumer (List.mem_of_getElem? found) rfl)
    · exact Nat.le_of_eq (consumerStep.offset_eq own).symm
  | joined handlers => exact Nat.le_refl _
  | elsewhere change alike loops crews journal log offset => exact Nat.le_of_eq (offset group).symm

section
variable {metrics : Option Metrics} {handlers : State} {turns rest : List (Turn Data State)}

theorem inOrder_run (solo : Throughout registry (opening metrics handlers) turns (·.Solo group))
    (unbroken : Throughout registry (opening metrics handlers) turns (·.Unbroken group)) :
    ((opening metrics handlers).run registry turns).InOrder group := by
  induction turns using List.reverseRecOn with
  | nil => exact inOrder_opening metrics handlers group
  | append_singleton turns turn ih =>
    have after := unbroken.last
    rw [run_append] at after ⊢
    exact (ih solo.of_append unbroken.of_append).readStep (aligned_run solo.of_append) solo.of_append.last
      (readStep_step registry _ turn) after

theorem offset_mono (solo : Throughout registry (opening metrics handlers) (turns ++ rest) (·.Solo group)) :
    ((opening metrics handlers).run registry turns).offset group ≤
      ((opening metrics handlers).run registry (turns ++ rest)).offset group := by
  induction rest using List.reverseRecOn with
  | nil => exact Nat.le_of_eq (by rw [List.append_nil])
  | append_singleton rest turn ih =>
    rw [← List.append_assoc] at solo ⊢
    refine Nat.le_trans (ih solo.of_append) ?_
    rw [run_append registry _ (turns ++ rest) [turn]]
    exact (aligned_run solo.of_append).offset_le (readStep_step registry _ turn)

end

/-- A group for which one loop at a time reads, and whose handler does not break down: at every moment it has got the
first messages of the log, each once and in order, namely those that lie behind it and the one under way. All of them
were delivered, but for the one that a handler is called with, and what was delivered is what the turns of the run
delivered by calling the handler, turn by turn. The group moves only forwards and never beyond the log, and a crew that
was stopped and has been waited for does nothing more. -/
theorem consumed_run (registry : EventRegistry Data) (metrics : Option Metrics) (handlers : State)
    (turns : List (Turn Data State)) (group : String)
    (solo : Throughout registry (opening metrics handlers) turns (·.Solo group))
    (unbroken : Throughout registry (opening metrics handlers) turns (·.Unbroken group)) :
    let audience := (opening metrics handlers).run registry turns
    audience.heard group = (audience.log.take (audience.reached group)).zipIdx ∧
      audience.heard group = audience.delivered group ++ (audience.inHand? group).toList ∧
      audience.reached group ≤ audience.log.length ∧ audience.offset group ≤ audience.log.length ∧
      (∀ earlier, earlier <+: turns →
        let before := (opening metrics handlers).run registry earlier
        before.offset group ≤ audience.offset group ∧
          ∀ crew, before.Dismissed crew → audience.deeds crew = before.deeds crew) ∧
      ∀ earlier turn, earlier ++ [turn] <+: turns →
        let before := (opening metrics handlers).run registry earlier
        let after := (opening metrics handlers).run registry (earlier ++ [turn])
        (∃ message position, Delivers registry before turn after group message position ∧
          after.delivered group = before.delivered group ++ [(message, position)]) ∨
        (¬ ∃ message position, Delivers registry before turn after group message position) ∧
          after.delivered group = before.delivered group := by
  intro audience
  have inOrder := inOrder_run solo unbroken
  refine ⟨inOrder.heard_eq, inOrder.whole, inOrder.reached_le, ?_, ?_, fun earlier turn _ => ?_⟩
  · have lower : audience.offset group ≤ audience.reached group := by
      unfold reached
      split <;> omega
    exact Nat.le_trans lower inOrder.reached_le
  · rintro earlier ⟨rest, rfl⟩
    refine ⟨offset_mono solo, fun crew dismissed => ?_⟩
    change ((opening metrics handlers).run registry (earlier ++ rest)).deeds crew = _
    rw [run_append]
    exact (spent_of_dismissed registry metrics handlers earlier dismissed).run rest
  · rw [run_append]
    exact delivered_step registry _ turn group

/-- In the relay the first crew gets one mark before it ends, and the next crew gets the other one. -/
theorem consumed_relay :
    let audience := (opening none 0).run Tally.registry Tally.relay
    Throughout Tally.registry (opening none 0) Tally.relay (·.Solo "failing") ∧
      Throughout Tally.registry (opening none 0) Tally.relay (·.Unbroken "failing") ∧
        audience.heard "failing" = audience.log.zipIdx ∧ audience.delivered "failing" = audience.log.zipIdx := by
  intro audience
  have unbroken : Throughout Tally.registry (opening none 0) Tally.relay (·.Unbroken "failing") := by
    decide +kernel
  have whole : audience.log.length ≤ audience.reached "failing" := by decide +kernel
  have resting : audience.inHand? "failing" = none := by decide +kernel
  obtain ⟨heard, split, _⟩ := consumed_run Tally.registry none 0 Tally.relay "failing" Tally.solo_relay unbroken
  rw [List.take_of_length_le whole] at heard
  rw [resting, Option.toList_none, List.append_nil] at split
  exact ⟨Tally.solo_relay, unbroken, heard, split.symm.trans heard⟩

end Audience

end Inventory
