import Inventory.Proofs.Audience.Alone
import Inventory.Proofs.Audience.Attended

/-! Nobody waits in vain. A loop registers to be woken before it looks at the log, and a signal stays for it until it
has waited for it once. So whatever happens between a look and the wait calls the loop: one that is parked and was not
woken has all that was announced behind it, and none stays parked that was told to stop. -/
namespace Inventory
variable {Data State : Type}

namespace Consumer

/-- A loop that was told to stop has yet to wait for the signal, or sees it with its next step. -/
def Attentive (consumer : Consumer Data State) : Prop :=
  consumer.signal = .stop → consumer.unheard = true ∨ consumer.stage = .checking ∨ consumer.isEnded = true

theorem Attentive.unheard {consumer : Consumer Data State} (attentive : consumer.Attentive)
    (told : consumer.signal = .stop) (past : consumer.stage ≠ .checking) (alive : consumer.isEnded = false) :
    consumer.unheard = true := by
  rcases attentive told with unheard | checking | ended
  · exact unheard
  · exact absurd checking past
  · rw [alive] at ended
    cases ended

theorem Attentive.unheard_of_parked {consumer : Consumer Data State} (attentive : consumer.Attentive)
    (told : consumer.signal = .stop) (parked : consumer.stage = .parked) : consumer.unheard = true := by
  refine attentive.unheard told ?_ ?_
  · simp [parked]
  · rw [isEnded, parked]

theorem Attentive.isCalled {consumer : Consumer Data State} (attentive : consumer.Attentive)
    (told : consumer.signal = .stop) (parked : consumer.stage = .parked) : consumer.isCalled = true := by
  simp [Consumer.isCalled, told, attentive.unheard_of_parked told parked]

theorem notify_signal (consumer : Consumer Data State) : consumer.notify.signal = consumer.signal := by
  unfold notify
  split <;> rfl

theorem notify_unheard (consumer : Consumer Data State) : consumer.notify.unheard = consumer.unheard := by
  unfold notify
  split <;> rfl

theorem notify_woken {consumer : Consumer Data State} (parked : consumer.stage = .parked) :
    consumer.notify.woken = true := by
  rw [notify, parked]

end Consumer

variable [Payload Data] {registry : EventRegistry Data}

theorem ConsumerStep.attentive {side later : ReadSide State} {consumer next : Consumer Data State}
    {doing? : Option Consumer.Doing} (consumerStep : ConsumerStep registry side consumer doing? next later)
    (alive : consumer.isEnded = false) (attentive : consumer.Attentive) : next.Attentive := by
  intro told
  rw [consumerStep.signal_eq] at told
  cases consumerStep with
  | stopped | crashed | left => exact .inr (.inr rfl)
  | passed stage untold => exact absurd told untold
  | committed | woke | heard => exact .inr (.inl rfl)
  | enlisted stage | looked stage | read stage | parked stage | delivered stage =>
    exact .inl (attentive.unheard told (by rw [stage]; nofun) alive)
  | stayed => exact attentive told

theorem ConsumerStep.caughtUp {side later : ReadSide State} {consumer next : Consumer Data State}
    {doing? : Option Consumer.Doing} (consumerStep : ConsumerStep registry side consumer doing? next later)
    (aligned : ∀ offset, consumer.stage.offset? = some offset → offset = side.bus.offset consumer.group)
    (before : consumer.stage = .parked → consumer.woken = false →
      side.bus.log.length ≤ side.bus.offset consumer.group)
    (parked : next.stage = .parked) (unwoken : next.woken = false) :
    later.bus.log.length ≤ later.bus.offset consumer.group := by
  cases consumerStep with
  | @parked offset stage beyond =>
    rw [← aligned offset (by rw [stage]; rfl)]
    exact beyond
  | stayed still => exact before parked unwoken
  | stopped | passed | enlisted | looked | read | delivered | crashed | committed | woke | heard | left =>
    cases parked

namespace Audience

def signal? (audience : Audience Data State) (crew : Nat) : Option Signal :=
  audience.crews[crew]?.map Crew.signal

omit [Payload Data] in
theorem lt_of_signal? {audience : Audience Data State} {crew : Nat} {signal : Signal}
    (told : audience.signal? crew = some signal) : crew < audience.crews.length := by
  obtain ⟨_, found, _⟩ := Option.map_eq_some_iff.mp told
  exact (List.getElem?_eq_some_iff.mp found).1

/-- What a loop may have ended for. -/
def Justifies (registry : EventRegistry Data) (audience : Audience Data State) (consumer : Consumer Data State) :
    Ending → Prop
  | .stopped => audience.signal? consumer.crew = some .stop
  | .abandoned => audience.signal? consumer.crew = some .abandoned
  | .crashed => ∃ message ∈ audience.log, consumer.handler.CrashesAt registry message

structure Tuned (registry : EventRegistry Data) (audience : Audience Data State) (consumer : Consumer Data State) :
    Prop where
  told : audience.signal? consumer.crew = some consumer.signal
  attentive : consumer.Attentive
  justified : ∀ ending, consumer.stage = .ended ending → audience.Justifies registry consumer ending

variable {audience later : Audience Data State} {group : String}

theorem Tuned.keep {first second : Consumer Data State} (tuned : audience.Tuned registry first)
    (alike : first.Alike second) (signal : second.signal = first.signal) (unheard : second.unheard = first.unheard)
    (same : later.signal? first.crew = audience.signal? first.crew) (log : audience.log <+: later.log) :
    later.Tuned registry second := by
  constructor
  · rw [alike.crew, same, signal]
    exact tuned.told
  · intro told
    rw [unheard, alike.stage, Consumer.isEnded, alike.stage]
    exact tuned.attentive (signal ▸ told)
  · intro ending stage
    have before := tuned.justified ending (alike.stage ▸ stage)
    cases ending with
    | stopped | abandoned =>
      rw [Justifies, alike.crew, same]
      exact before
    | crashed =>
      obtain ⟨message, inside, crashes⟩ := before
      exact ⟨message, log.subset inside, alike.handler ▸ crashes⟩

theorem Tuned.paced {consumer next : Consumer Data State} {doing? : Option Consumer.Doing} {side : ReadSide State}
    (tuned : audience.Tuned registry consumer) (alive : consumer.isEnded = false)
    (held : ∀ position message, consumer.stage = .delivering position message → message ∈ audience.log)
    (consumerStep : ConsumerStep registry audience.side consumer doing? next side)
    (same : later.signal? consumer.crew = audience.signal? consumer.crew) (log : audience.log <+: later.log) :
    later.Tuned registry next := by
  have told : later.signal? next.crew = some next.signal := by
    rw [consumerStep.crew_eq, same, consumerStep.signal_eq]
    exact tuned.told
  refine ⟨told, consumerStep.attentive alive tuned.attentive, fun ending ended => ?_⟩
  rw [consumerStep.signal_eq] at told
  cases consumerStep with
  | stopped stage signal =>
    cases ended
    exact told.trans (congrArg some signal)
  | left stage alone =>
    cases ended
    exact told.trans (congrArg some alone)
  | @crashed offset message metrics handlers stage called =>
    cases ended
    exact ⟨message, log.subset (held offset message stage), Handler.crashesAt_of_deliver (congrArg Prod.fst called)⟩
  | stayed still =>
    rw [Consumer.isEnded, ended] at alive
    cases alive
  | passed | enlisted | looked | read | parked | delivered | committed | woke | heard => cases ended

theorem Tuned.hear {consumer : Consumer Data State} {signal : Signal} (tuned : audience.Tuned registry consumer)
    (untold : consumer.signal = .run) (told : later.signal? consumer.crew = some signal)
    (log : audience.log <+: later.log) : later.Tuned registry (consumer.hear signal) := by
  refine ⟨told, fun _ => .inl rfl, fun ending ended => ?_⟩
  have before := tuned.justified ending ended
  cases ending with
  | stopped | abandoned =>
    rw [Justifies, tuned.told, untold] at before
    cases before
  | crashed =>
    obtain ⟨message, inside, crashes⟩ := before
    exact ⟨message, log.subset inside, crashes⟩

theorem tuned_shift (tuned : ∀ consumer ∈ audience.loops, audience.Tuned registry consumer)
    (covered : audience.Covered) (shift : Shift registry audience later) :
    ∀ consumer ∈ later.loops, later.Tuned registry consumer := by
  intro consumer member
  cases shift with
  | still => exact tuned consumer member
  | @moved index moving next doing? side found alive consumerStep =>
    have log : audience.log <+: side.bus.log := by
      rw [consumerStep.log_eq]
      exact List.prefix_rfl
    rcases List.mem_or_eq_of_mem_set member with old | rfl
    · exact (tuned consumer old).keep (.refl consumer) rfl rfl rfl log
    · have inside := List.mem_of_getElem? found
      refine (tuned moving inside).paced alive (fun position message stage => ?_) consumerStep rfl log
      exact List.mem_of_getElem? (covered.held moving inside position message stage)
  | joined handlers =>
    rcases List.mem_append.mp member with old | new
    · have before := tuned consumer old
      refine before.keep (.refl consumer) rfl rfl ?_ List.prefix_rfl
      rw [signal?, step, List.getElem?_append_left (lt_of_signal? before.told), ← signal?]
    · obtain ⟨handler, _, rfl⟩ := List.mem_map.mp new
      refine ⟨?_, ?_, ?_⟩
      · rw [signal?, step, List.getElem?_concat_length]
        rfl
      · intro stopped
        cases stopped
      · intro ending ended
        cases ended
  | published events batch =>
    exact (tuned consumer member).keep (.refl consumer) rfl rfl rfl (List.prefix_append ..)
  | announced index metrics =>
    obtain ⟨old, oldMember, rfl⟩ := List.mem_map.mp member
    exact (tuned old oldMember).keep old.alike_notify old.notify_signal old.notify_unheard rfl List.prefix_rfl
  | @told crew _ signal untold =>
    obtain ⟨old, oldMember, rfl⟩ := List.mem_map.mp member
    have before := tuned old oldMember
    split
    next own =>
      -- nothing was told to the crew before, so that none of its loops has ended for a signal
      have running := before.told
      rw [own, signal?, untold] at running
      refine before.hear (Option.some.inj running).symm ?_ List.prefix_rfl
      rw [own, signal?, List.getElem?_set_self (List.getElem?_eq_some_iff.mp untold).1]
      rfl
    next other =>
      refine before.keep (.refl old) rfl rfl ?_ List.prefix_rfl
      rw [signal?, List.getElem?_set_ne (Ne.symm other), ← signal?]
  | @dismissed crew ended =>
    refine (tuned consumer member).keep (.refl consumer) rfl rfl ?_ List.prefix_rfl
    rw [signal?, signal?, List.getElem?_modify]
    cases audience.crews[consumer.crew]? with
    | none => rfl
    | some told =>
      simp only [Option.map_eq_map, Option.map_some, Option.some.injEq]
      split
      · split <;> rfl
      · rfl
  | swayed side log offset => exact (tuned consumer member).keep (.refl consumer) rfl rfl rfl (log ▸ List.prefix_rfl)

theorem tuned_run (registry : EventRegistry Data) (metrics : Option Metrics) (handlers : State)
    (turns : List (Turn Data State)) :
    ∀ consumer ∈ ((opening metrics handlers).run registry turns).loops,
      ((opening metrics handlers).run registry turns).Tuned registry consumer := by
  induction turns using List.reverseRecOn with
  | nil => exact fun _ member => nomatch member
  | append_singleton turns turn ih =>
    rw [run_append]
    exact tuned_shift ih ((covered_opening metrics handlers).run turns) (step_shift registry _ turn)

/-- While all that was published is announced, nothing is left to read for the loops of the group that wait and were
not woken. -/
def CaughtUp (audience : Audience Data State) (group : String) : Prop :=
  audience.unannounced = [] → ∀ consumer ∈ audience.loops, consumer.group = group → consumer.stage = .parked →
    consumer.woken = false → audience.log.length ≤ audience.offset group

theorem CaughtUp.shift (caughtUp : audience.CaughtUp group) (aligned : audience.Aligned group)
    (solo : audience.Solo group) (shift : Shift registry audience later) : later.CaughtUp group := by
  intro announced consumer member own parked unwoken
  have alive : consumer.isEnded = false := by rw [Consumer.isEnded, parked]
  cases shift with
  | still => exact caughtUp announced consumer member own parked unwoken
  | @moved index moving next doing? side found unended consumerStep =>
    change side.bus.log.length ≤ side.bus.offset group
    rcases solo.moved found unended consumerStep member ⟨own, alive⟩ with ⟨rfl, rfl⟩ | ⟨old, apart⟩
    · have inside := List.mem_of_getElem? found
      exact consumerStep.caughtUp (aligned moving inside rfl) (caughtUp announced moving inside rfl) parked unwoken
    · rw [consumerStep.log_eq, consumerStep.offset_eq apart]
      exact caughtUp announced consumer old own parked unwoken
  | joined handlers =>
    rcases List.mem_append.mp member with old | new
    · exact caughtUp announced consumer old own parked unwoken
    · obtain ⟨handler, _, rfl⟩ := List.mem_map.mp new
      cases parked
  | published events batch => exact absurd announced (by simp)
  | announced index metrics =>
    obtain ⟨old, oldMember, rfl⟩ := List.mem_map.mp member
    -- a parked loop is registered, so that it would have been woken
    rw [old.alike_notify.stage] at parked
    rw [Consumer.notify_woken parked] at unwoken
    cases unwoken
  | @told crew _ signal untold =>
    obtain ⟨old, oldMember, rfl⟩ := List.mem_map.mp member
    by_cases inside : old.crew = crew
    · rw [if_pos inside] at own parked unwoken
      exact caughtUp announced old oldMember own parked unwoken
    · rw [if_neg inside] at own parked unwoken
      exact caughtUp announced old oldMember own parked unwoken
  | dismissed ended => exact caughtUp announced consumer member own parked unwoken
  | swayed side log offset =>
    change side.bus.log.length ≤ side.bus.offset group
    rw [log, offset]
    exact caughtUp announced consumer member own parked unwoken

theorem caughtUp_run {metrics : Option Metrics} {handlers : State} {turns : List (Turn Data State)}
    (solo : Throughout registry (opening metrics handlers) turns (·.Solo group)) :
    ((opening metrics handlers).run registry turns).CaughtUp group := by
  induction turns using List.reverseRecOn with
  | nil => exact fun _ _ member => nomatch member
  | append_singleton turns turn ih =>
    rw [run_append]
    exact (ih solo.of_append).shift (aligned_run solo.of_append) solo.of_append.last (step_shift registry _ turn)

/-- While no publisher is between the log and the announcement, a loop that alone reads for its group, is parked and
was not woken has the whole log behind it. A loop that was told to stop is not parked without being called, and goes
back to where it sees the signal. And a loop only ends because it was told to stop, because its owner is gone or because
its handler broke down. -/
theorem called_run (registry : EventRegistry Data) (metrics : Option Metrics) (handlers : State)
    (turns : List (Turn Data State)) :
    let audience := (opening metrics handlers).run registry turns
    (∀ group, Throughout registry (opening metrics handlers) turns (·.Solo group) → audience.unannounced = [] →
      ∀ consumer ∈ audience.loops, consumer.group = group → consumer.stage = .parked → consumer.woken = false →
        audience.offset group = audience.log.length) ∧
      (∀ consumer ∈ audience.loops, audience.signal? consumer.crew = some .stop → consumer.stage = .parked →
        consumer.isCalled = true ∧ (consumer.step registry audience.side).1.stage = .checking) ∧
      ∀ consumer ∈ audience.loops, ∀ ending, consumer.stage = .ended ending →
        audience.Justifies registry consumer ending := by
  intro audience
  have tuned := tuned_run registry metrics handlers turns
  refine ⟨fun group solo announced consumer member own parked unwoken => ?_, ?_, ?_⟩
  · refine Nat.le_antisymm (((covered_opening metrics handlers).run turns).offset_le group) ?_
    exact caughtUp_run solo announced consumer member own parked unwoken
  · intro consumer member told parked
    have signal := (tuned consumer member).told
    rw [told, Option.some.injEq, eq_comm] at signal
    have attentive := (tuned consumer member).attentive
    refine ⟨attentive.isCalled signal parked, ?_⟩
    simp only [Consumer.step, parked, Consumer.heed, signal, attentive.unheard_of_parked signal parked]
    split <;> rfl
  · intro consumer member ending ended
    exact (tuned consumer member).justified ending ended

/-- In the relay the crew that was started last waits in the end, and the whole log was read. -/
theorem called_relay :
    let audience := (opening none 0).run Tally.registry Tally.relay
    Throughout Tally.registry (opening none 0) Tally.relay (·.Solo "failing") ∧ audience.unannounced = [] ∧
      (∃ consumer ∈ audience.loops, consumer.group = "failing" ∧ consumer.stage = .parked ∧ consumer.woken = false) ∧
        audience.offset "failing" = audience.log.length := by
  intro audience
  have announced : audience.unannounced = [] := by decide +kernel
  have waits : ∃ consumer ∈ audience.loops,
      consumer.group = "failing" ∧ consumer.stage = .parked ∧ consumer.woken = false := by
    decide +kernel
  refine ⟨Tally.solo_relay, announced, waits, ?_⟩
  obtain ⟨consumer, member, own, parked, unwoken⟩ := waits
  obtain ⟨caughtUp, _, _⟩ := called_run Tally.registry none 0 Tally.relay
  exact caughtUp "failing" Tally.solo_relay announced consumer member own parked unwoken

end Audience

end Inventory
