import Inventory.Proofs.Audience.Served
import Inventory.Proofs.Traffic.Balance

/-! Dispatches and loops at once. Any number of dispatches work on a store and publish on a bus, while any number of
loops read its log, and all of them count in the same metrics. Nobody says who acts next, so a run is a list of acts in
any order. -/
namespace Inventory
variable {Data Handlers State Command : Type}

structure Service (Data Handlers State Command : Type) where
  traffic : Traffic Data Handlers State Command
  audience : Audience Data Handlers
  /-- The bus, the metrics and the state of the handlers are the same for both. -/
  shared : audience.side = traffic.world.side

inductive Act (Data Handlers State Command : Type) where
  | start (commandBus : CommandBus Data Handlers State Command) (moment : Moment) (command : Command)
  | step (index : Nat) (moment : Moment)
  | turn (inner : Turn Data Handlers)

/-- What a dispatch does to the side of the readers: the log goes on, and the deliveries stay as they were counted. -/
structure ReadSide.Onward (before after : ReadSide Handlers) : Prop where
  bus : ∃ records, after.bus = before.bus.extend records
  deliveries : after.metrics.map Metrics.deliveries = before.metrics.map Metrics.deliveries

theorem ReadSide.Onward.refl (side : ReadSide Handlers) : side.Onward side :=
  ⟨⟨[], (EventBus.extend_nil side.bus).symm⟩, rfl⟩

/-- What comes of the loops. -/
def Interlude.toSide (side : ReadSide Handlers) : Interlude Data Handlers where
  pass deployment := { deployment with side }
  store_pass _ := rfl

/-- What comes of a dispatch. A publication wakes the loops that are registered. -/
def Audience.toSide (audience : Audience Data Handlers) (side : ReadSide Handlers) : Audience Data Handlers :=
  { audience with
    side
    loops := audience.loops.map fun consumer =>
      if side.bus.log = audience.log then consumer else consumer.notify }

/-- Nothing stored, nothing published, and metrics that show nothing. -/
def Service.opening (handlers : Handlers) : Service Data Handlers State Command where
  traffic := .opening (.fresh (some .empty) handlers)
  audience := .opening (some .empty) handlers
  shared := rfl

variable [Payload Data]

/-- Command buses publish on the bus and know of conflicts from the store only, and nothing is published but by them. -/
def Act.Allowed : Act Data Handlers State Command → Prop
  | .start commandBus _ _ => commandBus.publisher = .eventBus ∧ commandBus.Undisputed
  | .step _ _ => True
  | .turn inner => inner.isOfLoops = true

namespace Service

def move (registry : EventRegistry Data) (service : Service Data Handlers State Command)
    (move : Move Data Handlers State Command) : Service Data Handlers State Command where
  traffic := service.traffic.step registry move
  audience := service.audience.toSide (service.traffic.step registry move).world.side
  shared := rfl

def step (registry : EventRegistry Data) (service : Service Data Handlers State Command) :
    Act Data Handlers State Command → Service Data Handlers State Command
  | .start commandBus moment command => service.move registry (.start commandBus moment command)
  | .step index moment => service.move registry (.step index moment)
  | .turn inner =>
      { traffic := service.traffic.step registry (.interlude (.toSide (service.audience.step registry inner).side))
        audience := service.audience.step registry inner
        shared := rfl }

def run (registry : EventRegistry Data) (service : Service Data Handlers State Command)
    (acts : List (Act Data Handlers State Command)) : Service Data Handlers State Command :=
  acts.foldl (step registry) service

/-- At every moment of a run no two loops read for the group. -/
def Solo (registry : EventRegistry Data) (group : String) :
    List (Act Data Handlers State Command) → Service Data Handlers State Command → Prop
  | [], service => service.audience.Solo group
  | act :: rest, service => service.audience.Solo group ∧ Solo registry group rest (service.step registry act)

instance decidableSolo (registry : EventRegistry Data) (group : String) :
    (acts : List (Act Data Handlers State Command)) → (service : Service Data Handlers State Command) →
      Decidable (Solo registry group acts service)
  | [], service => inferInstanceAs (Decidable (service.audience.Solo group))
  | act :: rest, service =>
      have := decidableSolo registry group rest (service.step registry act)
      inferInstanceAs (Decidable (_ ∧ _))

end Service

namespace Traffic
variable {registry : EventRegistry Data} {traffic : Traffic Data Handlers State Command}

theorem Accounted.toSide (accounted : traffic.Accounted registry) {side : ReadSide Handlers}
    (log : side.bus.log = traffic.world.side.bus.log) (alike : Metrics.Alike traffic.world.side.metrics side.metrics) :
    (traffic.step registry (.interlude (.toSide side))).Accounted registry where
  sound := accounted.sound.step _
  logged := ⟨accounted.logged.onBus.step _ fun _ _ _ same => (nomatch same), log.trans accounted.logged.log_eq⟩
  signed := accounted.signed.step _
  reckoned := by
    refine accounted.reckoned.step (fun _ _ _ same => nomatch same) ?_
    rintro _ ⟨⟩
    exact alike

theorem Reckoned.onward (reckoned : traffic.Reckoned) (index : Nat) (moment : Moment) :
    traffic.world.side.Onward (traffic.step registry (.step index moment)).world.side := by
  simp only [Traffic.step]
  split
  · exact .refl _
  next task found =>
    split
    · exact .refl _
    · have onBus := reckoned.onBus.tasks task (List.mem_of_getElem? found)
      refine ⟨⟨_, Dispatch.step_bus registry onBus index task.dispatch moment traffic.world⟩, ?_⟩
      refine (congrArg _ (Dispatch.step_metrics registry onBus task.dispatch moment traffic.world)).trans ?_
      rw [MetricsCall.countAll, Option.map_map]
      exact congrArg (Option.map · _) (funext fun metrics => MetricsCall.foldl_count_deliveries ..)

end Traffic

theorem Audience.Served.toSide {audience : Audience Data Handlers} {group : String} (served : audience.Served group)
    (registry : EventRegistry Data) (solo : audience.Solo group) {side : ReadSide Handlers}
    (onward : audience.side.Onward side) : (audience.toSide side).Served group := by
  obtain ⟨records, bus⟩ := onward.bus
  have alike (consumer : Consumer Data Handlers) :
      consumer.Alike (if side.bus.log = audience.log then consumer else consumer.notify) := by
    split
    · exact .refl consumer
    · exact consumer.alike_notify
  have log : audience.log <+: (audience.toSide side).log := by
    change _ <+: side.bus.log
    rw [bus]
    exact List.prefix_append ..
  have offset (other : String) : (audience.toSide side).offset other = audience.offset other := by
    change side.bus.offset other = _
    rw [bus]
    rfl
  have readStep : ReadStep registry audience (audience.toSide side) := .elsewhere _ alike rfl rfl rfl log offset
  exact served.elsewhere (served.aligned.readStep solo readStep) _ alike (List.forall_mem_nil _)
    (List.append_nil _).symm
    (offset group) onward.deliveries

namespace Service
variable {registry : EventRegistry Data} {service : Service Data Handlers State Command}
  {acts : List (Act Data Handlers State Command)} {act : Act Data Handlers State Command} {group : String}

theorem step_accounted (accounted : service.traffic.Accounted registry) (allowed : act.Allowed) :
    (service.step registry act).traffic.Accounted registry := by
  cases act with
  | start commandBus moment command => exact accounted.start allowed.1 allowed.2 moment command
  | step index moment => exact accounted.step index moment
  | turn inner =>
    obtain ⟨log, group, doing?, counting⟩ := service.audience.step_of_loops registry allowed
    refine accounted.toSide ?_ ?_
    · exact log.trans (congrArg (EventBus.log ∘ ReadSide.bus) service.shared)
    · rw [← service.shared]
      exact counting.alike

theorem run_accounted (accounted : service.traffic.Accounted registry) (allowed : ∀ act ∈ acts, act.Allowed) :
    (service.run registry acts).traffic.Accounted registry := by
  induction acts generalizing service with
  | nil => exact accounted
  | cons act rest ih =>
    obtain ⟨first, others⟩ := List.forall_mem_cons.mp allowed
    exact ih (step_accounted accounted first) others

theorem step_served (served : service.audience.Served group) (accounted : service.traffic.Accounted registry)
    (solo : service.audience.Solo group) (allowed : act.Allowed) :
    (service.step registry act).audience.Served group := by
  cases act with
  | start commandBus moment command =>
    have onward : service.audience.side.Onward service.traffic.world.side := service.shared ▸ .refl _
    exact served.toSide registry solo onward
  | step index moment =>
    have onward : service.traffic.world.side.Onward
        (service.traffic.step registry (.step index moment)).world.side :=
      accounted.reckoned.onward index moment
    rw [← service.shared] at onward
    exact served.toSide registry solo onward
  | turn inner => exact served.step solo allowed

theorem run_served (served : service.audience.Served group) (accounted : service.traffic.Accounted registry)
    (solo : Solo registry group acts service) (allowed : ∀ act ∈ acts, act.Allowed) :
    (service.run registry acts).audience.Served group := by
  induction acts generalizing service with
  | nil => exact served
  | cons act rest ih =>
    obtain ⟨first, others⟩ := List.forall_mem_cons.mp allowed
    exact ih (step_served served accounted solo.1 first) (step_accounted accounted first) solo.2 others

end Service

/-- The words that things are counted under. -/
structure Vocabulary where
  aggregateTypes : List String
  once : aggregateTypes.Nodup
  eventTypes : List String
  groups : List String

/-- No labels that are counted together are mistaken for each other. -/
structure Vocabulary.Apart (words : Vocabulary) : Prop where
  aggregateTypes : Samples.Apart (words.aggregateTypes.map fun aggregateType => [aggregateType])
  dispatches : Samples.Apart (Dispatch.labelsOf words.aggregateTypes)
  eventTypes : Samples.Apart (words.eventTypes.map fun eventType => [eventType])
  deliveries : Samples.Apart (Delivery.labelsOf words.groups)

/-- These are all words that occur. -/
structure Vocabulary.Covers (words : Vocabulary) (service : Service Data Handlers State Command) : Prop where
  within : service.traffic.Within words.aggregateTypes
  sent : ∀ record ∈ Journal.sent service.traffic.journal, record.eventType.text ∈ words.eventTypes
  loops : ∀ consumer ∈ service.audience.loops, consumer.group ∈ words.groups

namespace Service

/-- In whatever order dispatches and loops act, from nothing on: once every dispatch has ended, the metrics show for
each type of aggregate the dispatches to it, with their outcomes and durations, and the rows of its streams; for each
type of event what the log has of it; and for all types together as many conflicts as retries and dispatches that ended
with a conflict. For a group that one loop at a time reads for they show the position, while no loop is about to move
it. All of that goes for words whose labels are not mistaken for each other. -/
theorem reckoned_run (registry : EventRegistry Data) (handlers : Handlers)
    (acts : List (Act Data Handlers State Command)) (allowed : ∀ act ∈ acts, act.Allowed) (words : Vocabulary)
    (apart : words.Apart) (ended : ((opening handlers).run registry acts).traffic.Ended)
    (covers : words.Covers ((opening handlers).run registry acts)) :
    let service := (opening handlers).run registry acts
    let traffic := service.traffic
    let sent := Journal.sent traffic.journal
    ∃ metrics, traffic.world.side.metrics = some metrics ∧
      (∀ aggregateType ∈ words.aggregateTypes,
        (Dispatch.outcomes.map fun outcome => metrics.dispatched.count [aggregateType, outcome]).sum =
            .ofNat (traffic.dispatchesTo aggregateType) ∧
          metrics.read .durations [aggregateType] = .ofNat (traffic.dispatchesTo aggregateType) ∧
            metrics.stored.count [aggregateType] = .ofNat (traffic.world.store.rowsOf aggregateType).length) ∧
      traffic.world.side.bus.log = sent.map Record.bytes ∧
      (∀ eventType ∈ words.eventTypes,
        metrics.published.count [eventType] = .ofNat (sent.countP fun record => record.eventType.text = eventType)) ∧
      (words.aggregateTypes.map fun aggregateType => metrics.conflicts.count [aggregateType]).sum =
        metrics.retries.count [Dispatch.operation] +
          (words.aggregateTypes.map fun aggregateType => metrics.dispatched.count [aggregateType, "conflict"]).sum ∧
      ∀ group ∈ words.groups, Solo registry group acts (opening handlers) →
        (∀ consumer ∈ service.audience.loops, consumer.group = group → consumer.stage.isCommitting = false) →
          (Delivery.outcomes.map fun outcome => metrics.deliveries.count [group, outcome]).sum =
            .ofNat (service.audience.offset group) := by
  intro service traffic sent
  have fresh : (opening handlers : Service Data Handlers State Command).traffic.Accounted registry :=
    Traffic.accounted_opening registry handlers
  have accounted : traffic.Accounted registry := run_accounted fresh allowed
  obtain ⟨metrics, there, shows⟩ := accounted.reckoned.shown
  refine ⟨metrics, there, ?_, ?_, ?_, ?_, ?_⟩
  · intro aggregateType inside
    refine ⟨ended.sum_dispatched shows covers.within apart.dispatches inside,
      ended.read_durations shows covers.within apart.aggregateTypes inside, ?_⟩
    exact ended.read_stored shows accounted.sound accounted.signed covers.within apart.aggregateTypes inside
  · exact accounted.logged.log_eq
  · intro eventType inside
    exact ended.read_published shows accounted.sound covers.sent apart.eventTypes inside
  · exact ended.sum_conflicts shows covers.within words.once apart.aggregateTypes apart.dispatches
  · intro group inside solo between
    have served : service.audience.Served group :=
      run_served (Audience.served_opening handlers group) fresh solo allowed
    obtain ⟨shared, same, total⟩ := served.sum_deliveries inside covers.loops apart.deliveries between
    rw [service.shared, there] at same
    cases same
    exact total

end Service

namespace Tally

def listener : Handler Mark Unit where
  name := "listener"
  interest := [markType]
  handle state _ := (state, .handled)

def counter (aggregateType : String) : CommandBus Mark Unit Nat Nat :=
  { commandBus (.ok ()) with publisher := .eventBus, target := fun _ => ⟨⟨aggregateType⟩, ⟨"0"⟩⟩ }

theorem undisputed_counter (aggregateType : String) : (counter aggregateType).Undisputed :=
  ⟨(undisputed_commandBus (.ok ())).apply, (undisputed_commandBus (.ok ())).decide⟩

/-- Of two dispatches that read the stream at once the first to store its mark publishes it as well; the other one has
to start again, and finds the bus closed. A loop reads what was published. -/
def conflictThenOutage : List (Act Mark Unit Nat Nat) :=
  [.turn (.start [listener]), .start (counter "Tally") ⟨0, .zero⟩ 2, .start (counter "Tally") ⟨0, .zero⟩ 1,
    .step 0 ⟨0, .zero⟩] ++ List.replicate 7 (.step 1 ⟨7, .zero⟩) ++ [.turn (.setAvailable false)] ++
    List.replicate 17 (.step 0 ⟨9, .zero⟩) ++ List.replicate 6 (.turn (.step 0))

theorem allowed_conflictThenOutage : ∀ act ∈ conflictThenOutage, act.Allowed := by
  intro act member
  simp [conflictThenOutage] at member
  rcases member with rfl | rfl | rfl | rfl | rfl | rfl | rfl | rfl
  · rfl
  · exact ⟨rfl, undisputed_counter "Tally"⟩
  · exact ⟨rfl, undisputed_counter "Tally"⟩
  · trivial
  · trivial
  · rfl
  · trivial
  · rfl

def words : Vocabulary :=
  ⟨["Tally"], by decide, ["Mark"], ["listener"]⟩

theorem reckoned_conflictThenOutage :
    let service := (Service.opening ()).run registry conflictThenOutage
    (∀ act ∈ conflictThenOutage, act.Allowed) ∧ service.traffic.Ended ∧ words.Covers service ∧
      ∃ metrics, service.traffic.world.side.metrics = some metrics ∧
        (Dispatch.outcomes.map fun outcome => metrics.dispatched.count ["Tally", outcome]).sum = 2 ∧
        metrics.stored.count ["Tally"] = 3 ∧ metrics.published.count ["Mark"] = 1 ∧
        (Delivery.outcomes.map fun outcome => metrics.deliveries.count ["listener", outcome]).sum = 1 := by
  intro service
  have apart : words.Apart := ⟨by decide +kernel, by decide +kernel, by decide +kernel, by decide +kernel⟩
  have ended : service.traffic.Ended := by
    have results : ∀ task ∈ service.traffic.tasks, task.dispatch.result?.isSome = true := by decide +kernel
    exact fun task member => Option.isSome_iff_exists.mp (results task member)
  have covers : words.Covers service :=
    ⟨by unfold Traffic.Within; decide +kernel, by decide +kernel, by decide +kernel⟩
  have whole := Service.reckoned_run registry () conflictThenOutage allowed_conflictThenOutage words apart ended covers
  obtain ⟨metrics, there, types, _, published, _, groups⟩ := whole
  obtain ⟨dispatched, _, stored⟩ := types "Tally" List.mem_cons_self
  have delivered := groups "listener" List.mem_cons_self (by decide +kernel) (by decide +kernel)
  refine ⟨allowed_conflictThenOutage, ended, covers, metrics, there, dispatched.trans ?_, stored.trans ?_,
    (published "Mark" List.mem_cons_self).trans ?_, delivered.trans ?_⟩ <;> decide +kernel

/-- Two dispatches to aggregates of types that are not registered, whose labels have one fingerprint. -/
def unregisteredTypes : List (Act Mark Unit Nat Nat) :=
  [.start (counter "77kepQFQ8Kl") ⟨0, .zero⟩ 1, .start (counter "!0IC=VloaY") ⟨0, .zero⟩ 1] ++
    List.replicate 2 (.step 0 ⟨0, .zero⟩) ++ List.replicate 2 (.step 1 ⟨0, .zero⟩)

/-- So what is shown for one type of aggregate may have come of another. -/
theorem mistaken :
    let traffic := ((Service.opening ()).run registry unregisteredTypes).traffic
    (∀ act ∈ unregisteredTypes, act.Allowed) ∧ traffic.Ended ∧ traffic.dispatchesTo "77kepQFQ8Kl" = 1 ∧
      ∃ metrics, traffic.world.side.metrics = some metrics ∧
        (Dispatch.outcomes.map fun outcome => metrics.dispatched.count ["77kepQFQ8Kl", outcome]).sum = 2 := by
  intro traffic
  refine ⟨?_, ?_, by decide +kernel, ?_⟩
  · intro act member
    simp [unregisteredTypes] at member
    rcases member with rfl | rfl | rfl | rfl
    · exact ⟨rfl, undisputed_counter _⟩
    · exact ⟨rfl, undisputed_counter _⟩
    · trivial
    · trivial
  · have results : ∀ task ∈ traffic.tasks, task.dispatch.result?.isSome = true := by decide +kernel
    exact fun task member => Option.isSome_iff_exists.mp (results task member)
  · have shown : traffic.world.side.metrics.map (fun metrics =>
        (Dispatch.outcomes.map fun outcome => metrics.dispatched.count ["77kepQFQ8Kl", outcome]).sum) = some 2 := by
      decide +kernel
    exact Option.map_eq_some_iff.mp shown

end Tally

end Inventory
