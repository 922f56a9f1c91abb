import Inventory.Proofs.Audience

/-! What one turn can do. As far as reading and delivering go, there are three kinds of turns: one loop takes a step, a
crew joins, or the loops stay where they are, though the log may go on and some of them may be called. -/
namespace Inventory
variable {Data State : Type}

structure Consumer.Alike (first second : Consumer Data State) : Prop where
  handler : second.handler = first.handler
  crew : second.crew = first.crew
  stage : second.stage = first.stage

namespace Consumer

theorem Alike.refl (consumer : Consumer Data State) : consumer.Alike consumer :=
  ⟨rfl, rfl, rfl⟩

theorem Alike.group_eq {first second : Consumer Data State} (alike : first.Alike second) :
    second.group = first.group :=
  congrArg Handler.name alike.handler

theorem alike_notify (consumer : Consumer Data State) : consumer.Alike consumer.notify := by
  unfold notify
  split <;> exact ⟨rfl, rfl, rfl⟩

theorem alike_hear (consumer : Consumer Data State) (signal : Signal) : consumer.Alike (consumer.hear signal) :=
  ⟨rfl, rfl, rfl⟩

theorem alike_told (crew : Nat) (signal : Signal) (consumer : Consumer Data State) :
    consumer.Alike (if consumer.crew = crew then consumer.hear signal else consumer) := by
  split
  · exact consumer.alike_hear signal
  · exact .refl consumer

end Consumer

variable [Payload Data]

inductive Shift (registry : EventRegistry Data) (audience : Audience Data State) : Audience Data State → Prop where
  | still : Shift registry audience audience
  | moved {index : Nat} {consumer next : Consumer Data State} {doing? : Option Consumer.Doing}
      {side : ReadSide State} (found : audience.loops[index]? = some consumer)
      (alive : consumer.isEnded = false)
      (consumerStep : ConsumerStep registry audience.side consumer doing? next side) :
      Shift registry audience (audience.advance index consumer doing? next side)
  | joined (handlers : List (Handler Data State)) :
      Shift registry audience (audience.step registry (.start handlers))
  | published (events : List (Event Data)) (batch : List Record) :
      Shift registry audience
        { audience with
          side := { audience.side with bus := audience.side.bus.extend batch }
          unannounced := audience.unannounced ++ [events] }
  | announced (index : Nat) (metrics : Option Metrics) :
      Shift registry audience
        { audience with
          side := { audience.side with metrics }
          loops := audience.loops.map Consumer.notify
          unannounced := audience.unannounced.eraseIdx index }
  | told {crew : Nat} {dismissed : Bool} (signal : Signal)
      (untold : audience.crews[crew]? = some { signal := .run, dismissed }) :
      Shift registry audience
        { audience with
          crews := audience.crews.set crew { signal }
          loops := audience.loops.map fun consumer =>
            if consumer.crew = crew then consumer.hear signal else consumer }
  | dismissed {crew : Nat} (ended : audience.hasEnded crew = true) :
      Shift registry audience
        { audience with
          crews := audience.crews.modify crew fun told =>
            if told.signal = .stop then { told with dismissed := true } else told }
  | swayed (side : ReadSide State) (log : side.bus.log = audience.log)
      (offset : ∀ group, side.bus.offset group = audience.offset group) :
      Shift registry audience { audience with side }

/-- What a turn can do to what was read and delivered. -/
inductive ReadStep (registry : EventRegistry Data) (audience : Audience Data State) : Audience Data State → Prop where
  | moved {index : Nat} {consumer next : Consumer Data State} {doing? : Option Consumer.Doing}
      {side : ReadSide State} (found : audience.loops[index]? = some consumer)
      (alive : consumer.isEnded = false)
      (consumerStep : ConsumerStep registry audience.side consumer doing? next side) :
      ReadStep registry audience (audience.advance index consumer doing? next side)
  | joined (handlers : List (Handler Data State)) :
      ReadStep registry audience (audience.step registry (.start handlers))
  | elsewhere {later : Audience Data State} (change : Consumer Data State → Consumer Data State)
      (alike : ∀ consumer : Consumer Data State, consumer.Alike (change consumer))
      (loops : later.loops = audience.loops.map change) (crews : later.crews.length = audience.crews.length)
      (journal : later.journal = audience.journal) (log : audience.log <+: later.log)
      (offset : ∀ group, later.offset group = audience.offset group) : ReadStep registry audience later

namespace Audience

theorem shift_advance {registry : EventRegistry Data} {audience : Audience Data State} {index : Nat}
    {consumer next : Consumer Data State} {doing? : Option Consumer.Doing} {side : ReadSide State}
    (found : audience.loops[index]? = some consumer)
    (consumerStep : ConsumerStep registry audience.side consumer doing? next side) :
    Shift registry audience (audience.advance index consumer doing? next side) := by
  cases ended : consumer.isEnded with
  | false => exact .moved found ended consumerStep
  | true =>
    obtain ⟨inside, rfl⟩ := List.getElem?_eq_some_iff.mp found
    obtain ⟨rfl, rfl, rfl⟩ := consumerStep.of_isEnded ended
    have same : audience.advance index audience.loops[index] none audience.loops[index] audience.side = audience := by
      rw [advance, List.set_getElem_self inside, Option.map_none, Option.toList_none, List.append_nil]
    rw [same]
    exact .still

theorem shift_tell (registry : EventRegistry Data) (audience : Audience Data State) (crew : Nat) (signal : Signal) :
    Shift registry audience (audience.tell crew signal) := by
  unfold tell
  split
  next untold => exact .told signal untold
  next => exact .still

theorem step_shift (registry : EventRegistry Data) (audience : Audience Data State) (turn : Turn Data State) :
    Shift registry audience (audience.step registry turn) := by
  cases turn with
  | publish events =>
    rw [step]
    split
    · exact .still
    next bus done =>
      split
      · exact .still
      · obtain ⟨batch, made, rfl⟩ := EventBus.publish_eq_ok done
        exact .published events batch
  | announce index =>
    rw [step]
    split
    · exact .still
    · exact .announced index _
  | setAvailable available => exact .swayed _ rfl fun _ => rfl
  | start handlers => exact .joined handlers
  | step index =>
    rw [step]
    split
    · exact .still
    next consumer found => exact shift_advance found (consumer.consumerStep_step registry audience.side)
  | heed index =>
    rw [step]
    split
    · exact .still
    next consumer found =>
      split
      next stage => exact shift_advance found (consumer.consumerStep_heed registry audience.side stage)
      · exact .still
  | stop crew => exact shift_tell registry audience crew .stop
  | dismiss crew =>
    rw [step]
    split
    next ended => exact .dismissed ended
    next => exact .still
  | abandon crew => exact shift_tell registry audience crew .abandoned
  | sway metrics handlers => exact .swayed _ rfl fun _ => rfl

end Audience

theorem Shift.readStep {registry : EventRegistry Data} {audience later : Audience Data State}
    (shift : Shift registry audience later) : ReadStep registry audience later := by
  have same := audience.loops.map_id.symm
  cases shift with
  | moved found alive consumerStep => exact .moved found alive consumerStep
  | joined handlers => exact .joined handlers
  | still => exact .elsewhere id .refl same rfl rfl List.prefix_rfl fun _ => rfl
  | published events batch => exact .elsewhere id .refl same rfl rfl (List.prefix_append ..) fun _ => rfl
  | announced index metrics =>
    exact .elsewhere Consumer.notify Consumer.alike_notify rfl rfl rfl List.prefix_rfl fun _ => rfl
  | told signal untold =>
    exact .elsewhere _ (Consumer.alike_told _ signal) rfl (List.length_set ..) rfl List.prefix_rfl fun _ => rfl
  | dismissed ended => exact .elsewhere id .refl same (List.length_modify ..) rfl List.prefix_rfl fun _ => rfl
  | swayed side log offset => exact .elsewhere id .refl same rfl rfl (log ▸ List.prefix_rfl) offset

theorem Audience.readStep_step (registry : EventRegistry Data) (audience : Audience Data State)
    (turn : Turn Data State) :
    ReadStep registry audience (audience.step registry turn) :=
  (audience.step_shift registry turn).readStep

end Inventory
