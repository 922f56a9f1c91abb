import Inventory.Deployment
import Inventory.Proofs.Audience.Called
import Inventory.Proofs.EventBus.Roster

/-! The loops of a deployment are an audience. A deployment lets its loops go on until they rest, one after the other,
and a signal is followed by the turns of the loops that it is for. Each of that is a run of turns, so that what holds of
every run holds of a deployment. -/
namespace Inventory
variable {Data State : Type}

namespace Audience

def alive (audience : Audience Data State) : List (Consumer Data State) :=
  audience.loops.filter (!·.isEnded)

/-- The loops of the roster are those of the audience that have not ended, in whatever order. -/
structure Mirrors (audience : Audience Data State) (roster : Roster Data State) (side : ReadSide State) : Prop where
  side_eq : audience.side = side
  crews_eq : audience.crews.length = roster.crews
  perm : (roster.queue ++ roster.parked).Perm audience.alive

theorem filter_map_alike {change : Consumer Data State → Consumer Data State}
    (alike : ∀ consumer : Consumer Data State, consumer.Alike (change consumer)) (loops : List (Consumer Data State)) :
    (loops.map change).filter (!·.isEnded) = (loops.filter (!·.isEnded)).map change := by
  rw [List.filter_map]
  congr 2
  funext consumer
  rw [Function.comp_apply, Consumer.isEnded, (alike consumer).stage, Consumer.isEnded]

variable [Payload Data] {registry : EventRegistry Data} {audience : Audience Data State}

theorem run_steps (registry : EventRegistry Data) {before behind : List (Consumer Data State)}
    {consumer : Consumer Data State} (whole : audience.loops = before ++ consumer :: behind) (count : Nat) :
    let after := audience.run registry (List.replicate count (.step before.length))
    let reached := Consumer.steps registry count (consumer, audience.side)
    after.loops = before ++ reached.1 :: behind ∧ after.side = reached.2 ∧ after.crews = audience.crews := by
  induction count generalizing audience consumer with
  | zero => exact ⟨whole, rfl, rfl⟩
  | succ count ih =>
    have found : audience.loops[before.length]? = some consumer := by
      rw [whole, List.getElem?_append_right (Nat.le_refl _), Nat.sub_self]
      rfl
    have stepped : audience.step registry (.step before.length) =
        audience.advance before.length consumer (consumer.doing? registry audience.side)
          (consumer.step registry audience.side).1 (consumer.step registry audience.side).2 := by
      rw [step, found]
    have moved : (audience.step registry (.step before.length)).loops =
        before ++ (consumer.step registry audience.side).1 :: behind := by
      rw [stepped, advance, whole, List.set_append_right _ _ (Nat.le_refl _), Nat.sub_self, List.set_cons_zero]
    have sideStepped : (audience.step registry (.step before.length)).side =
        (consumer.step registry audience.side).2 := by
      rw [stepped]
      rfl
    have crewsStepped : (audience.step registry (.step before.length)).crews = audience.crews := by
      rw [stepped]
      rfl
    obtain ⟨loops, side, crews⟩ := ih moved
    rw [sideStepped] at loops side
    exact ⟨loops, side, crews.trans crewsStepped⟩

/-- Loops that have a turn each, while others wait in the queue or are parked. -/
theorem exists_run_takeTurns (registry : EventRegistry Data) (queue parked rest : List (Consumer Data State))
    (audience : Audience Data State) (perm : (queue ++ (rest ++ parked)).Perm audience.alive) :
    ∃ turns,
      let after := audience.run registry turns
      let settled := Roster.takeTurns registry queue parked audience.side
      (rest ++ settled.1).Perm after.alive ∧ after.side = settled.2 ∧ after.crews = audience.crews := by
  induction queue generalizing audience parked with
  | nil => exact ⟨[], perm, rfl, rfl⟩
  | cons consumer queue ih =>
    obtain ⟨inside, unended⟩ := List.mem_filter.mp (perm.subset List.mem_cons_self)
    obtain ⟨before, behind, whole⟩ := List.append_of_mem inside
    have others : (queue ++ (rest ++ parked)).Perm
        (before.filter (!·.isEnded) ++ behind.filter (!·.isEnded)) := by
      rw [alive, whole, List.filter_append, List.filter_cons, if_pos unended] at perm
      exact (perm.trans List.perm_middle).cons_inv
    obtain ⟨first, loops, side, crews⟩ : ∃ first, let after := audience.run registry first
        after.loops = before ++ (consumer.settle registry audience.side).1 :: behind ∧
          after.side = (consumer.settle registry audience.side).2 ∧ after.crews = audience.crews :=
      ⟨_, run_steps registry whole (Consumer.enoughSteps audience.side consumer)⟩
    simp only [Roster.takeTurns_cons]
    generalize consumer.settle registry audience.side = settled at loops side ⊢
    have next : (queue ++ (rest ++ if settled.1.isEnded then parked else parked ++ [settled.1])).Perm
        (audience.run registry first).alive := by
      rw [alive, loops, List.filter_append, List.filter_cons]
      by_cases ended : settled.1.isEnded = true
      · rw [if_pos ended, ended]
        exact others
      · rw [if_neg ended, if_pos (by simpa using ended), ← List.append_assoc rest, ← List.append_assoc queue]
        exact (List.perm_append_singleton ..).trans ((others.cons _).trans List.perm_middle.symm)
    obtain ⟨turns, permAfter, sideAfter, crewsAfter⟩ := ih _ _ next
    rw [side] at permAfter sideAfter
    refine ⟨first ++ turns, ?_⟩
    rw [run_append]
    exact ⟨permAfter, sideAfter, crewsAfter.trans crews⟩

theorem Mirrors.runFirst {roster : Roster Data State} {side : ReadSide State} (mirrors : audience.Mirrors roster side)
    (count : Nat) (registry : EventRegistry Data) :
    ∃ turns, (audience.run registry turns).Mirrors (roster.runFirst count registry side).1
      (roster.runFirst count registry side).2 := by
  obtain ⟨rfl, crews, perm⟩ := mirrors
  have split : (roster.queue.take count ++ (roster.queue.drop count ++ roster.parked)).Perm audience.alive := by
    rw [← List.append_assoc, List.take_append_drop]
    exact perm
  obtain ⟨turns, permAfter, sideAfter, crewsAfter⟩ :=
    exists_run_takeTurns registry (roster.queue.take count) roster.parked (roster.queue.drop count) audience split
  exact ⟨turns, sideAfter, (congrArg List.length crewsAfter).trans crews, permAfter⟩

section
variable {deployment : Deployment Data State}

theorem Mirrors.publish (mirrors : audience.Mirrors deployment.roster deployment.side) (events : List (Event Data))
    (registry : EventRegistry Data) :
    ∃ turns, (audience.run registry turns).Mirrors (deployment.publish events).2.roster
      (deployment.publish events).2.side := by
  unfold Deployment.publish
  split
  · exact ⟨[], mirrors⟩
  next bus done =>
    split
    · exact ⟨[], mirrors⟩
    next some =>
      refine ⟨[.publish events, .announce audience.unannounced.length], ?_⟩
      have published : audience.step registry (.publish events) =
          { audience with
            side := { audience.side with bus }, unannounced := audience.unannounced ++ [events] } := by
        rw [step, mirrors.side_eq, done]
        exact if_neg some
      rw [run, List.foldl_cons, List.foldl_cons, List.foldl_nil, published, step, List.getElem?_concat_length]
      refine ⟨?_, mirrors.crews_eq, ?_⟩
      · rw [mirrors.side_eq]
        rfl
      · rw [alive, filter_map_alike Consumer.alike_notify]
        exact (List.append_nil _).symm ▸ mirrors.perm.map Consumer.notify

theorem Mirrors.start (mirrors : audience.Mirrors deployment.roster deployment.side)
    (handlers : List (Handler Data State)) (registry : EventRegistry Data) :
    (audience.step registry (.start handlers)).Mirrors (deployment.start handlers).roster deployment.side := by
  refine ⟨mirrors.side_eq, ?_, ?_⟩
  · rw [step, List.length_append, mirrors.crews_eq]
    rfl
  · have fresh : ∀ consumer ∈ handlers.map fun handler =>
        ({ handler, crew := deployment.roster.crews } : Consumer Data State), (!consumer.isEnded) = true := by
      intro consumer member
      obtain ⟨handler, _, rfl⟩ := List.mem_map.mp member
      rfl
    rw [step, alive, List.filter_append, mirrors.crews_eq, List.filter_eq_self.mpr fresh, ← alive]
    simp only [Deployment.start, Roster.start, List.append_assoc]
    refine (List.perm_append_comm.append_left _).trans ?_
    rw [← List.append_assoc]
    exact mirrors.perm.append_right _

end

omit [Payload Data] in
theorem alive_tell {crew : Nat} {signal : Signal}
    (tuned : ∀ consumer ∈ audience.alive, audience.signal? consumer.crew = some consumer.signal)
    (untold : ∀ consumer ∈ audience.alive, consumer.crew = crew → consumer.signal = .run) :
    (audience.tell crew signal).alive =
      audience.alive.map fun consumer => if consumer.crew = crew then consumer.hear signal else consumer := by
  unfold tell
  split
  · exact filter_map_alike (Consumer.alike_told crew signal) audience.loops
  next other =>
    -- the crew has been told something before, so that none of its loops is left
    refine ((List.map_congr_left fun consumer member => ?_).trans (List.map_id _)).symm
    refine if_neg fun own => ?_
    have told := tuned consumer member
    rw [untold consumer member own, own] at told
    obtain ⟨crewFound, found, running⟩ := Option.map_eq_some_iff.mp told
    obtain ⟨signal, dismissed⟩ := crewFound
    cases running
    exact other dismissed found

omit [Payload Data] in
theorem Mirrors.signal {later : Audience Data State} {roster : Roster Data State} {side : ReadSide State}
    (mirrors : audience.Mirrors roster side) {signal : Signal} {reaches : Consumer Data State → Bool}
    (heard : later.alive = audience.alive.map fun consumer =>
      if reaches consumer then consumer.hear signal else consumer)
    (same : later.side = audience.side) (crews : later.crews.length = audience.crews.length) :
    later.Mirrors (roster.signal signal reaches) side := by
  refine ⟨same.trans mirrors.side_eq, crews.trans mirrors.crews_eq, (roster.perm_signal signal reaches).trans ?_⟩
  rw [heard]
  exact mirrors.perm.map _

theorem Mirrors.awaitEnd (registry : EventRegistry Data) (crew rounds : Nat) {roster : Roster Data State}
    {side : ReadSide State} (mirrors : audience.Mirrors roster side) :
    ∃ turns, (audience.run registry turns).Mirrors (Roster.awaitEnd registry crew rounds (roster, side)).1
      (Roster.awaitEnd registry crew rounds (roster, side)).2 := by
  induction rounds generalizing audience roster side with
  | zero => exact ⟨[], mirrors⟩
  | succ rounds ih =>
    rw [Roster.awaitEnd]
    by_cases ended : roster.crewSize crew = 0
    · rw [if_pos ended]
      exact ⟨[], mirrors⟩
    · rw [if_neg ended]
      obtain ⟨first, given⟩ := mirrors.runFirst Roster.turnsPerRound registry
      obtain ⟨allowance, same⟩ := (roster.giveWay registry side).1.take?_getD
        (roster.crewSize crew - (roster.giveWay registry side).1.crewSize crew)
      dsimp only
      rw [same]
      have next : (audience.run registry first).Mirrors { (roster.giveWay registry side).1 with allowance }
          (roster.giveWay registry side).2 := ⟨given.side_eq, given.crews_eq, given.perm⟩
      obtain ⟨rest, reached⟩ := ih next
      exact ⟨first ++ rest, by rw [run_append]; exact reached⟩

/-- The loops of a deployment between two requests: some run of an audience leads to where they are, and none of them
was told anything. -/
structure Plays (registry : EventRegistry Data) (metrics : Option Metrics) (handlers : State)
    (roster : Roster Data State) (side : ReadSide State) : Prop where
  sound : roster.Sound
  untold : ∀ consumer ∈ roster.queue ++ roster.parked, consumer.signal = .run
  mirrored : ∃ turns, ((opening metrics handlers).run registry turns).Mirrors roster side

section
variable {metrics : Option Metrics} {handlers : State} {roster : Roster Data State} {side : ReadSide State}

theorem Mirrors.tuned {turns : List (Turn Data State)}
    (mirrors : ((opening metrics handlers).run registry turns).Mirrors roster side) {consumer : Consumer Data State}
    (member : consumer ∈ roster.queue ++ roster.parked) :
    ((opening metrics handlers).run registry turns).Tuned registry consumer :=
  tuned_run registry metrics handlers turns consumer (List.mem_filter.mp (mirrors.perm.subset member)).1

theorem Mirrors.alive_tell {turns : List (Turn Data State)}
    (mirrors : ((opening metrics handlers).run registry turns).Mirrors roster side) (crew : Nat) (signal : Signal)
    (untold : ∀ consumer ∈ roster.queue ++ roster.parked, consumer.crew = crew → consumer.signal = .run) :
    (((opening metrics handlers).run registry turns).tell crew signal).alive =
      ((opening metrics handlers).run registry turns).alive.map fun consumer =>
        if consumer.crew = crew then consumer.hear signal else consumer :=
  Audience.alive_tell
    (fun _ member => (mirrors.tuned (mirrors.perm.symm.subset member)).told)
    (fun consumer member => untold consumer (mirrors.perm.symm.subset member))

/-- A crew that is told to stop has ended when the wait for it is over. -/
theorem Plays.stop (plays : Plays registry metrics handlers roster side) (crew : Nat) :
    Plays registry metrics handlers (roster.stop registry side crew).1 (roster.stop registry side crew).2 := by
  obtain ⟨sound, untold, turns, mirrors⟩ := plays
  obtain ⟨sameSide, sameCrews⟩ := side_tell ((opening metrics handlers).run registry turns) crew .stop
  have heard := mirrors.alive_tell crew .stop fun consumer member _ => untold consumer member
  have told : (((opening metrics handlers).run registry turns).tell crew .stop).Mirrors
      (roster.signal .stop (·.crew == crew)) side :=
    mirrors.signal (by simpa only [beq_iff_eq] using heard) sameSide sameCrews
  obtain ⟨more, reached⟩ := told.awaitEnd registry crew (roster.signal .stop (·.crew == crew)).queue.length
  have ran : (((opening metrics handlers).run registry turns).tell crew .stop).run registry more =
      (opening metrics handlers).run registry (turns ++ .stop crew :: more) := by
    rw [run_append]
    rfl
  rw [ran] at reached
  obtain ⟨soundAfter, stems, ends⟩ :=
    Roster.awaitEnd_rests registry crew _ (sound.signal .stop (·.crew == crew)) side (Nat.le_refl _)
  rw [Roster.stop]
  refine ⟨soundAfter, fun consumer member => ?_, _, reached⟩
  obtain ⟨old, oldMember, sameCrew, sameSignal⟩ := stems consumer member
  obtain ⟨first, inside, rfl⟩ := List.mem_map.mp ((roster.perm_signal .stop (·.crew == crew)).subset oldMember)
  by_cases own : (first.crew == crew) = true
  · rw [if_pos own] at sameCrew sameSignal
    have here : (consumer.crew == crew) = true := sameCrew ▸ own
    rcases ends with none | empty
    · exact absurd here (List.countP_eq_zero.mp none consumer member)
    · have attentive := (reached.tuned member).attentive
      rw [empty, List.nil_append] at member
      obtain ⟨parked, uncalled⟩ := soundAfter.parked consumer member
      rw [attentive.isCalled sameSignal parked] at uncalled
      cases uncalled
  · rw [if_neg own] at sameSignal
    exact sameSignal.trans (untold first inside)

theorem Plays.foldl_stop (plays : Plays registry metrics handlers roster side) (crews : List Nat) :
    let reached := crews.foldl (fun (roster, side) crew => roster.stop registry side crew) (roster, side)
    Plays registry metrics handlers reached.1 reached.2 := by
  induction crews generalizing roster side with
  | nil => exact plays
  | cons crew crews ih => exact ih (plays.stop crew)

theorem Mirrors.abandon {turns : List (Turn Data State)}
    (mirrors : ((opening metrics handlers).run registry turns).Mirrors roster side)
    (untold : ∀ consumer ∈ roster.queue ++ roster.parked, consumer.signal = .run) (count : Nat) :
    let after := (opening metrics handlers).run registry (turns ++ (List.range count).map .abandon)
    after.alive = ((opening metrics handlers).run registry turns).alive.map (fun consumer =>
        if consumer.crew < count then consumer.hear .abandoned else consumer) ∧
      after.side = side ∧ after.crews.length = roster.crews := by
  induction count with
  | zero =>
    rw [List.range_zero, List.map_nil, List.append_nil]
    exact ⟨by simp, mirrors.side_eq, mirrors.crews_eq⟩
  | succ count ih =>
    obtain ⟨alive, sameSide, sameCrews⟩ := ih
    have ran : (opening metrics handlers).run registry (turns ++ (List.range (count + 1)).map .abandon) =
        ((opening metrics handlers).run registry (turns ++ (List.range count).map .abandon)).tell count .abandoned := by
      rw [List.range_succ, List.map_append, ← List.append_assoc, run_append]
      rfl
    obtain ⟨side, crews⟩ :=
      side_tell ((opening metrics handlers).run registry (turns ++ (List.range count).map .abandon)) count .abandoned
    rw [ran]
    refine ⟨?_, side.trans sameSide, crews.trans sameCrews⟩
    rw [Audience.alive_tell, alive, List.map_map]
    · refine List.map_congr_left fun consumer _ => ?_
      rw [Function.comp_apply]
      rcases Nat.lt_trichotomy consumer.crew count with less | same | more
      · rw [if_pos less, if_pos (Nat.lt_succ_of_lt less)]
        exact if_neg (Nat.ne_of_lt less)
      · rw [if_neg (Nat.not_lt_of_ge (Nat.le_of_eq same.symm)), if_pos same,
          if_pos (Nat.lt_succ_of_le (Nat.le_of_eq same))]
      · rw [if_neg (Nat.not_lt_of_gt more), if_neg (Nat.ne_of_gt more), if_neg (Nat.not_lt_of_ge more)]
    · intro consumer member
      exact (tuned_run registry metrics handlers _ consumer (List.mem_filter.mp member).1).told
    · intro consumer member own
      rw [alive] at member
      obtain ⟨first, inside, rfl⟩ := List.mem_map.mp member
      by_cases less : first.crew < count
      · rw [if_pos less] at own
        exact absurd own (Nat.ne_of_lt less)
      · rw [if_neg less]
        exact untold first (mirrors.perm.symm.subset inside)

theorem Plays.abandon (plays : Plays registry metrics handlers roster side) :
    Plays registry metrics handlers (roster.abandon registry side).1 (roster.abandon registry side).2 := by
  obtain ⟨sound, untold, turns, mirrors⟩ := plays
  obtain ⟨alive, sameSide, sameCrews⟩ := mirrors.abandon untold roster.crews
  have heard : ((opening metrics handlers).run registry (turns ++ (List.range roster.crews).map .abandon)).alive =
      ((opening metrics handlers).run registry turns).alive.map fun consumer =>
        if (fun _ => true) consumer then consumer.hear .abandoned else consumer := by
    refine alive.trans (List.map_congr_left fun consumer member => ?_)
    have started := lt_of_signal? (mirrors.tuned (mirrors.perm.symm.subset member)).told
    rw [mirrors.crews_eq] at started
    rw [if_pos started, if_pos rfl]
  have told := mirrors.signal heard (sameSide.trans mirrors.side_eq.symm) (sameCrews.trans mirrors.crews_eq.symm)
  obtain ⟨more, reached⟩ := told.runFirst (roster.signal .abandoned fun _ => true).queue.length registry
  rw [← run_append] at reached
  have soundAfter := (sound.signal .abandoned fun _ => true).runFirst
    (roster.signal .abandoned fun _ => true).queue.length registry side
  refine ⟨soundAfter, fun consumer member => ?_, _, reached⟩
  obtain ⟨old, oldMember, _, sameSignal⟩ := Roster.stemsFrom_runFirst _ _ registry side consumer member
  obtain ⟨first, _, rfl⟩ := List.mem_map.mp ((roster.perm_signal .abandoned fun _ => true).subset oldMember)
  rw [if_pos rfl] at sameSignal
  have empty : (roster.abandon registry side).1.queue = [] := List.drop_length ..
  rw [empty, List.nil_append] at member
  obtain ⟨_, uncalled⟩ := soundAfter.parked consumer member
  have called : consumer.isCalled = true := by
    simp [Consumer.isCalled, show consumer.signal = .abandoned from sameSignal]
  rw [called] at uncalled
  cases uncalled

theorem Plays.runFirst (plays : Plays registry metrics handlers roster side) (count : Nat) :
    Plays registry metrics handlers (roster.runFirst count registry side).1
      (roster.runFirst count registry side).2 := by
  obtain ⟨sound, untold, turns, mirrors⟩ := plays
  obtain ⟨more, reached⟩ := mirrors.runFirst count registry
  rw [← run_append] at reached
  refine ⟨sound.runFirst count registry side, fun consumer member => ?_, _, reached⟩
  obtain ⟨old, inside, _, same⟩ := Roster.stemsFrom_runFirst roster count registry side consumer member
  exact same.trans (untold old inside)

end

end Audience

/-- What is asked of a deployment, as far as it concerns its loops and what they work on. -/
inductive Request (Data Handlers : Type) where
  | publish (events : List (Event Data))
  | setAvailable (available : Bool)
  | start (handlers : List (Handler Data Handlers))
  | count (counting : Metrics → Metrics)
  | take
  | settle
  | giveWay
  | shutdown
  | abandon

namespace Deployment
variable [Payload Data] {registry : EventRegistry Data} {metrics : Option Metrics} {handlers : State}

def respond (registry : EventRegistry Data) (deployment : Deployment Data State) :
    Request Data State → Deployment Data State
  | .publish events => (deployment.publish events).2
  | .setAvailable available => deployment.setBus (deployment.side.bus.setAvailable available)
  | .start handlers => deployment.start handlers
  | .count counting => deployment.count counting
  | .take => deployment.take?.getD deployment
  | .settle => deployment.settle registry
  | .giveWay => deployment.giveWay registry
  | .shutdown => deployment.shutdown registry
  | .abandon => deployment.abandon registry

omit [Payload Data] in
theorem take?_getD (deployment : Deployment Data State) :
    ∃ allowance,
      deployment.take?.getD deployment = { deployment with roster := { deployment.roster with allowance } } := by
  unfold take? Roster.take?
  split
  · exact ⟨_, rfl⟩
  · exact ⟨_, rfl⟩

theorem publish_roster (deployment : Deployment Data State) (events : List (Event Data)) :
    (deployment.publish events).2.roster = deployment.roster ∨
      (deployment.publish events).2.roster = deployment.roster.notify := by
  unfold publish
  split
  · exact .inl rfl
  · split
    · exact .inl rfl
    · exact .inr rfl

theorem plays_respond {deployment : Deployment Data State}
    (plays : Audience.Plays registry metrics handlers deployment.roster deployment.side)
    (request : Request Data State) :
    Audience.Plays registry metrics handlers (deployment.respond registry request).roster
      (deployment.respond registry request).side := by
  cases request with
  | settle => exact plays.runFirst deployment.roster.queue.length
  | giveWay => exact plays.runFirst Roster.turnsPerRound
  | shutdown => exact plays.foldl_stop (List.range deployment.roster.crews)
  | abandon => exact plays.abandon
  | take =>
    obtain ⟨sound, untold, turns, mirrors⟩ := plays
    obtain ⟨allowance, same⟩ := deployment.take?_getD
    rw [respond, same]
    exact ⟨⟨sound.queued, sound.parked⟩, untold, turns, mirrors.side_eq, mirrors.crews_eq, mirrors.perm⟩
  | count counting =>
    obtain ⟨sound, untold, turns, mirrors⟩ := plays
    refine ⟨sound, untold, turns ++ [.sway (deployment.side.metrics.map counting) deployment.side.handlers], ?_⟩
    rw [Audience.run_append]
    refine ⟨?_, mirrors.crews_eq, mirrors.perm⟩
    rw [respond, count, ← mirrors.side_eq]
    rfl
  | setAvailable available =>
    obtain ⟨sound, untold, turns, mirrors⟩ := plays
    refine ⟨sound, untold, turns ++ [.setAvailable available], ?_⟩
    rw [Audience.run_append]
    refine ⟨?_, mirrors.crews_eq, mirrors.perm⟩
    rw [respond, setBus, ← mirrors.side_eq]
    rfl
  | start started =>
    obtain ⟨sound, untold, turns, mirrors⟩ := plays
    refine ⟨sound.start started, fun consumer member => ?_, turns ++ [.start started], ?_⟩
    · rcases List.mem_append.mp member with queued | parked
      · rcases List.mem_append.mp queued with old | new
        · exact untold consumer (List.mem_append_left _ old)
        · obtain ⟨handler, _, rfl⟩ := List.mem_map.mp new
          rfl
      · exact untold consumer (List.mem_append_right _ parked)
    · rw [Audience.run_append]
      exact mirrors.start started registry
  | publish events =>
    obtain ⟨sound, untold, turns, mirrors⟩ := plays
    obtain ⟨more, reached⟩ := mirrors.publish events registry
    rw [← Audience.run_append] at reached
    rcases deployment.publish_roster events with same | notified
    · refine ⟨?_, ?_, _, reached⟩
      · rw [respond, same]
        exact sound
      · rw [respond, same]
        exact untold
    · refine ⟨?_, ?_, _, reached⟩
      · rw [respond, notified]
        exact sound.notify
      · rw [respond, notified]
        intro consumer member
        rw [Roster.notify, List.append_nil] at member
        obtain ⟨old, inside, rfl⟩ := List.mem_map.mp member
        exact old.notify_signal.trans (untold old inside)

/-- Whatever is asked of a deployment, in whatever order: its loops and its bus are where some run of an audience leads,
so that what holds of every run holds of them. -/
theorem plays_run (registry : EventRegistry Data) (metrics : Option Metrics) (handlers : State)
    (requests : List (Request Data State)) :
    let reached := requests.foldl (respond registry) (fresh metrics handlers)
    Audience.Plays registry metrics handlers reached.roster reached.side := by
  induction requests using List.reverseRecOn with
  | nil =>
    refine ⟨Roster.sound_empty, fun _ member => ?_, [], rfl, rfl, .nil⟩
    cases member
  | append_singleton requests request ih =>
    rw [List.foldl_append]
    exact plays_respond ih request

theorem offset_le_size (registry : EventRegistry Data) (metrics : Option Metrics) (handlers : State)
    (requests : List (Request Data State)) (group : String) :
    let reached := requests.foldl (respond registry) (fresh metrics handlers)
    reached.side.bus.offset group ≤ reached.side.bus.size := by
  intro reached
  obtain ⟨_, _, turns, mirrors⟩ := plays_run registry metrics handlers requests
  change reached.side.bus.offset group ≤ reached.side.bus.log.length
  rw [← mirrors.side_eq]
  exact ((Audience.covered_opening metrics handlers).run turns).offset_le group

end Deployment

end Inventory
