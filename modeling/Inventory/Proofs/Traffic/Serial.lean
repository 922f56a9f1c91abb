import Inventory.Proofs.Dispatch
import Inventory.Proofs.Traffic.Contiguity
import Inventory.Proofs.Traffic.Tally
import Inventory.Proofs.Untimed

/-! One after the other. A batch that is taken in was decided on the stream as it was just then, however long
ago the history was read: had anything been committed in between, its first version would have been claimed.
So the commands that were committed could as well have been dispatched one by one, and nobody who looks at
anything but the stamps can tell. -/
namespace Inventory
variable {Data Handlers State Command : Type} [Payload Data]

/-- Whatever is decided on the command bus comes back from its stored form. -/
def CommandBus.Faithful (registry : EventRegistry Data) (commandBus : CommandBus Data Handlers State Command) : Prop :=
  ∀ number state context command payloads, (commandBus.rules number).decide state context command = .ok payloads →
    ∀ data ∈ payloads, registry.Keeps data

theorem CommandBus.Faithful.keeps {registry : EventRegistry Data} {start : EventStore}
    {journal : List (Entry Data Handlers State Command)} {attempt : Attempt Data Handlers State Command}
    (faithful : attempt.commandBus.Faithful registry) {version : Nat} {payloads : List Data}
    (decided : attempt.HasDecided registry start journal version payloads) :
    ∀ data ∈ payloads, registry.Keeps data := by
  obtain ⟨_, state, _, decides⟩ := decided
  exact faithful attempt.number state _ attempt.command payloads decides

/-- What these records lead to, and what was decided on it. -/
structure Commit.DecidedOn (commit : Commit Data Handlers State Command) (registry : EventRegistry Data)
    (rows : List Record) (history : List (Event Data)) (state : State) : Prop where
  decoded : registry.decodeRecords rows = .ok history
  loads : (commit.attempt.commandBus.aggregates commit.attempt.number).load
    (commit.attempt.commandBus.rules commit.attempt.number) commit.stream history =
      .ok (.start commit.stream commit.base, state)
  decides : (commit.attempt.commandBus.rules commit.attempt.number).decide state
    (.start commit.stream commit.base) commit.attempt.command = .ok (commit.events.map Event.data)

/-- The world behind the command of a batch, when nothing comes in between and the rules are those of the
attempt that the batch is from. -/
def Commit.redo (registry : EventRegistry Data) (world : Deployment Data Handlers) (moment : Moment)
    (commit : Commit Data Handlers State Command) : Deployment Data Handlers :=
  let engine := commit.attempt.commandBus.engine registry commit.attempt.number
  ((Dispatch.start engine moment commit.attempt.command).advance engine moment world).2

/-- One command after the other, each at its moment. -/
def Deployment.serially (registry : EventRegistry Data) (world : Deployment Data Handlers)
    (schedule : List (Moment × Commit Data Handlers State Command)) : Deployment Data Handlers :=
  schedule.foldl (fun world turn => turn.2.redo registry world turn.1) world

namespace Journal

section
variable {registry : EventRegistry Data} {start : EventStore}
  {journal earlier : List (Entry Data Handlers State Command)}
  {commit : Commit Data Handlers State Command}

/-- A decision on a stale history is never taken in. -/
theorem Placed.decided (placed : Placed registry start journal commit earlier) :
    ∃ history state,
      commit.DecidedOn registry ((store start earlier).records commit.stream) history state := by
  obtain ⟨_, ⟨_, state, loaded, decides⟩, _⟩ := placed.justified
  obtain ⟨history, before, after, latest, found, same, loads⟩ := loaded.version_read
  have known := EventRegistry.lastVersion_dense
    (placed.growing.contiguous before _ latest.split commit.stream) found
  -- Streams only grow, so that of one length at both times is the same stream.
  have current : (store start before).records commit.stream =
      (store start earlier).records commit.stream := by
    apply (placed.growing.grows before _ latest.split commit.stream).eq_of_length
    rw [← known, same]
    exact placed.base_eq
  refine ⟨history, state, ?_, loads, decides⟩
  rw [← current]
  exact found

theorem Sound.stale_iff (contiguous : start.Contiguous)
    {before after : List (Entry Data Handlers State Command)}
    (sound : Sound registry start (before ++ after)) (stream : StreamId) :
    ((store start before).records stream).length ≠
        ((store start (before ++ after)).records stream).length ↔
      ∃ commit ∈ commits after, commit.stream = stream := by
  rw [sound.records_append contiguous, List.length_append]
  constructor
  · intro longer
    have some : ((commits after).filter (·.stream = stream)).flatMap Commit.records ≠ [] := by
      intro none
      rw [none] at longer
      exact longer rfl
    obtain ⟨record, member⟩ := List.exists_mem_of_ne_nil _ some
    obtain ⟨commit, found, _⟩ := List.mem_flatMap.mp member
    rw [List.mem_filter, decide_eq_true_eq] at found
    exact ⟨commit, found⟩
  · rintro ⟨commit, member, same⟩ shorter
    have whole : commit ∈ commits (before ++ after) := by
      rw [commits, List.filterMap_append]
      exact List.mem_append_right _ member
    obtain ⟨earlier, placed⟩ := sound.placed_of_mem contiguous whole
    obtain ⟨record, inside⟩ := List.exists_mem_of_ne_nil commit.records (by
      intro none
      have lengths := placed.length_records
      rw [none] at lengths
      exact placed.events_ne_nil (List.eq_nil_of_length_eq_zero lengths.symm))
    have added : record ∈ ((commits after).filter (·.stream = stream)).flatMap Commit.records :=
      List.mem_flatMap.mpr ⟨commit, List.mem_filter.mpr ⟨member, by simpa using same⟩, inside⟩
    have positive := List.length_pos_of_mem added
    omega

/-- The store answers with a conflict exactly if the stream has another batch since the read. -/
theorem Sound.conflict_iff (contiguous : start.Contiguous) (sound : Sound registry start journal)
    {attempt : Attempt Data Handlers State Command} {version : Nat} {events : List (Event Data)}
    {answer : Except Fault Unit} {later : List (Entry Data Handlers State Command)}
    (split : journal = earlier ++ ⟨attempt, .appended version events answer⟩ :: later)
    (kept : ∀ data ∈ events.map Event.data, registry.Keeps data) :
    ∃ before after, Latest earlier before ⟨attempt, .read version⟩ after ∧
      ((∃ fault, answer = .error fault ∧ fault.isConflict = true) ↔
        ∃ commit ∈ commits after, commit.stream = attempt.stream) ∧
      ∀ fault, answer = .error fault → fault = .conflict attempt.stream (version + 1) := by
  subst split
  obtain ⟨stamped, decided, answered⟩ := sound earlier _ later rfl
  obtain ⟨nonempty, state, loaded, decides⟩ := decided
  obtain ⟨history, before, after, latest, found, same, _⟩ := loaded.version_read
  have growing := sound.of_append.growing contiguous
  have known := EventRegistry.lastVersion_dense
    (growing.contiguous before _ latest.split attempt.stream) found
  have whole := growing.append_eq stamped ⟨nonempty, state, loaded, decides⟩
  obtain ⟨batch, made, _⟩ := EventRegistry.decodeRecords_toRecords stamped kept
  have sinceRead : Sound registry start (before ++ ⟨attempt, .read version⟩ :: after) := by
    rw [← latest.split]
    exact sound.of_append
  have stale := sinceRead.stale_iff contiguous attempt.stream
  rw [← latest.split, ← known, same] at stale
  rw [made] at whole
  dsimp only at whole
  refine ⟨before, after, latest, ?_, ?_⟩
  · change _ ↔ ∃ commit ∈ commits (⟨attempt, .read version⟩ :: after), commit.stream = attempt.stream
    rw [← stale, answered, whole]
    split
    next current => simp [current, Except.map]
    next other => simp [other, Except.map, Fault.isConflict]
  · intro fault failed
    rw [answered, whole] at failed
    split at failed
    · cases failed
    · cases failed
      rfl

/-- The command of a batch, dispatched on a stream that differs in its stamps only from the one that the
batch was decided on, adds the same records up to their stamps. -/
theorem Placed.redo (placed : Placed registry start journal commit earlier)
    {world : Deployment Data Handlers} (moment : Moment)
    (alike : (world.store.records commit.stream).map Record.untimed =
      ((store start earlier).records commit.stream).map Record.untimed) (stream : StreamId) :
    ((commit.redo registry world moment).store.records stream).map Record.untimed =
      if stream = commit.stream then
        ((store start earlier).records commit.stream ++ commit.records).map Record.untimed
      else (world.store.records stream).map Record.untimed := by
  obtain ⟨history, state, decided⟩ := placed.decided
  obtain ⟨again, found, same⟩ := EventRegistry.decodeRecords_congr alike.symm decided.decoded
  have loads := decided.loads
  rw [AggregateRegistry.load_congr _ _ _ same.symm] at loads
  have lengths : (world.store.records commit.stream).length = commit.base := by
    have whole := congrArg List.length alike
    rw [List.length_map, List.length_map, ← placed.base_eq] at whole
    exact whole
  have dense : Record.Dense (world.store.records commit.stream) := by
    have old : Record.Dense ((store start earlier).records commit.stream) :=
      placed.growing.here commit.stream
    rw [Record.Dense, ← Record.versions_untimed, alike, Record.versions_untimed, old, ← placed.base_eq,
      lengths]
  have takes (events : List (Event Data)) (stamped : Event.Stamped commit.stream commit.base events)
      (payloads : events.map Event.data = commit.events.map Event.data) :
      ∃ batch, batch.map Record.untimed = commit.records.map Record.untimed ∧
        world.store.append events =
          .ok (world.store.setRecords commit.stream (world.store.records commit.stream ++ batch)) := by
    obtain ⟨batch, made, sameBatch⟩ := Event.toRecords_congr
      (placed.justified.1.untimed_eq stamped payloads.symm) placed.made
    refine ⟨batch, sameBatch, ?_⟩
    rw [EventStore.append_dense dense stamped _ (Nat.le_of_eq lengths.symm), made]
    · exact if_pos lengths.symm
    · rintro rfl
      exact placed.events_ne_nil (List.map_eq_nil_iff.mp payloads.symm)
  obtain ⟨events, stamped, payloads, stores⟩ := commit.attempt.commandBus.advance_commits _ moment found loads
    decided.decides (List.map_eq_nil_iff.not.mpr placed.events_ne_nil) fun events stamped payloads => by
      obtain ⟨batch, _, stores⟩ := takes events stamped payloads
      exact ⟨_, stores⟩
  obtain ⟨batch, sameBatch, after⟩ := takes events stamped payloads
  have final : (commit.redo registry world moment).store =
      world.store.setRecords commit.stream (world.store.records commit.stream ++ batch) :=
    Except.ok.inj (stores.symm.trans after)
  rw [final, EventStore.records_setRecords]
  split
  next here => rw [List.map_append, List.map_append, alike, sameBatch]
  next elsewhere => rfl

theorem Sound.placed_behind (sound : Sound registry .empty journal)
    {first second : List (Commit Data Handlers State Command)}
    (split : (commits journal).filter (·.stream = commit.stream) = first ++ commit :: second) :
    ∃ earlier, Placed registry .empty journal commit earlier ∧
      (store .empty earlier).records commit.stream = first.flatMap Commit.records := by
  obtain ⟨front, back, whole, rfl, tail⟩ := List.filter_eq_append_iff.mp split
  obtain ⟨skipped, behind, rfl, others, _, _⟩ := List.filter_eq_cons_iff.mp tail
  rw [← List.append_assoc] at whole
  obtain ⟨earlier, later, rfl, before⟩ := commits_eq_append_cons whole
  refine ⟨earlier, sound.placed EventStore.contiguous_empty, ?_⟩
  have all := (show Sound registry .empty ([] ++ earlier) from sound.of_append).records_append
    EventStore.contiguous_empty commit.stream
  have nothing : skipped.filter (·.stream = commit.stream) = [] :=
    List.filter_eq_nil_iff.mpr others
  rw [List.nil_append, before, List.filter_append, nothing, List.append_nil] at all
  exact all

theorem Sound.filter_eq (sound : Sound registry .empty journal)
    {order : List (Commit Data Handlers State Command)} (perm : order.Perm (commits journal))
    (ascending : order.Pairwise fun first second => first.stream = second.stream → first.base < second.base)
    (stream : StreamId) :
    order.filter (·.stream = stream) = (commits journal).filter (·.stream = stream) := by
  have within (list : List (Commit Data Handlers State Command))
      (apart : list.Pairwise fun first second => first.stream = second.stream → first.base < second.base) :
      (list.filter (·.stream = stream)).Pairwise fun first second => first.base < second.base := by
    apply (apart.filter (·.stream = stream)).imp_of_mem
    intro first second firstMember secondMember below
    have firstSame := of_decide_eq_true (List.mem_filter.mp firstMember).2
    have secondSame := of_decide_eq_true (List.mem_filter.mp secondMember).2
    exact below (firstSame.trans secondSame.symm)
  apply (perm.filter (·.stream = stream)).eq_of_pairwise _ (within _ ascending)
    (within _ (sound.commits_apart EventStore.contiguous_empty))
  intro first second _ _ below above
  omega

theorem Sound.serially (sound : Sound registry .empty journal) {world : Deployment Data Handlers}
    (vacant : world.store = .empty) {schedule : List (Moment × Commit Data Handlers State Command)}
    (perm : (schedule.map Prod.snd).Perm (commits journal))
    (ascending : (schedule.map Prod.snd).Pairwise fun first second =>
      first.stream = second.stream → first.base < second.base) (stream : StreamId) :
    ((world.serially registry schedule).store.records stream).map Record.untimed =
      ((store .empty journal).records stream).map Record.untimed := by
  have whole := sound.filter_eq perm ascending
  -- By induction on the commands done so far: in every stream stand the batches of just these.
  have progress (done todo : List (Moment × Commit Data Handlers State Command))
      (split : schedule = done ++ todo) (stream : StreamId) :
      ((world.serially registry done).store.records stream).map Record.untimed =
        (((done.map Prod.snd).filter (·.stream = stream)).flatMap Commit.records).map Record.untimed := by
    induction done using List.reverseRecOn generalizing todo stream with
    | nil =>
      change (world.store.records stream).map Record.untimed = []
      rw [vacant]
      rfl
    | append_singleton done turn ih =>
      obtain ⟨moment, commit⟩ := turn
      rw [List.append_assoc] at split
      have behind := ih _ split
      have place := whole commit.stream
      simp only [split, List.map_append, List.filter_append, List.map_cons, List.singleton_append,
        List.filter_cons, decide_true, if_true] at place
      obtain ⟨earlier, placed, base⟩ := sound.placed_behind place.symm
      have alike := behind commit.stream
      rw [← base] at alike
      have redone : world.serially registry (done ++ [(moment, commit)]) =
          commit.redo registry (world.serially registry done) moment := List.foldl_append
      have added : (done ++ [(moment, commit)]).map Prod.snd = done.map Prod.snd ++ [commit] :=
        List.map_append
      rw [redone, placed.redo moment alike stream, added, List.filter_append]
      split
      next here =>
        subst here
        simp [base]
      next elsewhere =>
        rw [behind stream]
        simp [Ne.symm elsewhere]
  have all := (show Sound registry .empty ([] ++ journal) from sound).records_append
    EventStore.contiguous_empty stream
  rw [progress schedule [] (List.append_nil schedule).symm stream, whole stream]
  rw [List.nil_append] at all
  rw [all]
  rfl

end

end Journal

/-- However the steps of dispatches come in between each other, every batch holds what its rules answered on
exactly the records below it, the same commands one after the other in the order of their versions lead to
the same streams up to the stamps, and the store refuses a batch exactly if its stream has another one since
the read, naming the version that was free then. -/
theorem Traffic.serializable_run (registry : EventRegistry Data) (deployment : Deployment Data Handlers)
    (moves : List (Move Data Handlers State Command))
    (faithful : ∀ commandBus moment command, .start commandBus moment command ∈ moves → commandBus.Faithful registry) :
    let traffic := (opening deployment.vacant).run registry moves
    (∀ commit ∈ Journal.commits traffic.journal,
      (∃ history state,
        commit.DecidedOn registry ((traffic.rows commit.stream).take commit.base) history state) ∧
      commit.base + commit.events.length ≤ (traffic.rows commit.stream).length ∧
      commit.events.map Event.version = List.range' (commit.base + 1) commit.events.length ∧
      registry.decodeRecords (((traffic.rows commit.stream).drop commit.base).take commit.events.length) =
        .ok commit.events) ∧
    (∀ (world : Deployment Data Handlers) (schedule : List (Moment × Commit Data Handlers State Command)),
      (schedule.map Prod.snd).Perm (Journal.commits traffic.journal) →
      ((schedule.map Prod.snd).Pairwise fun first second =>
        first.stream = second.stream → first.base < second.base) →
      ∀ stream, ((world.vacant.serially registry schedule).store.records stream).map Record.untimed =
        (traffic.rows stream).map Record.untimed) ∧
    (∀ earlier attempt version events answer later,
      traffic.journal = earlier ++ ⟨attempt, .appended version events answer⟩ :: later →
      ∃ before after, Journal.Latest earlier before ⟨attempt, .read version⟩ after ∧
        ((∃ fault, answer = .error fault ∧ fault.isConflict = true) ↔
          ∃ commit ∈ Journal.commits after, commit.stream = attempt.stream) ∧
        ∀ fault, answer = .error fault → fault = .conflict attempt.stream (version + 1)) := by
  intro traffic
  have sound : traffic.Sound registry .empty := sound_run registry deployment moves
  have ofCommandBuses : traffic.OfCommandBuses (CommandBus.Faithful registry) :=
    (ofCommandBuses_opening _ deployment.vacant).run moves faithful
  refine ⟨?_, ?_, ?_⟩
  · intro commit member
    rw [sound.rows_eq]
    obtain ⟨earlier, later, split⟩ := Journal.mem_commits member
    have known := ofCommandBuses.journal commit.entry (by rw [split]; simp)
    obtain ⟨_, placed⟩ := sound.journal.placed_of_mem EventStore.contiguous_empty member
    obtain ⟨history, state, decided⟩ := placed.decided
    obtain ⟨stamped, wasDecided, _⟩ := placed.justified
    obtain ⟨batch, made, decoded⟩ := EventRegistry.decodeRecords_toRecords stamped (known.keeps wasDecided)
    refine ⟨⟨history, state, ?_⟩, placed.le_length, stamped.versions, ?_⟩
    · rw [placed.take_base]
      exact decided
    · rw [placed.drop_base]
      cases placed.made.symm.trans made
      exact decoded
  · intro world schedule perm ascending stream
    rw [sound.rows_eq]
    exact sound.journal.serially rfl perm ascending stream
  · intro earlier attempt version events answer later split
    have known := ofCommandBuses.journal ⟨attempt, .appended version events answer⟩ (by rw [split]; simp)
    obtain ⟨_, decided, _⟩ := sound.journal _ _ _ split
    exact sound.journal.conflict_iff EventStore.contiguous_empty split (known.keeps decided)

namespace Tally

theorem faithful_commandBus (answer : Except Fault Unit) : (commandBus answer).Faithful registry :=
  fun _ _ _ _ _ _ mark _ => keeps_mark mark

theorem serializable_race :
    let traffic := (Traffic.opening (Deployment.fresh none ()).vacant).run registry race
    (traffic.rows stream).map Record.version = [1, 2, 3] ∧
    ((Journal.commits traffic.journal).map fun commit => (commit.attempt.index, commit.base)) =
      [(1, 0), (0, 1)] ∧
    ∀ commit ∈ Journal.commits traffic.journal, ∃ history state,
      commit.DecidedOn registry ((traffic.rows commit.stream).take commit.base) history state := by
  intro traffic
  have faithful (started : CommandBus Mark Unit Nat Nat) (moment : Moment) (marks : Nat)
      (member : .start started moment marks ∈ race) : started.Faithful registry := by
    rw [commandBus_of_race member]
    exact faithful_commandBus (.ok ())
  have whole := Traffic.serializable_run registry (Deployment.fresh none ()) race faithful
  refine ⟨rfl, rfl, ?_⟩
  intro commit member
  exact (whole.1 commit member).1

end Tally

end Inventory
