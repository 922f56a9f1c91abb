import Inventory.Proofs.Breaker.Overlap

/-! An open breaker keeps calls out until it has cooled down, however calls overlap. In every state the records fit: an
open breaker knows since when it is open, so that it never takes a breaker without that time for one that has cooled
down. A failure that comes late may open it again, which only moves that time on. -/
namespace Inventory.Breaker

/-- With a failure the breaker opened at this moment, or opened again. -/
def Note.Opens (note : Note) : Prop :=
  note.act = .completed .failure ∧ note.left.state = .opened ∧ note.left.openedAt = some note.moment

section
variable {config : Config} {now : Duration} {met left : Breaker} {act : Act}

/-- The timeout has passed since this moment, or the breaker is open, and has been since then or for less time. -/
def Awaits (config : Config) (now : Duration) (breaker : Breaker) (moment : Duration) : Prop :=
  (breaker.state = .opened ∧ ∃ since, breaker.openedAt = some since ∧ moment.nanoseconds ≤ since.nanoseconds) ∨
    moment.nanoseconds + config.timeout.nanoseconds ≤ now.nanoseconds

theorem Awaits.mono {moment : Duration} (awaits : Awaits config now met moment) {later : Duration}
    (le : now.nanoseconds ≤ later.nanoseconds) : Awaits config later met moment :=
  awaits.imp_right fun passed => Nat.le_trans passed le

/-- An open breaker that has cooled down opened long enough ago, and one that is not open waited before. -/
theorem Awaits.passed {moment : Duration} (awaits : Awaits config now met moment) (safe : Safe config now met)
    (admits : Turn config now met .admitted left) :
    moment.nanoseconds + config.timeout.nanoseconds ≤ now.nanoseconds := by
  rcases awaits with ⟨state, since, known, before⟩ | passed
  · cases admits with
    | admitted found => exact absurd state found
    | tried found cooled =>
      obtain ⟨other, same, past, _⟩ := safe.opened state
      cases known.symm.trans same
      rw [cooledDown, known] at cooled
      have reached : config.timeout.nanoseconds ≤ now.nanoseconds - since.nanoseconds := of_decide_eq_true cooled
      omega
  · exact passed

theorem Turn.awaits {moment : Duration} (turn : Turn config now met act left) (safe : Safe config now met)
    (awaits : Awaits config now met moment) : Awaits config now left moment := by
  -- A breaker that opens again was open before, and for no longer than since now.
  have anew (other : Breaker) : Awaits config now (other.openedAnew now) moment := by
    rcases awaits with ⟨state, since, known, before⟩ | passed
    · obtain ⟨_, same, past, _⟩ := safe.opened state
      cases known.symm.trans same
      exact .inl ⟨rfl, now, rfl, Nat.le_trans before past⟩
    · exact .inr passed
  have shut (found : met.state = .halfOpen) : moment.nanoseconds + config.timeout.nanoseconds ≤ now.nanoseconds := by
    refine awaits.resolve_left fun ⟨state, _⟩ => ?_
    cases state.symm.trans found
  cases turn with
  | refused found early => exact awaits
  | admitted found => exact awaits
  | tried found cooled => exact .inr (awaits.passed safe (.tried found cooled))
  | spared found => exact awaits
  | passed found few => exact .inr (shut found)
  | restored found many => exact .inr (shut found)
  | counted found few => exact awaits
  | tripped found many => exact anew _
  | relapsed found => exact anew _
  | dropped => exact awaits

theorem Turn.opened_cases (turn : Turn config now met act left) (state : left.state = .opened) :
    (met.state = .opened ∧ left.openedAt = met.openedAt) ∨ (act = .completed .failure ∧ left.openedAt = some now) := by
  cases turn with
  | refused found early => exact .inl ⟨found, rfl⟩
  | admitted found => exact absurd state found
  | tried found cooled => cases state
  | spared found => exact .inl ⟨state, rfl⟩
  | passed found few => cases state.symm.trans found
  | restored found many => cases state
  | counted found few => exact .inl ⟨state, rfl⟩
  | tripped found many => exact .inr ⟨rfl, rfl⟩
  | relapsed found => exact .inr ⟨rfl, rfl⟩
  | dropped => exact .inl ⟨state, rfl⟩

theorem Turn.eq_of_refused (turn : Turn config now met .refused left) : left = met := by
  cases turn
  rfl

theorem Turn.counters_le (turn : Turn config now met act left) :
    left.failures ≤ met.failures + act.isEnd.toNat ∧ left.successes ≤ met.successes + act.isEnd.toNat := by
  cases turn <;> simp [Act.isEnd, onTrial, closedAnew, openedAnew]

end

namespace Gate
variable {config : Config} {gate later : Gate}

/-- The records fit the state, and nothing is admitted before the timeout has passed. -/
structure Guarded (config : Config) (gate : Gate) : Prop where
  safe : Safe config gate.now gate.breaker
  awaits : ∀ note ∈ gate.journal, note.Opens → Awaits config gate.now gate.breaker note.moment
  apart : gate.journal.Pairwise fun earlier later => earlier.Opens → later.act = .admitted →
    earlier.moment.nanoseconds + config.timeout.nanoseconds ≤ later.moment.nanoseconds

theorem Guarded.waited (guarded : gate.Guarded config) (span : Duration) :
    Guarded config { gate with now := gate.now + span } :=
  have le : gate.now.nanoseconds ≤ (gate.now + span).nanoseconds := Nat.le_add_right ..
  { safe := guarded.safe.mono le
    awaits := fun note member opens => (guarded.awaits note member opens).mono le
    apart := guarded.apart }

theorem Guarded.note (guarded : gate.Guarded config) (ticket : Nat) {act : Act} {left : Breaker}
    (turn : Turn config gate.now gate.breaker act left) : (gate.note ticket act left).Guarded config where
  safe := turn.safe guarded.safe
  awaits := by
    intro note member opens
    rcases List.mem_append.mp member with old | new
    · exact turn.awaits guarded.safe (guarded.awaits note old opens)
    · cases List.mem_singleton.mp new
      exact .inl ⟨opens.2.1, _, opens.2.2, Nat.le_refl _⟩
  apart := by
    refine List.pairwise_append.mpr ⟨guarded.apart, List.pairwise_singleton .., fun earlier old later new => ?_⟩
    cases List.mem_singleton.mp new
    rintro opens rfl
    exact (guarded.awaits earlier old opens).passed guarded.safe turn

theorem run_guarded (config : Config) (start : Duration) (moves : List Move) :
    (run config { now := start } moves).Guarded config :=
  run_notes (fun _ span guarded => guarded.waited span) (fun _ ticket _ _ turn guarded => guarded.note ticket turn)
    (fun _ _ ⟨safe, awaits, apart⟩ => ⟨safe, awaits, apart⟩)
    { safe := .of_closed rfl rfl rfl (threshold_pos _)
      awaits := List.forall_mem_nil _
      apart := .nil } moves

structure Counted (gate : Gate) : Prop where
  failures_le : gate.breaker.failures ≤ gate.journal.ended.length
  successes_le : gate.breaker.successes ≤ gate.journal.ended.length

theorem Counted.note (counted : gate.Counted) (ticket : Nat) {act : Act} {left : Breaker}
    (turn : Turn config gate.now gate.breaker act left) : (gate.note ticket act left).Counted := by
  obtain ⟨failures, successes⟩ := turn.counters_le
  have length : (gate.note ticket act left).journal.ended.length = gate.journal.ended.length + act.isEnd.toNat :=
    Journal.length_ended_concat ..
  constructor
  · rw [length]
    exact Nat.le_trans failures (Nat.add_le_add_right counted.failures_le _)
  · rw [length]
    exact Nat.le_trans successes (Nat.add_le_add_right counted.successes_le _)

theorem run_counted (config : Config) (start : Duration) (moves : List Move) :
    (run config { now := start } moves).Counted :=
  run_notes (fun _ _ ⟨failures, successes⟩ => ⟨failures, successes⟩)
    (fun _ ticket _ _ turn counted => counted.note ticket turn)
    (fun _ _ ⟨failures, successes⟩ => ⟨failures, successes⟩) ⟨Nat.le_refl _, Nat.le_refl _⟩ moves

/-- However calls overlap and whatever time passes in between: the records fit the state, so that an open breaker always
knows since when it is open; once the breaker has opened, or opened again, nothing is admitted before the timeout has
passed, and there is no other way for it to be open; a refusal changes nothing; and no counter exceeds the number of
calls. -/
theorem guarded_run (config : Config) (start : Duration) (moves : List Move) :
    let gate := run config { now := start } moves
    Safe config gate.now gate.breaker ∧
      (gate.journal.Pairwise fun earlier later => earlier.Opens → later.act = .admitted →
        earlier.moment.nanoseconds + config.timeout.nanoseconds ≤ later.moment.nanoseconds) ∧
      (∀ note ∈ gate.journal, note.left.state = .opened →
        (note.met.state = .opened ∧ note.left.openedAt = note.met.openedAt) ∨ note.Opens) ∧
      (∀ note ∈ gate.journal, note.act = .refused → note.left = note.met) ∧
      gate.breaker.failures ≤ gate.calls ∧ gate.breaker.successes ≤ gate.calls := by
  intro gate
  have lawful := run_lawful config start moves
  have guarded := run_guarded config start moves
  have counted := run_counted config start moves
  have ended := (run_ticketed config start moves).length_ended_le
  refine ⟨guarded.safe, guarded.apart, fun note member state => ?_, fun note member kind => ?_,
    Nat.le_trans counted.failures_le ended, Nat.le_trans counted.successes_le ended⟩
  · exact ((lawful note member).opened_cases state).imp_right fun anew => ⟨anew.1, state, anew.2⟩
  · have turn := lawful note member
    rw [kind] at turn
    exact turn.eq_of_refused

end Gate

end Inventory.Breaker
