import Inventory.Proofs.Audience.ReadStep
import Mathlib.Data.List.Induction

/-! What becomes of a crew that is stopped. Whoever stops it comes back when each of its loops has ended. A loop that
has ended takes no step any more and no other joins the crew, so that nothing more is done for its handlers. -/
namespace Inventory
variable {Data State : Type}

namespace Audience

def deeds (audience : Audience Data State) (crew : Nat) : List Note :=
  audience.journal.filter (·.crew = crew)

/-- Whoever stopped the crew has seen it end. -/
def Dismissed (audience : Audience Data State) (crew : Nat) : Prop :=
  ∃ told, audience.crews[crew]? = some told ∧ told.dismissed = true

structure Spent (audience : Audience Data State) (crew : Nat) : Prop where
  started : crew < audience.crews.length
  ended : ∀ consumer ∈ audience.loops, consumer.crew = crew → consumer.isEnded = true

theorem ended_of_hasEnded {audience : Audience Data State} {crew : Nat} (ended : audience.hasEnded crew = true) :
    ∀ consumer ∈ audience.loops, consumer.crew = crew → consumer.isEnded = true := by
  intro consumer member
  have all := List.all_eq_true.mp ended consumer member
  exact of_decide_eq_true all

variable [Payload Data] {registry : EventRegistry Data} {audience later : Audience Data State} {crew : Nat}

theorem Spent.readStep (spent : audience.Spent crew) (readStep : ReadStep registry audience later) :
    later.Spent crew ∧ later.deeds crew = audience.deeds crew := by
  cases readStep with
  | @moved index consumer next doing? side found alive consumerStep =>
    have other : consumer.crew ≠ crew := by
      intro own
      rw [spent.ended consumer (List.mem_of_getElem? found) own] at alive
      cases alive
    refine ⟨⟨spent.started, ?_⟩, ?_⟩
    · intro member inside own
      rcases List.mem_or_eq_of_mem_set inside with old | rfl
      · exact spent.ended member old own
      · exact absurd (consumerStep.crew_eq.symm.trans own) other
    · rw [deeds, advance, List.filter_append, ← deeds]
      cases doing? <;> simp [Consumer.note, other]
  | joined handlers =>
    refine ⟨⟨?_, ?_⟩, rfl⟩
    · rw [step, List.length_append]
      exact Nat.lt_add_right _ spent.started
    · intro member inside own
      rcases List.mem_append.mp inside with old | new
      · exact spent.ended member old own
      · obtain ⟨handler, _, rfl⟩ := List.mem_map.mp new
        exact absurd own (Nat.ne_of_gt spent.started)
  | elsewhere change alike loops crews journal log offset =>
    refine ⟨⟨crews ▸ spent.started, ?_⟩, by rw [deeds, journal, deeds]⟩
    intro member inside own
    rw [loops] at inside
    obtain ⟨old, oldMember, rfl⟩ := List.mem_map.mp inside
    rw [(alike old).crew] at own
    have ended := spent.ended old oldMember own
    rw [Consumer.isEnded] at ended ⊢
    rw [(alike old).stage]
    exact ended

theorem Dismissed.before (dismissed : later.Dismissed crew) (shift : Shift registry audience later) :
    audience.Dismissed crew ∨ later.Spent crew := by
  obtain ⟨told, found, marked⟩ := dismissed
  cases shift with
  | joined handlers =>
    rw [step, List.getElem?_append] at found
    split at found
    · exact .inl ⟨told, found, marked⟩
    · rw [List.mem_singleton.mp (List.mem_of_getElem? found)] at marked
      cases marked
  | @told other _ signal untold =>
    by_cases own : other = crew
    · subst own
      rw [List.getElem?_set_self (List.getElem?_eq_some_iff.mp untold).1] at found
      cases found
      cases marked
    · exact .inl ⟨told, (List.getElem?_set_ne own).symm.trans found, marked⟩
  | @dismissed other ended =>
    by_cases own : other = crew
    · subst own
      exact .inr ⟨(List.getElem?_eq_some_iff.mp found).1, ended_of_hasEnded ended⟩
    · exact .inl ⟨told, (List.getElem?_modify_ne _ _ own).symm.trans found, marked⟩
  | still | moved | published | announced | swayed => exact .inl ⟨told, found, marked⟩

theorem spent_of_dismissed (registry : EventRegistry Data) (metrics : Option Metrics) (handlers : State)
    (turns : List (Turn Data State)) {crew : Nat}
    (dismissed : ((opening metrics handlers).run registry turns).Dismissed crew) :
    ((opening metrics handlers).run registry turns).Spent crew := by
  induction turns using List.reverseRecOn with
  | nil =>
    obtain ⟨told, found, _⟩ := dismissed
    cases found
  | append_singleton turns turn ih =>
    rw [run_append] at dismissed ⊢
    rcases dismissed.before (step_shift registry _ turn) with before | spent
    · exact ((ih before).readStep (readStep_step registry _ turn)).1
    · exact spent

theorem Spent.run (spent : audience.Spent crew) (turns : List (Turn Data State)) :
    (audience.run registry turns).deeds crew = audience.deeds crew := by
  induction turns generalizing audience with
  | nil => rfl
  | cons turn rest ih =>
    obtain ⟨still, same⟩ := spent.readStep (audience.readStep_step registry turn)
    exact (ih still).trans same

end Audience

end Inventory
