import ActionPriority.Proofs.PriorityList.Operations
import ActionPriority.Study.Basic

/-! # Reachable Trials

    A trial begins with a rotation compiled for an encounter, and goes on by steps until the
    encounter is over (`Trial.Reachable`).  The trials of a study begin that way
    (`Study.reachable_begin`), and the encounters that trials go through are reachable
    (`Trial.Reachable.encounter`), so that what holds of those holds at every step.
    `Trial.decisions` is what a run decides, instant by instant.
-/

namespace ActionPriority

/-- The trials that can come up: those that begin, and those to which steps lead as long as the
    encounter is not over. -/
inductive Trial.Reachable : Trial → Prop where
  | begin {e : Encounter} {list : PriorityList} {caster : CombatantId} {rotation : Rotation}
      {diagnostics : Diagnostics} : e.Reachable →
        Rotation.compile list e caster .standard = .ok (rotation, diagnostics) →
          Reachable { rotation, encounter := e }
  | step {t : Trial} : Reachable t → t.encounter.isFinished = false → Reachable t.step.2

/-- What the beginning of a trial is made of. -/
theorem Study.begin_eq_ok {s : Study} {settings : Settings} {seed : UInt64} {t : Trial}
    {diagnostics : Diagnostics} (h : s.begin settings seed = .ok (t, diagnostics)) :
    ∃ e player rotation, s.scenario.build settings seed = .ok (e, player) ∧
      Rotation.compile s.list e player .standard = .ok (rotation, diagnostics) ∧
      t = { rotation, encounter := e } := by
  unfold Study.begin at h
  cases hbuild : s.scenario.build settings seed with
  | error cause =>
    rw [hbuild] at h
    cases h
  | ok built =>
    obtain ⟨e, player⟩ := built
    cases hcompile : Rotation.compile s.list e player .standard with
    | error cause =>
      simp only [hbuild, hcompile, Except.mapError, bind, Except.bind] at h
      cases h
    | ok compiled =>
      obtain ⟨rotation, messages⟩ := compiled
      simp only [hbuild, hcompile, Except.mapError, bind, Except.bind] at h
      cases h
      exact ⟨e, player, rotation, rfl, hcompile, rfl⟩

/-- The trials of a study are reachable from their beginning on. -/
theorem Study.reachable_begin {s : Study} {settings : Settings} {seed : UInt64} {t : Trial}
    {diagnostics : Diagnostics} (h : s.begin settings seed = .ok (t, diagnostics)) :
    t.Reachable := by
  obtain ⟨e, player, rotation, hbuild, hcompile, rfl⟩ := begin_eq_ok h
  exact Trial.Reachable.begin (Encounter.reachable_of_build hbuild) hcompile

theorem Encounter.Reachable.step {t : Trial} (h : t.encounter.Reachable) :
    t.step.2.encounter.Reachable := by
  rw [t.encounter_step]
  exact h.run _

/-- A trial only goes through reachable encounters. -/
theorem Trial.Reachable.encounter {t : Trial} (h : t.Reachable) : t.encounter.Reachable := by
  induction h with
  | begin he _ => exact he
  | step _ _ ih => exact ih.step

/-! ### The decisions of a run -/

namespace Trial

/-- The decisions of a trial with the instants at which they are taken. -/
def decisions (t : Trial) : List (Time × Decision) :=
  if t.encounter.isFinished then []
  else (t.encounter.clock, t.step.1) :: decisions t.step.2
termination_by (t.nanosLeft, actionLimit - t.acted)
decreasing_by
  rename_i h
  rcases step_progress t h with hless | ⟨heq, hless⟩
  · exact Prod.Lex.left _ _ hless
  · rw [heq]
    exact Prod.Lex.right _ hless

theorem decisions_of_finished {t : Trial} (h : t.encounter.isFinished = true) :
    t.decisions = [] := by
  rw [decisions, if_pos h]

theorem decisions_of_running {t : Trial} (h : t.encounter.isFinished = false) :
    t.decisions = (t.encounter.clock, t.step.1) :: t.step.2.decisions := by
  rw [decisions, if_neg (Bool.eq_false_iff.mp h)]

end Trial

end ActionPriority
