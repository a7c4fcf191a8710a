import ActionPriority.PriorityList.Rotation

/-! # Trials

    A trial lets a rotation act until the encounter is over.  As long as it finds something
    to do it goes on at the same instant, up to a limit.  Otherwise the clock moves on to
    the next instant at which it could find something else.

    A trial ends because every step either acts once more before the limit, or moves the
    clock towards the end (`Trial.run`).
-/

namespace ActionPriority

/-- How many actions may follow one another before the clock has to move. -/
def actionLimit : Nat := 64

/-- A trial on its way. -/
structure Trial where
  rotation : Rotation
  encounter : Encounter
  /-- The actions since the clock last moved, as far as the limit counts them. -/
  acted : Nat := 0

/-- What a trial came to. -/
structure Report where
  damage : Float
  casts : UInt32
  duration : Time

/-- The damage for each second; zero if no time has passed. -/
def Report.dps (r : Report) : Float :=
  let seconds := r.duration.toSeconds
  if seconds > 0.0 then r.damage / seconds else 0.0

namespace Rotation

/-! ### What a decision leaves alone -/

theorem execute_clock {a : Action} {e after : Encounter} {wait : Option Time}
    (h : a.execute e = .ok (after, wait)) :
    after.clock = e.clock ∧ after.settings = e.settings := by
  cases a with
  | wait length =>
    cases h
    exact ⟨rfl, rfl⟩
  | cast caster spell label target =>
    simp only [Action.execute] at h
    split at h
    · rename_i id _
      cases hcast : e.cast caster spell id with
      | error cause =>
        rw [hcast] at h
        cases h
      | ok after' =>
        rw [hcast] at h
        cases h
        exact ⟨Encounter.cast_clock hcast, Encounter.cast_settings hcast⟩
    · cases h

/-- A decision takes no time and changes no setting. -/
theorem act_clock (r : Rotation) (e : Encounter) :
    (r.act e).2.2.clock = e.clock ∧ (r.act e).2.2.settings = e.settings := by
  unfold act
  split
  · exact ⟨rfl, rfl⟩
  · split
    · exact ⟨rfl, rfl⟩
    · split
      · rename_i h
        exact execute_clock h
      · exact ⟨rfl, rfl⟩

/-- Before the end, the next decision lies ahead. -/
theorem lt_nextDecision (r : Rotation) {e : Encounter} (h : e.clock < e.endTime) :
    e.clock < r.nextDecision e := by
  have hnext := Encounter.lt_nextEvent h
  unfold nextDecision
  split
  · split
    · rename_i hwake
      simp only [Time.lt_def, Time.nanos_min] at *
      omega
    · exact hnext
  · exact hnext

end Rotation

namespace Trial

/-! ### Running -/

/-- Whether a decision carried something out. -/
def hasActed : Decision → Bool
  | .executed _ => true
  | .nothingReady => false
  | .failed _ _ => false

/-- One step of a trial, with its decision: the rotation acts, and the clock moves on unless
    it has acted and may do so again. -/
def step (t : Trial) : Decision × Trial :=
  let (decision, rotation, encounter) := t.rotation.act t.encounter
  if hasActed decision && t.acted < actionLimit then
    (decision, { rotation, encounter, acted := t.acted + 1 })
  else
    (decision, { rotation, encounter := encounter.advanceTo (rotation.nextDecision encounter) })

/-- The nanoseconds that are left of the encounter. -/
def nanosLeft (t : Trial) : Nat := t.encounter.endTime.nanos - t.encounter.clock.nanos

/-- A step either moves the clock towards the end, or comes closer to the action limit. -/
theorem step_progress (t : Trial) (h : ¬ t.encounter.isFinished) :
    t.step.2.nanosLeft < t.nanosLeft ∨
      t.step.2.nanosLeft = t.nanosLeft ∧
        actionLimit - t.step.2.acted < actionLimit - t.acted := by
  have hacts := t.rotation.act_clock t.encounter
  have hlt : t.encounter.clock < t.encounter.endTime := by
    simp only [Encounter.isFinished, decide_eq_true_eq, Time.le_def, Time.lt_def] at *
    omega
  unfold step
  generalize t.rotation.act t.encounter = acts at hacts
  obtain ⟨decision, rotation, e⟩ := acts
  obtain ⟨hclock, hsettings⟩ := hacts
  dsimp only at hclock hsettings ⊢
  have hend : e.endTime = t.encounter.endTime := by simp only [Encounter.endTime, hsettings]
  split
  · rename_i hacted
    right
    have hlimit : t.acted < actionLimit := by simpa using (Bool.and_eq_true_iff.mp hacted).2
    refine ⟨?_, ?_⟩
    · simp only [nanosLeft, hclock, hend]
    · dsimp only
      omega
  · left
    have hnow : e.clock < e.endTime := by rw [hclock, hend]; exact hlt
    have hnext := rotation.lt_nextDecision hnow
    have hreach := e.le_clock_advanceTo (rotation.nextDecision e)
    have hend' : (e.advanceTo (rotation.nextDecision e)).endTime = e.endTime := by
      simp only [Encounter.endTime, Encounter.settings_advanceTo]
    simp only [nanosLeft, hend']
    simp only [Time.lt_def, Time.le_def, Time.nanos_min] at *
    rw [← hclock, ← hend]
    omega

/-- The trial when the encounter is over. -/
def run (t : Trial) : Trial := if t.encounter.isFinished then t else run t.step.2
termination_by (t.nanosLeft, actionLimit - t.acted)
decreasing_by
  rename_i h
  rcases step_progress t h with hless | ⟨heq, hless⟩
  · exact Prod.Lex.left _ _ hless
  · rw [heq]
    exact Prod.Lex.right _ hless

/-- What the trial has come to so far. -/
def report (t : Trial) : Report where
  damage := t.encounter.damage
  casts := t.encounter.casts
  duration := t.encounter.clock

end Trial

end ActionPriority
