import ActionPriority.Proofs.Condition.Forecast
import ActionPriority.Proofs.PriorityList.Reachable

/-! # Missed Actions

    When a rotation finds nothing to do, the clock of its trial jumps to the next event, and no
    entry is looked at in between.  An action is missed if an entry would have acted at some
    instant that was skipped.

    Whether an action is ready does not change before the next event, so what can be missed are
    actions that are ready now and whose condition turns true on the way.  A condition can do
    so only by a comparison of times: a clock passing a threshold, or a time running out, is
    not an event.  `Trial.missed_iff_forecast` is the exact criterion, and
    `Trial.missesNothing_of_still` the half of it that can be read off the entries.
-/

namespace ActionPriority

/-! ### Actions and entries in a quiet time -/

section Quiet

variable {e : Encounter} {u : Time}

theorem Action.isReady_of_quiet (h : e.QuietUntil u) (a : Action) :
    a.isReady { e with clock := u } = a.isReady e := by
  cases a with
  | wait length => rfl
  | cast caster spell label target =>
    have hresolve : target.resolve { e with clock := u } = target.resolve e := rfl
    unfold isReady
    dsimp only
    rw [hresolve]
    cases target.resolve e with
    | none => rfl
    | some id => exact h.isOk_checkCast caster spell id

/-- Would the entry act at `u` if nothing happens until then? -/
def Entry.forecast (x : Entry) (e : Encounter) (u : Time) : Bool :=
  x.condition.all (·.forecast e u) && x.action.isReady e

theorem Entry.shouldAct_of_quiet (h : e.QuietUntil u) (x : Entry) :
    x.shouldAct { e with clock := u } = x.forecast e u := by
  have hcondition : (fun condition : Test => condition.eval { e with clock := u }) =
      fun condition => condition.forecast e u := funext fun t => t.eval_of_quiet h
  rw [shouldAct, forecast, hcondition, x.action.isReady_of_quiet h]

/-- Only a condition can keep an entry from being wanted. -/
theorem Entry.exists_condition {x : Entry} (h : x.condition.all (·.eval e) = false) :
    ∃ condition, x.condition = some condition := by
  cases hcondition : x.condition with
  | none =>
    rw [hcondition] at h
    cases h
  | some condition => exact ⟨condition, rfl⟩

end Quiet

namespace Rotation

theorem select_eq_none_iff_firstReady {r : Rotation} {e : Encounter} :
    (r.select e).1 = none ↔ r.firstReady e = none := by
  unfold select
  split
  · next hsome =>
    rw [hsome]
    exact ⟨nofun, nofun⟩
  · next hnone => exact ⟨fun _ => hnone, fun _ => rfl⟩

/-- Nothing is selected if no entry would act. -/
theorem select_eq_none_iff {r : Rotation} {e : Encounter} :
    (r.select e).1 = none ↔ ∀ x ∈ r.active, x.2.shouldAct e = false := by
  rw [select_eq_none_iff_firstReady, firstReady, List.find?_eq_none]
  simp only [Bool.not_eq_true]

/-- A rotation that does not wait decides anew at the next event. -/
theorem nextDecision_of_not_waiting {r : Rotation} {e : Encounter}
    (h : r.isWaiting e = false) : r.nextDecision e = e.nextEvent := by
  unfold nextDecision
  cases hwait : r.waitUntil with
  | none => rfl
  | some wake =>
    -- Not to be waiting means that the instant has passed.
    have hpast : ¬ e.clock < wake := by
      rw [isWaiting, hwait] at h
      exact of_decide_eq_false h
    exact if_neg hpast

end Rotation

/-! ### What a trial skips -/

namespace Trial

/-- The instants between now and the next decision. -/
def Skips (t : Trial) (u : Time) : Prop :=
  t.encounter.clock < u ∧ u < t.rotation.nextDecision t.encounter

theorem Skips.quiet {t : Trial} {u : Time} (h : t.Skips u)
    (hwait : t.rotation.isWaiting t.encounter = false) : t.encounter.QuietUntil u := by
  obtain ⟨hnow, hnext⟩ := h
  rw [Rotation.nextDecision_of_not_waiting hwait] at hnext
  exact ⟨Nat.le_of_lt hnow, hnext⟩

/-- When nothing is found to do, a step moves the clock to the next decision. -/
theorem clock_step_of_idle {t : Trial} (hrunning : t.encounter.isFinished = false)
    (hwait : t.rotation.isWaiting t.encounter = false)
    (hnone : (t.rotation.select t.encounter).1 = none) :
    t.step.2.encounter.clock = t.rotation.nextDecision t.encounter := by
  have hfirst := Rotation.select_eq_none_iff_firstReady.mp hnone
  have hact : t.rotation.act t.encounter =
      (.nothingReady, { t.rotation with phase := .idle, waitUntil := none }, t.encounter) := by
    unfold Rotation.act
    rw [hwait, hfirst]
    rfl
  have hclock : t.encounter.clock < t.encounter.endTime :=
    Nat.lt_of_not_le (of_decide_eq_false hrunning)
  have hlt := Encounter.lt_nextEvent hclock
  have hle := t.encounter.nextEvent_le_endTime
  rw [Rotation.nextDecision_of_not_waiting hwait]
  -- Nothing was carried out, so this is the branch of the step that advances.
  unfold step
  rw [hact]
  simp only [hasActed, Bool.false_and, Bool.false_eq_true, if_false]
  rw [Encounter.clock_advanceTo]
  apply Time.ext
  simp only [Rotation.nextDecision, Time.nanos_max, Time.nanos_min, Time.lt_def, Time.le_def] at *
  omega

/-- Nothing is missed on the way to the next decision. -/
def MissesNothing (t : Trial) : Prop :=
  ∀ u, t.Skips u → (t.rotation.select (t.encounter.advanceTo u)).1 = none

/-- What would be selected at an instant that is skipped can be told beforehand. -/
theorem select_advanceTo_iff {t : Trial} {u : Time} (h : t.encounter.Reachable)
    (hwait : t.rotation.isWaiting t.encounter = false) (hu : t.Skips u) :
    (t.rotation.select (t.encounter.advanceTo u)).1 = none ↔
      ∀ x ∈ t.rotation.active, x.2.forecast t.encounter u = false := by
  have hquiet := hu.quiet hwait
  rw [hquiet.advanceTo h.ticksAhead, Rotation.select_eq_none_iff]
  constructor
  · intro hall x hx
    rw [← x.2.shouldAct_of_quiet hquiet]
    exact hall x hx
  · intro hall x hx
    rw [x.2.shouldAct_of_quiet hquiet]
    exact hall x hx

/-- A rotation that has found nothing to do misses an action if and only if there is an entry
    whose action is ready already, and whose condition is forecast to hold at an instant that
    is skipped. -/
theorem missed_iff_forecast {t : Trial} (h : t.encounter.Reachable)
    (hrunning : t.encounter.isFinished = false)
    (hwait : t.rotation.isWaiting t.encounter = false)
    (hnone : (t.rotation.select t.encounter).1 = none) :
    t.step.2.encounter.clock = t.rotation.nextDecision t.encounter ∧
    (t.MissesNothing ↔
      ∀ x ∈ t.rotation.active, x.2.action.isReady t.encounter = true →
        ∃ condition, x.2.condition = some condition ∧
          ∀ u, t.Skips u → condition.forecast t.encounter u = false) := by
  refine ⟨clock_step_of_idle hrunning hwait hnone, ?_⟩
  constructor
  · intro hmisses x hx hready
    -- The action is ready, so it is the condition that holds it back now.
    have hnow := Rotation.select_eq_none_iff.mp hnone x hx
    rw [Entry.shouldAct, hready, Bool.and_true] at hnow
    obtain ⟨condition, hcondition⟩ := Entry.exists_condition hnow
    refine ⟨condition, hcondition, ?_⟩
    intro u hu
    have hthen := (select_advanceTo_iff h hwait hu).mp (hmisses u hu) x hx
    rw [Entry.forecast, hready, Bool.and_true, hcondition] at hthen
    exact hthen
  · intro hforecast u hu
    rw [select_advanceTo_iff h hwait hu]
    intro x hx
    by_cases hready : x.2.action.isReady t.encounter = true
    · -- Its condition will not hold.
      obtain ⟨condition, hcondition, hno⟩ := hforecast x hx hready
      have hthen := hno u hu
      rw [Entry.forecast, hcondition, Option.all_some, hthen]
      rfl
    · -- Its action will not be ready either.
      rw [Entry.forecast, Bool.eq_false_iff.mpr hready, Bool.and_false]

/-- A knight that is to strike once five seconds have passed. -/
def lateStrike : Study where
  scenario :=
    { player := { label := "Knight", spells := [{ id := ⟨1⟩, label := "Strike" }] }
      targets := [{ label := "Dummy" }] }
  list :=
    { entries :=
        [{ condition := some (.compare .ge .currentTime (.const (.seconds 5.0)))
           action := .cast ⟨1⟩ .currentTarget }] }
  plan := {}

/-- Is this a trial that has nothing to do now, and an entry with a ready action that is
    forecast to act at `u`, which the trial skips? -/
def overlooks (t : Trial) (u : Time) : Bool :=
  !t.encounter.isFinished && !t.rotation.isWaiting t.encounter &&
    (t.rotation.select t.encounter).1.isNone &&
    decide (t.encounter.clock < u ∧ u < t.rotation.nextDecision t.encounter) &&
    t.rotation.active.any fun x =>
      x.2.action.isReady t.encounter && x.2.condition.all (·.forecast t.encounter u)

/-- The late strike is overlooked. -/
theorem missed_iff_forecast_late_strike :
    ∃ t diagnostics, lateStrike.begin {} 0 = .ok (t, diagnostics) ∧ ¬ t.MissesNothing := by
  have hlook : (lateStrike.begin {} 0).toOption.any
      (fun begun => begun.1.overlooks (Time.ofWholeSeconds 5)) = true := by decide +kernel
  cases hbegin : lateStrike.begin {} 0 with
  | error cause =>
    rw [hbegin] at hlook
    cases hlook
  | ok begun =>
    obtain ⟨t, diagnostics⟩ := begun
    refine ⟨t, diagnostics, rfl, ?_⟩
    rw [hbegin] at hlook
    have hlook : t.overlooks (Time.ofWholeSeconds 5) = true := hlook
    simp only [overlooks, Bool.and_eq_true, Bool.not_eq_true', Option.isNone_iff_eq_none,
      decide_eq_true_eq, List.any_eq_true] at hlook
    obtain ⟨⟨⟨⟨hrunning, hwait⟩, hnone⟩, hskips⟩, x, hx, hready, hthen⟩ := hlook
    have hreachable := (Study.reachable_begin hbegin).encounter
    intro hmisses
    obtain ⟨condition, hcondition, hno⟩ :=
      (missed_iff_forecast hreachable hrunning hwait hnone).2.mp hmisses x hx hready
    rw [hcondition, Option.all_some, hno _ hskips] at hthen
    cases hthen

/-- Where no condition compares a time that runs, nothing is ever missed. -/
theorem missesNothing_of_still {t : Trial} (h : t.encounter.Reachable)
    (hwait : t.rotation.isWaiting t.encounter = false)
    (hnone : (t.rotation.select t.encounter).1 = none)
    (hstill : ∀ x ∈ t.rotation.active, ∀ condition ∈ x.2.condition,
      condition.comparesRunning = false) : t.MissesNothing := by
  intro u hu
  rw [select_advanceTo_iff h hwait hu]
  intro x hx
  have hnow := Rotation.select_eq_none_iff.mp hnone x hx
  unfold Entry.shouldAct at hnow
  unfold Entry.forecast
  cases hcondition : x.2.condition with
  | none =>
    rw [hcondition] at hnow
    exact hnow
  | some condition =>
    have hsame := condition.forecast_eq_eval t.encounter u (hstill x hx condition hcondition)
    rw [hcondition] at hnow
    simp only [Option.all_some, hsame] at hnow ⊢
    exact hnow

end Trial

end ActionPriority
