import ActionPriority.PriorityList.Trial
import ActionPriority.Scenario.TrialPlan

/-! # Studies

    A study is a scenario, a priority list and a plan for trials.  Each trial has an
    encounter and a rotation of its own, made anew from the description, so trials differ
    in their seeds alone and may be run in any order.
-/

namespace ActionPriority

/-- Everything that trials are made from. -/
structure Study where
  scenario : Scenario
  list : PriorityList
  plan : TrialPlan

/-- Why a trial cannot begin. -/
inductive StudyError where
  | setup (cause : SetupError)
  | caster (cause : UnknownCaster)
  /-- The plan asks for no trials at all. -/
  | noTrials

/-- The wording of it. -/
def StudyError.message : StudyError → String
  | .setup cause => cause.message
  | .caster cause => cause.message
  | .noTrials => "At least one trial is required"

namespace Study

/-- The settings of each trial. -/
def settings (s : Study) : Except StudyError Settings := s.plan.settings.mapError .setup

/-- A trial before it begins, and what came up while its rotation was compiled. -/
def begin (s : Study) (settings : Settings) (seed : UInt64) :
    Except StudyError (Trial × Diagnostics) := do
  let (encounter, player) ← (s.scenario.build settings seed).mapError .setup
  let (rotation, diagnostics) ←
    (Rotation.compile s.list encounter player .standard).mapError .caster
  return ({ rotation, encounter }, diagnostics)

/-- What the trial of one seed comes to. -/
def report (s : Study) (settings : Settings) (seed : UInt64) : Except StudyError Report := do
  let (trial, _) ← s.begin settings seed
  return trial.run.report

/-- What the trials of the plan come to, in the order of their numbers. -/
def reports (s : Study) (settings : Settings) : Except StudyError (List Report) :=
  (List.range s.plan.iterations.toNat).mapM fun i =>
    s.report settings (s.plan.seedOf (UInt32.ofNat i))

end Study

end ActionPriority
