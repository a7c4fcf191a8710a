import ActionPriority.Study.DataDirectory
import ActionPriority.Study.Summary
import ActionPriority.Study.Validation

/-! # Commands

    There are two things to ask of a data directory: to run its trials, and to validate
    its priority list.  What a command comes to depends on nothing but the command and
    the files of the directory.
-/

namespace ActionPriority

/-- How an answer is written. -/
inductive OutputFormat where
  /-- For people to read. -/
  | summary
  | json
  deriving DecidableEq, Repr

/-- The values that a command puts in the place of those of the plan. -/
structure Overrides where
  iterations : Option UInt32 := none
  durationSeconds : Option Float := none
  seed : Option UInt64 := none
  threads : Option UInt64 := none

/-- The plan with other values where there are some. -/
def Overrides.apply (o : Overrides) (p : TrialPlan) : TrialPlan :=
  { p with
    iterations := o.iterations.getD p.iterations
    durationSeconds := o.durationSeconds.getD p.durationSeconds
    seed := o.seed.getD p.seed
    threads := o.threads <|> p.threads }

/-- Without other values the plan stays as it is. -/
@[simp] theorem Overrides.apply_empty (p : TrialPlan) : ({} : Overrides).apply p = p := by
  cases p
  simp [Overrides.apply]

/-- What is asked for. -/
inductive Command where
  /-- To run the trials of a directory and sum them up. -/
  | run (directory : String) (overrides : Overrides) (format : OutputFormat)
  /-- To compile the priority list of a directory and list what came up. -/
  | validate (directory : String) (format : OutputFormat)

/-- What a command came to. -/
structure Outcome where
  /-- What it has written. -/
  output : String
  /-- What went wrong; empty if nothing did. -/
  failure : Failure := []
  deriving DecidableEq, Repr

namespace Outcome

/-- The status that a command ends with. -/
def status (o : Outcome) : UInt8 := if o.failure.isEmpty then 0 else 1

theorem status_eq_zero (o : Outcome) : o.status = 0 ↔ o.failure = [] := by
  unfold status
  cases o.failure <;> simp

/-- A failure before anything has been written. -/
def failed (failure : Failure) : Outcome := { output := "", failure }

end Outcome

namespace OutputFormat

/-- An answer in one of the formats. -/
def render (format : OutputFormat) (lines : List String) (document : Json) : String :=
  match format with
  | .summary => String.join (lines.map (· ++ "\n"))
  | .json => document.pretty ++ "\n"

end OutputFormat

namespace Command

/-- The directory that a command is about. -/
def directory : Command → String
  | .run directory _ _ => directory
  | .validate directory _ => directory

/-- Carries out a command on the directory that it is about. -/
def execute (c : Command) (d : DataDirectory) : Outcome :=
  match d.study with
  | .error failure => .failed failure
  | .ok study =>
    match c with
    | .run _ overrides format =>
      match { study with plan := overrides.apply study.plan : Study }.summary with
      | .error e => .failed [e.message]
      | .ok s => { output := format.render s.lines s.json }
    | .validate _ format =>
      match study.validation with
      | .error e => .failed [e.message]
      | .ok v =>
        { output := format.render v.lines v.json
          failure := if v.passes then [] else [v.complaint] }

/-- A validation succeeds exactly if its list compiles without a warning. -/
theorem validate_status {d : DataDirectory} {study : Study} {v : Validation}
    (directory : String) (format : OutputFormat) (hstudy : d.study = .ok study)
    (hv : study.validation = .ok v) :
    ((validate directory format).execute d).status = 0 ↔ v.warnings = 0 := by
  rw [Outcome.status_eq_zero]
  simp [execute, hstudy, hv, Validation.passes]

end Command

end ActionPriority
