import ActionPriority.Json.Printer
import ActionPriority.Study.Basic

/-! # Summaries

    A summary says what the trials of a study came to on the whole: the damage for each
    second with its mean, its bounds and its standard deviation, and the mean of the damage
    and of the casts.  Sums are taken in the order of the trials, so that a summary does not
    depend on how many of them ran side by side.
-/

namespace ActionPriority

/-! ### Statistics -/

/-- The sum of some floats, added up from the first. -/
def sumOf (xs : List Float) : Float := xs.foldl (· + ·) (-0.0)

/-- The lesser of two floats.  What is no number does not count. -/
def lesser (x y : Float) : Float := if x.isNaN || y < x then y else x

/-- The greater of two floats.  What is no number does not count. -/
def greater (x y : Float) : Float := if x.isNaN || x < y then y else x

/-- What the trials of a study came to. -/
structure Summary where
  iterations : Nat
  durationSeconds : Float
  /-- The seed of the first trial. -/
  seed : UInt64
  meanDps : Float
  minDps : Float
  maxDps : Float
  stddevDps : Float
  meanDamage : Float
  meanCasts : Float
  warnings : List String

namespace Summary

/-- The summary of some reports. -/
def ofReports (reports : List Report) (plan : TrialPlan) (warnings : List String) : Summary :=
  let count := (max reports.length 1).toFloat
  let dps := reports.map Report.dps
  let mean := sumOf dps / count
  let variance := sumOf (dps.map fun x => (x - mean) * (x - mean)) / count
  { iterations := reports.length
    durationSeconds := plan.durationSeconds
    seed := plan.seed
    meanDps := mean
    minDps := dps.foldl lesser (1.0 / 0.0)
    maxDps := dps.foldl greater (-1.0 / 0.0)
    stddevDps := variance.sqrt
    meanDamage := sumOf (reports.map Report.damage) / count
    meanCasts := sumOf (reports.map fun r => r.casts.toFloat) / count
    warnings }

end Summary

/-- Runs the trials of a study and sums them up. -/
def Study.summary (s : Study) : Except StudyError Summary := do
  if s.plan.iterations = 0 then throw .noTrials
  let settings ← s.settings
  let (_, diagnostics) ← s.begin settings s.plan.seed
  let reports ← s.reports settings
  return .ofReports reports s.plan (diagnostics.warnings.map Message.text)

namespace Summary

/-! ### Writing -/

/-- A float with one decimal place. -/
def tenths (x : Float) : String := Binary64.fixed 1 x

/-- The summary in lines. -/
def lines (s : Summary) : List String :=
  ["Trials:     " ++ toString s.iterations,
    "Duration:   " ++ tenths s.durationSeconds ++ "s",
    "Seed:       " ++ toString s.seed.toNat,
    "DPS:        " ++ tenths s.meanDps ++ " (min " ++ tenths s.minDps ++ ", max " ++
      tenths s.maxDps ++ ", stddev " ++ tenths s.stddevDps ++ ")",
    "Damage:     " ++ tenths s.meanDamage,
    "Casts:      " ++ tenths s.meanCasts] ++
  if s.warnings.isEmpty then []
  else
    ["", "Warnings (" ++ toString s.warnings.length ++ "):"] ++ s.warnings.map ("  " ++ ·)

/-- The summary as a document. -/
def json (s : Summary) : Json :=
  .object
    [("iterations", .ofNat s.iterations), ("duration_secs", .ofFloat s.durationSeconds),
      ("seed", .ofNat s.seed.toNat), ("mean_dps", .ofFloat s.meanDps),
      ("min_dps", .ofFloat s.minDps), ("max_dps", .ofFloat s.maxDps),
      ("stddev_dps", .ofFloat s.stddevDps), ("mean_damage", .ofFloat s.meanDamage),
      ("mean_casts", .ofFloat s.meanCasts), ("warnings", .ofTexts s.warnings)]

end Summary

end ActionPriority
