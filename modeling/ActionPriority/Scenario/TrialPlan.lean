import ActionPriority.Scenario.Basic

/-! # Trial Plans

    How many trials are run, how long they are, and from which seeds.  Trial number `i`
    has the seed of the plan plus `i`, in 64 bits.
-/

namespace ActionPriority

/-- A plan for running trials, with times in seconds. -/
structure TrialPlan where
  iterations : UInt32 := 100
  durationSeconds : Float := 180.0
  globalCooldownSeconds : Float := 1.5
  runeCooldownSeconds : Float := 10.0
  /-- The seed of the first trial. -/
  seed : UInt64 := 0
  /-- How many trials run side by side; what they come to does not depend on it. -/
  threads : Option UInt64 := none

namespace TrialPlan

/-- The settings of each trial. -/
def settings (p : TrialPlan) : Except SetupError Settings := do
  let duration ← fieldTime "duration_secs" p.durationSeconds
  let globalCooldown ← fieldTime "global_cooldown_secs" p.globalCooldownSeconds
  let runeCooldown ← fieldTime "rune_cooldown_secs" p.runeCooldownSeconds
  return { duration, globalCooldown, runeCooldown }

/-- The seed of one trial. -/
def seedOf (p : TrialPlan) (trial : UInt32) : UInt64 := p.seed + trial.toUInt64

end TrialPlan

end ActionPriority
