import ActionPriority.Scenario.TrialPlan
import ActionPriority.Toml.Reader

/-! # Trial Plans in Settings Documents

    A plan takes its fields by name from the top level of a document.  Each may be left out,
    and names that mean nothing to it are passed over.
-/

namespace ActionPriority

namespace Toml

/-- A whole number of so many bits. -/
def nat? (bits : Nat) : Toml → Option Nat
  | .integer n => if 0 ≤ n ∧ n < Nat.pow 2 bits then some n.toNat else none
  | _ => none

/-- A number as a float.  Whole numbers have to fit into 64 bits, with a sign or without. -/
def number? : Toml → Option Float
  | .float x => some x
  | .integer n =>
    if -Nat.pow 2 63 ≤ n ∧ n < Nat.pow 2 64 then some (Binary64.ofDecimal (n < 0) n.natAbs 0) else none
  | _ => none

/-- The field of that name as `read` takes it, or else the usual value. -/
def Fields.getOr? {α : Type} (fields : Fields) (name : String) (usual : α)
    (read : Toml → Option α) : Option α :=
  match fields.lookup name with
  | some value => read value
  | none => some usual

/-- The plan that the fields describe. -/
def Fields.trialPlan? (fields : Fields) : Option TrialPlan := do
  let usual : TrialPlan := {}
  return {
    iterations := ← fields.getOr? "iterations" usual.iterations fun v =>
      (v.nat? 32).map UInt32.ofNat
    durationSeconds := ← fields.getOr? "duration_secs" usual.durationSeconds number?
    globalCooldownSeconds :=
      ← fields.getOr? "global_cooldown_secs" usual.globalCooldownSeconds number?
    runeCooldownSeconds := ← fields.getOr? "rune_cooldown_secs" usual.runeCooldownSeconds number?
    seed := ← fields.getOr? "seed" usual.seed fun v => (v.nat? 64).map UInt64.ofNat
    threads := ← fields.getOr? "threads" usual.threads fun v =>
      (v.nat? 64).map fun n => some (UInt64.ofNat n) }

end Toml

/-- Reads a plan from a settings document. -/
def TrialPlan.ofToml? (document : String) : Option TrialPlan :=
  (Toml.read? document).bind Toml.Fields.trialPlan?

end ActionPriority
