import ActionPriority.Dice.Basic
import ActionPriority.Spell

/-! # Damage

    What a hit is worth.  A base amount is modified by the caster and by the target; a
    critical hit counts twice.  The expected damage depends on statistics alone, and a
    rolled hit on one draw of the dice besides.  Sums and products are taken in the
    order in which they are written here.
-/

namespace ActionPriority

/-- The combat modifiers of a combatant. -/
structure Stats where
  /-- What the damage it deals is multiplied with. -/
  damageMultiplier : Float := 1.0
  /-- What the damage it takes is multiplied with. -/
  damageTakenMultiplier : Float := 1.0
  /-- The chance of a critical hit. -/
  critChance : Float := 0.0
  /-- The present haste. -/
  haste : Float := 1.0
  /-- The haste at the start of a trial. -/
  initialHaste : Float := 1.0
  deriving DecidableEq

namespace Stats

/-- The names of the statistics. -/
def names : List String :=
  ["damage_multiplier", "damage_taken_multiplier", "spell_crit_chance", "haste", "initial_haste"]

/-- The statistics with the one of that name set. -/
def set? (s : Stats) (name : String) (x : Float) : Option Stats :=
  match name with
  | "damage_multiplier" => some { s with damageMultiplier := x }
  | "damage_taken_multiplier" => some { s with damageTakenMultiplier := x }
  | "spell_crit_chance" => some { s with critChance := x }
  | "haste" => some { s with haste := x }
  | "initial_haste" => some { s with initialHaste := x }
  | _ => none

/-- The statistics in the order of their names. -/
def toList (s : Stats) : List Float :=
  [s.damageMultiplier, s.damageTakenMultiplier, s.critChance, s.haste, s.initialHaste]

end Stats

namespace Damage

/-- What a critical hit is multiplied with. -/
def critMultiplier : Float := 2.0

/-- A base amount after the modifiers of the caster and of the target. -/
def modified (base : Float) (caster target : Stats) : Float :=
  base * caster.damageMultiplier * target.damageTakenMultiplier

/-- `x` moved into the range from zero to one; what is not a number stays so. -/
def clampChance (x : Float) : Float :=
  let x := if x < 0.0 then 0.0 else x
  if x > 1.0 then 1.0 else x

/-- The average of a hit over its chance to be critical. -/
def expected (amount critChance : Float) : Float :=
  amount * (1.0 + clampChance critChance * (critMultiplier - 1.0))

/-- The average of a tick if the effect were applied now. -/
def expectedTick (p : Periodic) (caster target : Stats) : Float :=
  expected (modified p.tickDamage caster target) caster.critChance

/-- The period of an effect at the caster's present haste. -/
def tickPeriod (p : Periodic) (caster : Stats) : Time :=
  if p.hasted && caster.haste > 0.0 then p.period.divide caster.haste else p.period

/-- One hit: critical if the draw falls below the chance. -/
def roll (dice : Dice) (amount critChance : Float) : Float × Dice :=
  let (drawn, dice) := dice.draw
  (if drawn < critChance then amount * critMultiplier else amount, dice)

/-- Every hit takes exactly one draw. -/
@[simp] theorem roll_dice (dice : Dice) (amount critChance : Float) :
    (roll dice amount critChance).2 = dice.draw.2 := rfl

end Damage

end ActionPriority
