import ActionPriority.Runes.Basic

/-! # Spells

    A spell is game content that a combatant knows.  Cast on a target it may cost runes,
    start a cooldown, hit at once, and apply a periodic effect.
-/

namespace ActionPriority

/-- The identity of a spell. -/
structure SpellId where
  number : Int32
  deriving DecidableEq, Repr

namespace SpellId

/-- Spells are ordered by their numbers. -/
instance : Ord SpellId := ⟨compareOn fun s => s.number.toInt⟩

instance : Std.TransOrd SpellId :=
  inferInstanceAs (Std.TransCmp (compareOn fun s : SpellId => s.number.toInt))

instance : Std.LawfulEqOrd SpellId where
  eq_of_compare {a b} h := by
    have hc : compare a.number.toInt b.number.toInt = .eq := h
    have hn : a.number.toInt = b.number.toInt := Std.LawfulEqCmp.compare_eq_iff_eq.mp hc
    cases a
    cases b
    simp_all [Int32.toInt_inj]

/-- The text of a spell's identity. -/
def text (s : SpellId) : String := "\x7bSpellID: " ++ toString s.number.toInt ++ "\x7d"

end SpellId

/-- The periodic effect that a spell applies. -/
structure Periodic where
  /-- The damage of one tick before modifiers. -/
  tickDamage : Float
  /-- The time between ticks before haste. -/
  period : Time
  /-- The ticks of one application. -/
  ticks : Nat
  /-- Does haste shorten the period? -/
  hasted : Bool

/-- What casting a spell does. -/
structure Spell where
  id : SpellId
  label : String
  cooldown : Time := Time.zero
  cost : RuneCost := {}
  /-- The damage of the hit itself, before modifiers. -/
  directDamage : Float := 0.0
  /-- Does casting it start the global cooldown, and wait for it? -/
  onGlobalCooldown : Bool := true
  periodic : Option Periodic := none

end ActionPriority
