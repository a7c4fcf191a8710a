import ActionPriority.Effect
import ActionPriority.Runes.Spending
import ActionPriority.Table
import ActionPriority.Tally

/-! # Combatants

    The players and the targets of an encounter.  A combatant has its statistics, the
    spells it knows with their cooldowns, a rune bar if it uses runes, the combatant it
    aims at, and the periodic effects that it has applied.
-/

namespace ActionPriority

/-- The identity of a combatant in one encounter: its place in the order of joining. -/
structure CombatantId where
  index : Nat
  deriving DecidableEq, Repr

namespace CombatantId

/-- Combatants are ordered by their joining. -/
instance : Ord CombatantId := ⟨compareOn CombatantId.index⟩

instance : Std.TransOrd CombatantId := inferInstanceAs (Std.TransCmp (compareOn CombatantId.index))

instance : Std.LawfulEqOrd CombatantId where
  eq_of_compare {a b} h := by
    have hc : compare a.index b.index = .eq := h
    have hi : a.index = b.index := Std.LawfulEqCmp.compare_eq_iff_eq.mp hc
    cases a
    cases b
    simp_all

/-- The text of a combatant's identity. -/
def text (c : CombatantId) : String := "#" ++ toString c.index

end CombatantId

/-- What a periodic effect is known by among those of its caster. -/
structure EffectKey where
  spell : SpellId
  target : CombatantId
  deriving DecidableEq, Repr

namespace EffectKey

/-- Effects are ordered by spell, and those of one spell by target. -/
instance : Ord EffectKey := ⟨compareLex (compareOn EffectKey.spell) (compareOn EffectKey.target)⟩

instance : Std.TransOrd EffectKey :=
  inferInstanceAs
    (Std.TransCmp (compareLex (compareOn EffectKey.spell) (compareOn EffectKey.target)))

instance : Std.LawfulEqOrd EffectKey where
  eq_of_compare {a b} h := by
    have hlex : compareLex (compareOn EffectKey.spell) (compareOn EffectKey.target) a b = .eq := h
    obtain ⟨hs, ht⟩ := compareLex_eq_eq.mp hlex
    have hs : compare a.spell b.spell = .eq := hs
    have ht : compare a.target b.target = .eq := ht
    have hs : a.spell = b.spell := Std.LawfulEqCmp.compare_eq_iff_eq.mp hs
    have ht : a.target = b.target := Std.LawfulEqCmp.compare_eq_iff_eq.mp ht
    cases a
    cases b
    simp_all

end EffectKey

/-- Whether a combatant is a player or a target, and which of the targets. -/
inductive Role where
  | player
  | target (place : Nat)
  deriving DecidableEq, Repr

/-- A participant of an encounter. -/
structure Combatant where
  id : CombatantId
  label : String
  role : Role
  stats : Stats := {}
  /-- Is it present?  Only targets ever leave. -/
  enabled : Bool := true
  runes : Option RuneBar := none
  /-- The spells it knows, each once, in the order of learning. -/
  spells : List Spell := []
  /-- When the spells cast so far are ready again. -/
  cooldowns : Table SpellId Time := Table.empty
  /-- When the global cooldown is over. -/
  globalReadyAt : Time := Time.zero
  /-- The combatant that it aims at. -/
  aim : Option CombatantId := none
  /-- The effects that it has applied, running or not. -/
  effects : Table EffectKey Effect := Table.empty

namespace Combatant

/-- Its place among the targets. -/
def place? (c : Combatant) : Option Nat :=
  match c.role with
  | .player => none
  | .target place => some place

/-- Can spells be cast on it? -/
def isTargetable (c : Combatant) : Bool := c.place?.isSome && c.enabled

/-- The spell of that identity, if it knows one. -/
def spell? (c : Combatant) (id : SpellId) : Option Spell := c.spells.find? (·.id = id)

theorem spell?_id {c : Combatant} {id : SpellId} {spell : Spell} (h : c.spell? id = some spell) :
    spell.id = id := by
  simpa using List.find?_some h

/-- The combatant after learning a spell.  It replaces the spell it knew by that identity,
    and comes last. -/
def learn (c : Combatant) (spell : Spell) : Combatant :=
  { c with spells := c.spells.filter (·.id ≠ spell.id) ++ [spell] }

/-- When a spell is off cooldown; the start of the trial if it was never put on cooldown. -/
def cooldownReadyAt (c : Combatant) (id : SpellId) : Time := (c.cooldowns.find? id).getD Time.zero

/-- Its effect of a spell on a target, if it was ever applied. -/
def effect? (c : Combatant) (spell : SpellId) (target : CombatantId) : Option Effect :=
  c.effects.find? ⟨spell, target⟩

/-- The combatant with its effect under `key` changed by `f`. -/
def adjustEffect (c : Combatant) (key : EffectKey) (f : Effect → Effect) : Combatant :=
  { c with effects := c.effects.mapValues fun k e => if k = key then f e else e }

/-- The combatant with all its effects on a target stopped. -/
def endEffectsOn (c : Combatant) (target : CombatantId) : Combatant :=
  { c with effects := c.effects.mapValues fun k e => if k.target = target then e.ended else e }

/-- The number of ticks that its effects have before them. -/
def ticksLeft (c : Combatant) : Nat := tally Effect.ticksLeft c.effects.values

end Combatant

end ActionPriority
