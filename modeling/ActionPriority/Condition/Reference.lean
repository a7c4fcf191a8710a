import ActionPriority.Condition.Expr
import ActionPriority.Encounter.Basic

/-! # References

    A compiled condition names combatants and effects without holding on to them.  Each
    reference is looked up in the state at hand, every time it is asked.

    * A `Cell` is one combatant for good, or whomever a caster aims at just then.
    * An `EffectRef` is a caster's effect of one spell on a cell.
    * A `Spread` is a caster's effects of one spell on a fixed list of targets.
-/

namespace ActionPriority

/-! ### Combatants -/

/-- A place where a combatant can be found. -/
inductive Cell where
  | fixed (id : CombatantId)
  | aimOf (caster : CombatantId)
  deriving DecidableEq, Repr

namespace Cell

/-- The identity that the cell stands for now.  A fixed one counts only while there is such
    a combatant. -/
def resolve (cell : Cell) (e : Encounter) : Option CombatantId :=
  match cell with
  | .fixed id => (e.combatant? id).map Combatant.id
  | .aimOf caster => (e.combatant? caster).bind Combatant.aim

/-- The combatant that the cell stands for now. -/
def combatant? (cell : Cell) (e : Encounter) : Option Combatant :=
  (cell.resolve e).bind e.combatant?

/-- The text of a cell. -/
def text : Cell → String
  | .fixed id => "Unit " ++ id.text
  | .aimOf _ => "Current Target"

end Cell

/-! ### Effects -/

/-- A caster's effect of one spell, on one target. -/
structure EffectRef where
  caster : CombatantId
  spell : SpellId
  target : Cell
  deriving DecidableEq, Repr

namespace EffectRef

/-- The effect, if its target can be found and the spell was ever applied to it. -/
def effect? (r : EffectRef) (e : Encounter) : Option Effect :=
  (r.target.resolve e).bind (e.effect? r.caster r.spell)

/-- Is the effect ticking? -/
def isActive (r : EffectRef) (e : Encounter) : Bool := (r.effect? e).any Effect.isActive

/-- The time the effect has left: none if it was never applied. -/
def remaining (r : EffectRef) (e : Encounter) : Time :=
  ((r.effect? e).map (·.remaining e.clock)).getD Time.zero

/-- The time between two ticks of the effect as last applied. -/
def period (r : EffectRef) (e : Encounter) : Time :=
  ((r.effect? e).map (·.snapshot.period)).getD Time.zero

/-- Is the target present? -/
def isTargetEnabled (r : EffectRef) (e : Encounter) : Bool :=
  (r.target.combatant? e).any Combatant.enabled

end EffectRef

/-- A caster's effects of one spell, on each of several targets. -/
structure Spread where
  caster : CombatantId
  spell : SpellId
  targets : List CombatantId
  deriving DecidableEq, Repr

namespace Spread

/-- The effects one by one. -/
def refs (s : Spread) : List EffectRef := s.targets.map fun id => ⟨s.caster, s.spell, .fixed id⟩

/-- The effects on the targets that are present. -/
def enabledRefs (s : Spread) (e : Encounter) : List EffectRef :=
  s.refs.filter (·.isTargetEnabled e)

/-- Is the effect ticking on every target that is present? -/
def isActiveOnAll (s : Spread) (e : Encounter) : Bool :=
  (s.enabledRefs e).all (·.isActive e)

/-- The least time left among these effects: `best` if there are none, and nothing as soon as
    one is not ticking. -/
def leastRemaining (e : Encounter) : List EffectRef → Time → Time
  | [], best => best
  | r :: rest, best =>
    if r.isActive e then leastRemaining e rest (min best (r.remaining e)) else Time.zero

/-- The least time that the effect has left on a target that is present. -/
def lowestRemaining (s : Spread) (e : Encounter) : Time :=
  leastRemaining e (s.enabledRefs e) Time.never

end Spread

end ActionPriority
