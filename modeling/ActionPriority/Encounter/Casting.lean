import ActionPriority.Encounter.Basic

/-! # Casting

    Casting a spell is asked for by a caster, a spell and a target.

    * `Encounter.checkCast` decides whether the cast would succeed now, and if not names
      the first obstacle: who and what is involved, then the target, the cooldowns, and
      last the runes.
    * `Encounter.cast` does it.  A cast that fails changes nothing.

    Casting never moves the clock; the hit of the spell itself is rolled at once.
-/

namespace ActionPriority

/-! ### Severity of errors -/

/-- How an error can be dealt with. -/
inductive Severity where
  /-- The same request may succeed later. -/
  | recoverable
  /-- The same request will not succeed until somebody changes what it is about. -/
  | validation
  /-- The state contradicts itself. -/
  | internal
  deriving DecidableEq, Repr

/-- The name of a severity. -/
def Severity.name : Severity → String
  | .recoverable => "recoverable"
  | .validation => "validation"
  | .internal => "internal"

namespace RuneShortage

/-- Runes come back. -/
def severity (_ : RuneShortage) : Severity := .recoverable

/-- The code of a shortage. -/
def code (_ : RuneShortage) : String := "RUNE_INSUFFICIENT"

end RuneShortage

/-! ### Obstacles -/

/-- Why a cast fails. -/
inductive CastError where
  | unknownCombatant (id : CombatantId)
  | unknownSpell (caster : CombatantId) (spell : SpellId)
  | noTarget
  | invalidTarget (target : CombatantId)
  | onCooldown (spell : SpellId) (remaining : Time)
  | globalCooldown (remaining : Time)
  | noRuneBar (caster : CombatantId) (spell : SpellId)
  | shortage (runes : RuneShortage)
  deriving DecidableEq

namespace CastError

/-- The severity of an obstacle: waiting helps against cooldowns, targets and runes. -/
def severity : CastError → Severity
  | .unknownCombatant _ => .validation
  | .unknownSpell _ _ => .validation
  | .noRuneBar _ _ => .validation
  | .noTarget => .recoverable
  | .invalidTarget _ => .recoverable
  | .onCooldown _ _ => .recoverable
  | .globalCooldown _ => .recoverable
  | .shortage runes => runes.severity

/-- The code of an obstacle. -/
def code : CastError → String
  | .unknownCombatant _ => "CAST_UNKNOWN_UNIT"
  | .unknownSpell _ _ => "CAST_UNKNOWN_SPELL"
  | .noTarget => "CAST_NO_TARGET"
  | .invalidTarget _ => "CAST_INVALID_TARGET"
  | .onCooldown _ _ => "CAST_ON_COOLDOWN"
  | .globalCooldown _ => "CAST_GLOBAL_COOLDOWN"
  | .noRuneBar _ _ => "CAST_NO_RUNE_BAR"
  | .shortage runes => runes.code

/-- The wording of an obstacle. -/
def message : CastError → String
  | .unknownCombatant id => "unit " ++ id.text ++ " does not exist"
  | .unknownSpell caster spell => caster.text ++ " does not know spell " ++ spell.text
  | .noTarget => "no target selected"
  | .invalidTarget target => "target " ++ target.text ++ " is not an enabled encounter target"
  | .onCooldown spell remaining =>
    spell.text ++ " is on cooldown for another " ++ remaining.exact
  | .globalCooldown remaining => "global cooldown active for another " ++ remaining.exact
  | .noRuneBar caster spell => caster.text ++ " has no rune bar but " ++ spell.text ++ " costs runes"
  | .shortage runes => runes.message

end CastError

namespace Encounter

/-! ### Checking a cast -/

/-- The combatant of that identity, or the obstacle that there is none. -/
def find (e : Encounter) (id : CombatantId) : Except CastError Combatant :=
  match e.combatant? id with
  | some c => .ok c
  | none => .error (.unknownCombatant id)

/-- The spell that a combatant knows by that identity, or the obstacle that it knows none. -/
def findSpell (c : Combatant) (caster : CombatantId) (spell : SpellId) : Except CastError Spell :=
  match c.spell? spell with
  | some definition => .ok definition
  | none => .error (.unknownSpell caster spell)

/-- Are the runes for the spell there? -/
def checkRunes (e : Encounter) (c : Combatant) (caster : CombatantId) (definition : Spell) :
    Except CastError Unit :=
  if definition.cost.isFree then .ok ()
  else
    match c.runes with
    | none => .error (.noRuneBar caster definition.id)
    | some bar => (bar.afford definition.cost e.clock).mapError .shortage

/-- Could `caster` cast `spell` on `target` now? -/
def checkCast (e : Encounter) (caster : CombatantId) (spell : SpellId) (target : CombatantId) :
    Except CastError Unit := do
  let c ← e.find caster
  let definition ← findSpell c caster spell
  let aimed ← e.find target
  if !aimed.isTargetable then
    throw (.invalidTarget target)
  if e.clock < c.cooldownReadyAt spell then
    throw (.onCooldown spell (e.clock.till (c.cooldownReadyAt spell)))
  if definition.onGlobalCooldown && e.clock < c.globalReadyAt then
    throw (.globalCooldown (e.clock.till c.globalReadyAt))
  e.checkRunes c caster definition

/-! ### Casting -/

/-- The caster after a cast: the runes spent, the cooldowns started, and the effect of
    the spell applied with a fresh snapshot. -/
def afterCast (e : Encounter) (c : Combatant) (definition : Spell) (runes : Option RuneBar)
    (target : CombatantId) (targetStats : Stats) : Combatant :=
  { c with
    runes
    cooldowns :=
      if definition.cooldown = Time.zero then c.cooldowns
      else c.cooldowns.insert definition.id (e.clock + definition.cooldown)
    globalReadyAt :=
      if definition.onGlobalCooldown then e.clock + e.settings.globalCooldown else c.globalReadyAt
    effects :=
      match definition.periodic with
      | none => c.effects
      | some p =>
        c.effects.insert ⟨definition.id, target⟩
          (.applied e.clock p.ticks (Snapshot.take p c.stats targetStats)) }

/-- The damage and the dice after the hit of the spell itself.  Only a hit for more than
    nothing is rolled. -/
def afterHit (e : Encounter) (amount critChance : Float) : Encounter :=
  if amount > 0.0 then
    let (hit, dice) := Damage.roll e.dice amount critChance
    { e with damage := e.damage + hit, dice }
  else e

/-- The rune bar after paying for a spell; whoever has none pays nothing. -/
def payRunes (e : Encounter) (c : Combatant) (definition : Spell) :
    Except CastError (Option RuneBar) :=
  match c.runes with
  | none => .ok none
  | some bar =>
    match bar.spend definition.cost e.clock with
    | .ok bar => .ok (some bar)
    | .error shortage => .error (.shortage shortage)

/-- The encounter after a spell has been paid for: its caster is changed, its hit rolled,
    and the cast counted. -/
def land (e : Encounter) (c : Combatant) (definition : Spell) (runes : Option RuneBar)
    (caster target : CombatantId) (targetStats : Stats) : Encounter :=
  let begun := e.modify caster fun c => e.afterCast c definition runes target targetStats
  let amount := Damage.modified definition.directDamage c.stats targetStats
  let hit := begun.afterHit amount c.stats.critChance
  { hit with casts := hit.casts + 1 }

/-- `caster` casts `spell` on `target`. -/
def cast (e : Encounter) (caster : CombatantId) (spell : SpellId) (target : CombatantId) :
    Except CastError Encounter := do
  e.checkCast caster spell target
  let aimed ← e.find target
  let c ← e.find caster
  let definition ← findSpell c caster spell
  let runes ← e.payRunes c definition
  return e.land c definition runes caster target aimed.stats

/-! ### What a cast leaves alone -/

theorem afterHit_clock (e : Encounter) (amount critChance : Float) :
    (e.afterHit amount critChance).clock = e.clock := by
  unfold afterHit
  split <;> rfl

theorem afterHit_settings (e : Encounter) (amount critChance : Float) :
    (e.afterHit amount critChance).settings = e.settings := by
  unfold afterHit
  split <;> rfl

/-- What a cast that succeeds has found. -/
theorem cast_eq_ok {e after : Encounter} {caster target : CombatantId} {spell : SpellId}
    (h : e.cast caster spell target = .ok after) :
    ∃ aimed c definition runes, e.find target = .ok aimed ∧ e.find caster = .ok c ∧
      findSpell c caster spell = .ok definition ∧ e.payRunes c definition = .ok runes ∧
      after = e.land c definition runes caster target aimed.stats := by
  simp only [cast, bind, Except.bind] at h
  split at h
  · cases h
  split at h
  · cases h
  rename_i aimed haimed
  split at h
  · cases h
  rename_i c hc
  split at h
  · cases h
  rename_i definition hdefinition
  split at h
  · cases h
  rename_i runes hrunes
  cases h
  exact ⟨aimed, c, definition, runes, haimed, hc, hdefinition, hrunes, rfl⟩

/-- Casting takes no time. -/
theorem cast_clock {e after : Encounter} {caster target : CombatantId} {spell : SpellId}
    (h : e.cast caster spell target = .ok after) : after.clock = e.clock := by
  obtain ⟨aimed, c, definition, runes, _, _, _, _, rfl⟩ := cast_eq_ok h
  exact afterHit_clock ..

theorem cast_settings {e after : Encounter} {caster target : CombatantId} {spell : SpellId}
    (h : e.cast caster spell target = .ok after) : after.settings = e.settings := by
  obtain ⟨aimed, c, definition, runes, _, _, _, _, rfl⟩ := cast_eq_ok h
  exact afterHit_settings ..

end Encounter

end ActionPriority
