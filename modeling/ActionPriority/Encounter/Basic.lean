import ActionPriority.Combatant

/-! # Encounters

    The state of one trial: the clock, the combatants in the order in which they joined,
    the roster of targets, the damage done so far, and the dice.

    This module has what can be read from a state and how it is set up and steered from
    outside.  Casting is in `ActionPriority.Encounter.Casting`, and the clock in
    `ActionPriority.Encounter.Clock`.
-/

namespace ActionPriority

/-! ### State -/

/-- The lengths of time that a trial is run with. -/
structure Settings where
  /-- The length of the encounter. -/
  duration : Time := Time.ofWholeSeconds 180
  /-- The global cooldown that spells start. -/
  globalCooldown : Time := Time.ofMillis 1500
  /-- The cooldown of rune slots, unless a bar has its own. -/
  runeCooldown : Time := Time.ofWholeSeconds 10
  deriving DecidableEq, Repr

/-- The state of an encounter. -/
structure Encounter where
  settings : Settings
  /-- The present instant. -/
  clock : Time
  /-- Everyone who has joined; the identity of a combatant is its place here. -/
  combatants : List Combatant
  /-- The targets in the order of joining, present or not. -/
  roster : List CombatantId
  /-- The damage of every hit so far. -/
  damage : Float
  /-- The number of successful casts, which starts over after the last number of 32 bits. -/
  casts : UInt32
  dice : Dice

/-- The roster has no room for another target. -/
structure RosterFull where
  room : Nat
  deriving DecidableEq, Repr

/-- The wording of a refusal to add a target. -/
def RosterFull.message (r : RosterFull) : String := s!"encounter roster is full ({r.room} targets)"

namespace Encounter

/-- The most targets that an encounter can have. -/
def maxTargets : Nat := 32

/-- An encounter before anyone has joined. -/
def new (settings : Settings) (seed : UInt64) : Encounter where
  settings
  clock := Time.zero
  combatants := []
  roster := []
  damage := 0.0
  casts := 0
  dice := Dice.ofSeed seed

/-! ### Queries -/

/-- The instant at which the encounter is over. -/
def endTime (e : Encounter) : Time := Time.zero + e.settings.duration

/-- The time left until then. -/
def remaining (e : Encounter) : Time := e.clock.till e.endTime

/-- Is the encounter over? -/
def isFinished (e : Encounter) : Bool := e.endTime ≤ e.clock

/-- The combatant of that identity. -/
def combatant? (e : Encounter) (id : CombatantId) : Option Combatant := e.combatants[id.index]?

/-- The combatants of the roster. -/
def targets (e : Encounter) : List Combatant := e.roster.filterMap e.combatant?

/-- The number of targets that are present. -/
def enabledTargets (e : Encounter) : Nat := e.targets.countP (·.enabled)

/-- The effect of a caster's spell on a target, if it was ever applied. -/
def effect? (e : Encounter) (caster : CombatantId) (spell : SpellId) (target : CombatantId) :
    Option Effect :=
  (e.combatant? caster).bind (·.effect? spell target)

/-! ### Changes from outside -/

/-- The encounter with one combatant changed by `f`. -/
def modify (e : Encounter) (id : CombatantId) (f : Combatant → Combatant) : Encounter :=
  { e with combatants := e.combatants.modify id.index f }

/-- The identity of whoever joins next. -/
def nextId (e : Encounter) : CombatantId := ⟨e.combatants.length⟩

/-- A player joins, aiming at the first target if there is one. -/
def addPlayer (e : Encounter) (label : String) (stats : Stats) : Encounter :=
  { e with
    combatants := e.combatants ++
      [{ id := e.nextId, label, role := .player, stats, aim := e.roster.head? }] }

/-- A combatant that takes aim at `id` if it is a player without an aim. -/
def takeAim (id : CombatantId) (c : Combatant) : Combatant :=
  if c.role = .player ∧ c.aim = none then { c with aim := some id } else c

/-- A target joins, as the last of the roster.  Players without an aim aim at it. -/
def addTarget (e : Encounter) (label : String) (stats : Stats) : Except RosterFull Encounter :=
  if e.roster.length < maxTargets then
    let joined : Combatant := { id := e.nextId, label, role := .target e.roster.length, stats }
    .ok
      { e with
        combatants := (e.combatants ++ [joined]).map (takeAim e.nextId)
        roster := e.roster ++ [e.nextId] }
  else .error ⟨maxTargets⟩

/-- A target enters or leaves the fight; `none` if `id` is no target.  When it leaves,
    every effect on it stops. -/
def setEnabled? (e : Encounter) (id : CombatantId) (enabled : Bool) : Option Encounter := do
  let c ← e.combatant? id
  let _ ← c.place?
  let e := e.modify id fun c => { c with enabled }
  return if enabled then e else { e with combatants := e.combatants.map (·.endEffectsOn id) }

/-- A combatant aims at another, or at nobody; `none` if there is no such combatant. -/
def setAim? (e : Encounter) (id : CombatantId) (aim : Option CombatantId) : Option Encounter :=
  if (e.combatant? id).isSome then some (e.modify id fun c => { c with aim }) else none

end Encounter

end ActionPriority
