import ActionPriority.Binary64.Shortest
import ActionPriority.Encounter.Basic

/-! # Scenarios

    A scenario describes who fights whom: one player with its spells and perhaps a rune
    bar, and the targets.  Times are in seconds.  `Scenario.build` sets up the encounter,
    or names the first thing in the description that makes no sense: the targets come
    first, then the rune bar, then the spells.
-/

namespace ActionPriority

/-! ### Descriptions -/

/-- The periodic effect of a spell. -/
structure PeriodicSpec where
  tickDamage : Float
  periodSeconds : Float
  ticks : UInt32
  hasted : Bool := false

/-- A spell of the player. -/
structure SpellSpec where
  id : SpellId
  label : String
  cooldownSeconds : Float := 0.0
  cost : RuneCost := {}
  directDamage : Float := 0.0
  onGlobalCooldown : Bool := true
  periodic : Option PeriodicSpec := none

/-- The rune bar of the player. -/
structure RuneBarSpec where
  /-- How long slots take to come back, if not as long as the settings say. -/
  cooldownSeconds : Option Float := none
  regen : Option Float := none
  /-- The slots that start with a Death rune, counted from one. -/
  deathSlots : List UInt8 := []

/-- The player. -/
structure PlayerSpec where
  label : String
  stats : Stats := {}
  runes : Option RuneBarSpec := none
  spells : List SpellSpec := []

/-- A target. -/
structure TargetSpec where
  label : String
  stats : Stats := {}

/-- A player and its targets. -/
structure Scenario where
  player : PlayerSpec
  targets : List TargetSpec

/-! ### Errors -/

/-- What can be wrong with a description. -/
inductive SetupError where
  /-- The seconds of a field are no length of time. -/
  | seconds (field : String) (value : Float) (cause : SecondsError)
  /-- There is no slot of that number. -/
  | deathSlot (slot : UInt8)
  /-- There is no room for a target. -/
  | noRoom (target : String) (cause : RosterFull)

/-- The wording of an error. -/
def SetupError.message : SetupError → String
  | .seconds field value cause =>
    "Invalid duration for " ++ field ++ ": " ++ Binary64.plain value ++ " (" ++ cause.message ++ ")"
  | .deathSlot slot => "Invalid death rune slot " ++ toString slot.toNat ++ " (slots are 1-6)"
  | .noRoom target cause => "Cannot add target " ++ target ++ ": " ++ cause.message

/-- The time of a field given in seconds. -/
def fieldTime (field : String) (value : Float) : Except SetupError Time :=
  (Time.ofSeconds value).mapError (.seconds field value)

/-! ### Building -/

/-- The periodic effect of its description. -/
def PeriodicSpec.toPeriodic (p : PeriodicSpec) : Except SetupError Periodic := do
  let period ← fieldTime "tick_period_secs" p.periodSeconds
  return { tickDamage := p.tickDamage, period, ticks := p.ticks.toNat, hasted := p.hasted }

/-- The spell of its description. -/
def SpellSpec.toSpell (s : SpellSpec) : Except SetupError Spell := do
  let cooldown ← fieldTime "cooldown_secs" s.cooldownSeconds
  let periodic ← s.periodic.mapM PeriodicSpec.toPeriodic
  return { s with cooldown, periodic }

/-- The bar with a Death rune in each of the slots, which are counted from one. -/
def withDeathSlots (bar : RuneBar) : List UInt8 → Except SetupError RuneBar
  | [] => .ok bar
  | slot :: rest =>
    match if slot = 0 then none else bar.convert? (slot.toNat - 1) with
    | some bar => withDeathSlots bar rest
    | none => .error (.deathSlot slot)

/-- The rune bar of its description. -/
def RuneBarSpec.toBar (r : RuneBarSpec) (cooldown : Time) : Except SetupError RuneBar := do
  let cooldown ← match r.cooldownSeconds with
    | some seconds => fieldTime "rune_cd_secs" seconds
    | none => pure cooldown
  let bar := RuneBar.new cooldown
  let bar := match r.regen with
    | some multiplier => bar.withRegen multiplier
    | none => bar
  withDeathSlots bar r.deathSlots

namespace Scenario

/-- The encounter after the targets have joined. -/
def addTargets (e : Encounter) : List TargetSpec → Except SetupError Encounter
  | [] => .ok e
  | t :: rest =>
    match e.addTarget t.label t.stats with
    | .ok e => addTargets e rest
    | .error full => .error (.noRoom t.label full)

/-- Sets up the encounter of a scenario, and gives the identity of the player. -/
def build (s : Scenario) (settings : Settings) (seed : UInt64) :
    Except SetupError (Encounter × CombatantId) := do
  let e ← addTargets (Encounter.new settings seed) s.targets
  let player := e.nextId
  let e := e.addPlayer s.player.label s.player.stats
  let runes ← s.player.runes.mapM (·.toBar settings.runeCooldown)
  let spells ← s.player.spells.mapM SpellSpec.toSpell
  return (e.modify player fun c => spells.foldl Combatant.learn { c with runes }, player)

end Scenario

end ActionPriority
