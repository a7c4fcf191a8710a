import ActionPriority.Json.PriorityList
import ActionPriority.Scenario.TrialPlan

/-! # Scenarios and Trial Plans in JSON

    The fields of a scenario and of a trial plan go by the names below.
-/

namespace ActionPriority

namespace Json

/-! ### Reading -/

/-- Statistics, each of which may be left out. -/
def stats? (j : Json) : Option Stats := do
  let parts ← parts? Stats.names j
  Stats.names.foldlM (fun s name =>
    match parts.get? name with
    | none => some s
    | some value => value.float?.bind (s.set? name)) {}

/-- A rune cost. -/
def runeCost? (j : Json) : Option RuneCost := do
  let parts ← parts? ["blood", "frost", "unholy"] j
  return {
    blood := ← partOr? parts "blood" 0 uint8?
    frost := ← partOr? parts "frost" 0 uint8?
    unholy := ← partOr? parts "unholy" 0 uint8? }

/-- The periodic effect of a spell. -/
def periodic? (j : Json) : Option PeriodicSpec := do
  let parts ← parts?
    ["base_tick_damage", "tick_period_secs", "num_ticks", "affected_by_haste"] j
  return {
    tickDamage := ← part? parts "base_tick_damage" float?
    periodSeconds := ← part? parts "tick_period_secs" float?
    ticks := UInt32.ofNat (← part? parts "num_ticks" (nat? 32))
    hasted := ← partOr? parts "affected_by_haste" false bool? }

/-- A spell. -/
def spell? (j : Json) : Option SpellSpec := do
  let parts ← parts?
    ["id", "label", "cooldown_secs", "rune_cost", "direct_damage", "triggers_gcd", "dot"] j
  return {
    id := ← part? parts "id" spellId?
    label := ← part? parts "label" text?
    cooldownSeconds := ← partOr? parts "cooldown_secs" 0.0 float?
    cost := ← partOr? parts "rune_cost" {} runeCost?
    directDamage := ← partOr? parts "direct_damage" 0.0 float?
    onGlobalCooldown := ← partOr? parts "triggers_gcd" true bool?
    periodic := ← partOr? parts "dot" none (option? periodic?) }

/-- A rune bar. -/
def runeBar? (j : Json) : Option RuneBarSpec := do
  let parts ← parts? ["rune_cd_secs", "regen_multiplier", "death_slots"] j
  return {
    cooldownSeconds := ← partOr? parts "rune_cd_secs" none (option? float?)
    regen := ← partOr? parts "regen_multiplier" none (option? float?)
    deathSlots := ← partOr? parts "death_slots" [] (list? uint8?) }

/-- A player. -/
def player? (j : Json) : Option PlayerSpec := do
  let parts ← parts? ["label", "stats", "runes", "spells"] j
  return {
    label := ← part? parts "label" text?
    stats := ← partOr? parts "stats" {} stats?
    runes := ← partOr? parts "runes" none (option? runeBar?)
    spells := ← partOr? parts "spells" [] (list? spell?) }

/-- A target. -/
def target? (j : Json) : Option TargetSpec := do
  let parts ← parts? ["label", "stats"] j
  return { label := ← part? parts "label" text?, stats := ← partOr? parts "stats" {} stats? }

/-- A scenario. -/
def scenario? (j : Json) : Option Scenario := do
  let parts ← parts? ["player", "targets"] j
  return {
    player := ← part? parts "player" player?
    targets := ← part? parts "targets" (list? target?) }

/-- A trial plan. -/
def trialPlan? (j : Json) : Option TrialPlan := do
  let parts ← parts?
    ["iterations", "duration_secs", "global_cooldown_secs", "rune_cooldown_secs", "seed",
      "threads"] j
  let usual : TrialPlan := {}
  return {
    iterations := ← partOr? parts "iterations" usual.iterations fun j =>
      (j.nat? 32).map UInt32.ofNat
    durationSeconds := ← partOr? parts "duration_secs" usual.durationSeconds float?
    globalCooldownSeconds :=
      ← partOr? parts "global_cooldown_secs" usual.globalCooldownSeconds float?
    runeCooldownSeconds := ← partOr? parts "rune_cooldown_secs" usual.runeCooldownSeconds float?
    seed := ← partOr? parts "seed" usual.seed fun j => (j.nat? 64).map UInt64.ofNat
    threads := ← partOr? parts "threads" usual.threads
      (option? fun j => (j.nat? 64).map UInt64.ofNat) }

/-! ### Writing -/

/-- The document of statistics. -/
def ofStats (float : Float → Json) (s : Stats) : Json :=
  .object (Stats.names.zip (s.toList.map float))

/-- The document of a rune cost. -/
def ofRuneCost (cost : RuneCost) : Json :=
  .object
    [("blood", ofNat cost.blood.toNat), ("frost", ofNat cost.frost.toNat),
      ("unholy", ofNat cost.unholy.toNat)]

/-- The document of a periodic effect. -/
def ofPeriodic (float : Float → Json) (p : PeriodicSpec) : Json :=
  .object
    [("base_tick_damage", float p.tickDamage), ("tick_period_secs", float p.periodSeconds),
      ("num_ticks", ofNat p.ticks.toNat), ("affected_by_haste", .bool p.hasted)]

/-- The document of a spell. -/
def ofSpell (float : Float → Json) (s : SpellSpec) : Json :=
  .object
    [("id", ofSpellId s.id), ("label", .string s.label), ("cooldown_secs", float s.cooldownSeconds),
      ("rune_cost", ofRuneCost s.cost), ("direct_damage", float s.directDamage),
      ("triggers_gcd", .bool s.onGlobalCooldown), ("dot", ofOption (ofPeriodic float) s.periodic)]

/-- The document of a rune bar. -/
def ofRuneBar (float : Float → Json) (r : RuneBarSpec) : Json :=
  .object
    [("rune_cd_secs", ofOption float r.cooldownSeconds),
      ("regen_multiplier", ofOption float r.regen),
      ("death_slots", .array (r.deathSlots.map fun slot => ofNat slot.toNat))]

/-- The document of a player. -/
def ofPlayer (float : Float → Json) (p : PlayerSpec) : Json :=
  .object
    [("label", .string p.label), ("stats", ofStats float p.stats),
      ("runes", ofOption (ofRuneBar float) p.runes),
      ("spells", .array (p.spells.map (ofSpell float)))]

/-- The document of a target. -/
def ofTarget (float : Float → Json) (t : TargetSpec) : Json :=
  .object [("label", .string t.label), ("stats", ofStats float t.stats)]

/-- The document of a scenario. -/
def ofScenario (float : Float → Json) (s : Scenario) : Json :=
  .object
    [("player", ofPlayer float s.player), ("targets", .array (s.targets.map (ofTarget float)))]

end Json

end ActionPriority
