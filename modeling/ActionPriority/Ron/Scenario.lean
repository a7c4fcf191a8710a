import ActionPriority.Ron.PriorityList
import ActionPriority.Scenario.TrialPlan

/-! # Scenarios in the Object Notation

    The fields of a scenario go by the names below.
-/

namespace ActionPriority

namespace Ron

/-- Statistics. -/
def stats? (e : Extensions) : Decoder Stats := fun depth r => do
  let r ← struct? e "UnitStats" Stats.names depth r
  Stats.names.foldlM (fun s name =>
    match r.fields.lookup name with
    | none => some s
    | some value => (floatValue? r.depth value).bind (s.set? name)) {}

/-- A rune cost. -/
def runeCost? (e : Extensions) : Decoder RuneCost := fun depth r => do
  let r ← struct? e "RuneCost" ["blood", "frost", "unholy"] depth r
  return {
    blood := ← r.fieldOr? "blood" 0 uint8?
    frost := ← r.fieldOr? "frost" 0 uint8?
    unholy := ← r.fieldOr? "unholy" 0 uint8? }

/-- The names of the fields of a periodic effect. -/
def periodicNames : List String :=
  ["base_tick_damage", "tick_period_secs", "num_ticks", "affected_by_haste"]

/-- The periodic effect of its fields. -/
def periodicOf? (r : Record) : Option PeriodicSpec := do
  return {
    tickDamage := ← r.field? "base_tick_damage" floatValue?
    periodSeconds := ← r.field? "tick_period_secs" floatValue?
    ticks := UInt32.ofNat (← r.field? "num_ticks" (nat? 32))
    hasted := ← r.fieldOr? "affected_by_haste" false bool? }

/-- A periodic effect. -/
def periodic? (e : Extensions) : Decoder PeriodicSpec := fun depth r =>
  (struct? e "DotSpec" periodicNames depth r).bind periodicOf?

/-- A spell. -/
def spell? (e : Extensions) : Decoder SpellSpec := fun depth r => do
  let r ← struct? e "SpellSpec"
    ["id", "label", "cooldown_secs", "rune_cost", "direct_damage", "triggers_gcd", "dot"] depth r
  return {
    id := ← r.field? "id" spellId?
    label := ← r.field? "label" text?
    cooldownSeconds := ← r.fieldOr? "cooldown_secs" 0.0 floatValue?
    cost := ← r.fieldOr? "rune_cost" {} (runeCost? e)
    directDamage := ← r.fieldOr? "direct_damage" 0.0 floatValue?
    onGlobalCooldown := ← r.fieldOr? "triggers_gcd" true bool?
    periodic := ← r.fieldOr? "dot" none
      (optionalStruct? e periodicNames (periodic? e) periodicOf?) }

/-- The names of the fields of a rune bar. -/
def runeBarNames : List String := ["rune_cd_secs", "regen_multiplier", "death_slots"]

/-- The rune bar of its fields. -/
def runeBarOf? (e : Extensions) (r : Record) : Option RuneBarSpec := do
  return {
    cooldownSeconds := ← r.fieldOr? "rune_cd_secs" none (option? e floatValue?)
    regen := ← r.fieldOr? "regen_multiplier" none (option? e floatValue?)
    deathSlots := ← r.fieldOr? "death_slots" [] (list? uint8?) }

/-- A rune bar. -/
def runeBar? (e : Extensions) : Decoder RuneBarSpec := fun depth r =>
  (struct? e "RuneBarSpec" runeBarNames depth r).bind (runeBarOf? e)

/-- A player. -/
def player? (e : Extensions) : Decoder PlayerSpec := fun depth r => do
  let r ← struct? e "UnitSpec" ["label", "stats", "runes", "spells"] depth r
  return {
    label := ← r.field? "label" text?
    stats := ← r.fieldOr? "stats" {} (stats? e)
    runes := ← r.fieldOr? "runes" none (optionalStruct? e runeBarNames (runeBar? e) (runeBarOf? e))
    spells := ← r.fieldOr? "spells" [] (list? (spell? e)) }

/-- A target. -/
def target? (e : Extensions) : Decoder TargetSpec := fun depth r => do
  let r ← struct? e "TargetSpec" ["label", "stats"] depth r
  return { label := ← r.field? "label" text?, stats := ← r.fieldOr? "stats" {} (stats? e) }

/-- A scenario. -/
def scenario? (e : Extensions) : Decoder Scenario := fun depth r => do
  let r ← struct? e "ScenarioConfig" ["player", "targets"] depth r
  return {
    player := ← r.field? "player" (player? e)
    targets := ← r.field? "targets" (list? (target? e)) }

end Ron

/-- Reads a scenario in the object notation. -/
def Scenario.ofRon? (text : String) : Option Scenario := do
  let (e, r) ← Ron.read? text
  Ron.scenario? e Ron.depthLimit r

end ActionPriority
