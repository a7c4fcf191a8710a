import ActionPriority.PriorityList.Basic
import ActionPriority.Ron.Decode
import ActionPriority.Ron.Reader

/-! # Priority Lists in the Object Notation

    The fields and the forms of conditions and actions go by the names below.
-/

namespace ActionPriority

namespace Ron

/-! ### Leaves -/

/-- The identity of a spell. -/
def spellId? : Decoder SpellId := fun depth r => (int32? depth r).map SpellId.mk

/-- A universally unique identifier. -/
def uuid? : Decoder Uuid := fun depth r => (text? depth r).bind Uuid.read?

/-- The reference that a name stands for. -/
def targetName? : String → Option TargetRef
  | "Caster" => some .caster
  | "CurrentTarget" => some .currentTarget
  | _ => none

/-- A reference to a combatant. -/
def targetRef? : Decoder TargetRef := fun depth r =>
  match choiceOf? depth r with
  | some ("Target", depth, place) => (nat? 64 depth place).map .place
  | _ => plainChoice? targetName? depth r

/-- A constant. -/
def literal? : Decoder Literal := fun depth r => do
  let (name, depth, value) ← choiceOf? depth r
  match name with
  | "Bool" => (bool? depth value).map .bool
  | "Int" => (int32? depth value).map .int
  | "Float" => (floatValue? depth value).map .float
  | "Duration" => (floatValue? depth value).map .seconds
  | _ => none

/-! ### Conditions -/

/-- The expression of a form that has no parts. -/
def plainExpr? (name : String) : Option Expr :=
  match Form.ofName? name with
  | some .currentTime => some .currentTime
  | some .remainingTime => some .remainingTime
  | some .targetCount => some .targetCount
  | _ => none

/-- The parts of a question about an effect on one target. -/
def effectParts? (e : Extensions) (depth : Nat) (fields : List (String × Ron)) :
    Option (SpellId × TargetRef) := do
  let r ← Record.of? e ["spell_id", "target"] depth fields
  return (← r.field? "spell_id" spellId?, ← r.fieldOr? "target" .currentTarget targetRef?)

/-- The only part of a question. -/
def onlyPart? {α : Type} (e : Extensions) (name : String) (value : Decoder α) (depth : Nat)
    (fields : List (String × Ron)) : Option α :=
  (Record.of? e [name] depth fields).bind (·.field? name value)

/-- A rune type. -/
def runeType? : Decoder RuneType := plainChoice? RuneType.ofName?

/-- The expression of a form with named parts, none of them an expression. -/
def leafExpr? (e : Extensions) (form : Form) (depth : Nat) (fields : List (String × Ron)) :
    Option Expr :=
  let effect := effectParts? e depth fields
  let spell := onlyPart? e "spell_id" spellId? depth fields
  let type := onlyPart? e "rune_type" runeType? depth fields
  let slot := onlyPart? e "rune_slot" uint8? depth fields
  match form with
  | .effectActive => effect.map fun (id, target) => .effectActive id target
  | .effectActiveOnAll => spell.map .effectActiveOnAll
  | .effectRemaining => effect.map fun (id, target) => .effectRemaining id target
  | .effectLowestRemaining => spell.map .effectLowestRemaining
  | .effectPeriod => effect.map fun (id, target) => .effectPeriod id target
  | .effectIncrease measure => effect.map fun (id, target) => .effectIncrease measure id target
  | .runeCount => type.map .runeCount
  | .naturalRuneCount => type.map .naturalRuneCount
  | .slotActive => slot.map .slotActive
  | .slotDeath => slot.map .slotDeath
  | .runeCooldown => type.map .runeCooldown
  | .nextRuneCooldown => type.map .nextRuneCooldown
  | .slotCooldown => slot.map .slotCooldown
  | .fullRuneCooldown => do
    let r ← Record.of? e ["use_base_value"] depth fields
    return .fullRuneCooldown (← r.fieldOr? "use_base_value" false bool?)
  | _ => none

/-- A condition. -/
def expr? (e : Extensions) : Nat → Ron → Option Expr
  | _ + 2, .word name => plainExpr? name.text
  | depth + 2, .tuple (.name name) [part] =>
    match Form.ofName? name.text, depth, part with
    | some .const, depth, part => (literal? depth part).map .const
    | some .not, depth, part => (expr? e depth part).map .not
    | some .all, depth + 2, .list items => (items.mapM fun x => expr? e depth x).map .all
    | some .any, depth + 2, .list items => (items.mapM fun x => expr? e depth x).map .any
    | some .all, 1, .list [] => some (.all [])
    | some .any, 1, .list [] => some (.any [])
    | _, _, _ => none
  | depth + 2, .tuple (.name name) [] => do leafExpr? e (← Form.ofName? name.text) (depth + 1) []
  | depth + 3, .record (.name name) fields => do
    match ← Form.ofName? name.text with
    | .compare =>
      let r ← Record.of? e ["op", "lhs", "rhs"] (depth + 2) fields
      let op ← r.field? "op" (plainChoice? Comparison.ofName?)
      let lhs ← (r.fields.lookup "lhs").bind fun x => expr? e depth x
      let rhs ← (r.fields.lookup "rhs").bind fun x => expr? e depth x
      return .compare op lhs rhs
    | form => leafExpr? e form (depth + 2) fields
  | _, _ => none

/-! ### Actions and entries -/

/-- An action. -/
def action? (e : Extensions) : Decoder ActionSpec := fun depth r => do
  let (name, depth, fields) ← choiceWith? depth r
  match name with
  | "CastSpell" => (effectParts? e depth fields).map fun (id, target) => .cast id target
  | "Wait" => (onlyPart? e "secs" floatValue? depth fields).map .wait
  | _ => none

/-- An entry. -/
def entrySpec? (e : Extensions) : Decoder EntrySpec := fun depth r => do
  let r ← struct? e "ListItem" ["uuid", "hide", "condition", "action"] depth r
  return {
    id := ← r.fieldOr? "uuid" none (option? e uuid?)
    hidden := ← r.fieldOr? "hide" false bool?
    condition := ← r.fieldOr? "condition" none (option? e (expr? e))
    action := ← r.field? "action" (action? e) }

/-- A priority list. -/
def priorityList? (e : Extensions) : Decoder PriorityList := fun depth r => do
  let r ← struct? e "RotationConfig" ["priority_list"] depth r
  return ⟨← r.field? "priority_list" (list? (entrySpec? e))⟩

end Ron

/-- Reads a priority list in the object notation. -/
def PriorityList.ofRon? (text : String) : Option PriorityList := do
  let (e, r) ← Ron.read? text
  Ron.priorityList? e Ron.depthLimit r

end ActionPriority
