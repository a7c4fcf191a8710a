import ActionPriority.Json.Basic
import ActionPriority.PriorityList.Basic

/-! # Priority Lists in JSON

    The fields of a priority list go by the names below.  A choice among several forms is
    a text if the form has no parts, and else an object with one field, named for the
    form, that holds its parts, as an object where they have names.  A structure is an
    object; an array of its parts in order is read as well.
-/

namespace ActionPriority

namespace Json

/-! ### Structures and choices -/

/-- The parts of a structure by name. -/
def parts? (names : List String) : Json → Option Json
  | .object fields => some (.object fields)
  | .array items =>
    if items.length ≤ names.length then some (.object (names.zip items)) else none
  | _ => none

/-- The parts of a form by name, which a form does not take without names. -/
def named? : Json → Option Json
  | .object fields => some (.object fields)
  | _ => none

/-- A part that has to be there. -/
def part? {α : Type} (j : Json) (name : String) (read : Json → Option α) : Option α :=
  (j.get? name).bind read

/-- A part that may be left out. -/
def partOr? {α : Type} (j : Json) (name : String) (default : α) (read : Json → Option α) :
    Option α :=
  match j.get? name with
  | none => some default
  | some value => read value

/-- The form that was chosen, with its parts if any are given. -/
def choice? : Json → Option (String × Option Json)
  | .string name => some (name, none)
  | .object [(name, value)] => some (name, some value)
  | _ => none

/-- A form without parts. -/
def plainChoice? {α : Type} (ofName? : String → Option α) (j : Json) : Option α :=
  match j.choice? with
  | some (name, none) => ofName? name
  | some (name, some .null) => ofName? name
  | _ => none

/-- A form with its parts. -/
def form (name : String) (parts : Json) : Json := .object [(name, parts)]

/-! ### Reading -/

/-- The identity of a spell. -/
def spellId? (j : Json) : Option SpellId := j.int32?.map SpellId.mk

/-- A universally unique identifier. -/
def uuid? (j : Json) : Option Uuid := j.text?.bind Uuid.read?

/-- The reference that a name stands for. -/
def targetName? : String → Option TargetRef
  | "Caster" => some .caster
  | "CurrentTarget" => some .currentTarget
  | _ => none

/-- A reference to a combatant. -/
def targetRef? (j : Json) : Option TargetRef :=
  match j.choice? with
  | some ("Target", some place) => (place.nat? 64).map .place
  | _ => plainChoice? targetName? j

/-- A constant. -/
def literal? (j : Json) : Option Literal :=
  match j.choice? with
  | some ("Bool", some value) => value.bool?.map .bool
  | some ("Int", some value) => value.int32?.map .int
  | some ("Float", some value) => value.float?.map .float
  | some ("Duration", some value) => value.float?.map .seconds
  | _ => none

/-- The parts of a question about an effect on one target. -/
def effectParts? (j : Json) : Option (SpellId × TargetRef) := do
  let parts ← j.named?
  return (← part? parts "spell_id" spellId?, ← partOr? parts "target" .currentTarget targetRef?)

/-- The only part of a form. -/
def onlyPart? {α : Type} (name : String) (read : Json → Option α) (j : Json) : Option α :=
  j.named?.bind fun parts => part? parts name read

/-- A rune type. -/
def runeType? (j : Json) : Option RuneType := plainChoice? RuneType.ofName? j

/-- The expression of a form that has no operands, from its parts. -/
def leafExpr? (form : Form) (j : Json) : Option Expr :=
  match form with
  | .const => j.literal?.map .const
  | .effectActive => (effectParts? j).map fun (id, target) => .effectActive id target
  | .effectActiveOnAll => (onlyPart? "spell_id" spellId? j).map .effectActiveOnAll
  | .effectRemaining => (effectParts? j).map fun (id, target) => .effectRemaining id target
  | .effectLowestRemaining => (onlyPart? "spell_id" spellId? j).map .effectLowestRemaining
  | .effectPeriod => (effectParts? j).map fun (id, target) => .effectPeriod id target
  | .effectIncrease measure =>
    (effectParts? j).map fun (id, target) => .effectIncrease measure id target
  | .runeCount => (onlyPart? "rune_type" runeType? j).map .runeCount
  | .naturalRuneCount => (onlyPart? "rune_type" runeType? j).map .naturalRuneCount
  | .slotActive => (onlyPart? "rune_slot" uint8? j).map .slotActive
  | .slotDeath => (onlyPart? "rune_slot" uint8? j).map .slotDeath
  | .runeCooldown => (onlyPart? "rune_type" runeType? j).map .runeCooldown
  | .nextRuneCooldown => (onlyPart? "rune_type" runeType? j).map .nextRuneCooldown
  | .slotCooldown => (onlyPart? "rune_slot" uint8? j).map .slotCooldown
  | .fullRuneCooldown => do
    let parts ← j.named?
    return .fullRuneCooldown (← partOr? parts "use_base_value" false bool?)
  | _ => none

/-- The expression of a form that has no parts. -/
def plainExpr? (name : String) : Option Expr :=
  match Form.ofName? name with
  | some .currentTime => some .currentTime
  | some .remainingTime => some .remainingTime
  | some .targetCount => some .targetCount
  | _ => none

mutual

/-- A condition. -/
def expr? : Json → Option Expr
  | .string name => plainExpr? name
  | .object [(name, .null)] => plainExpr? name
  | .object [("And", .array operands)] => (exprs? operands).map .all
  | .object [("Or", .array operands)] => (exprs? operands).map .any
  | .object [("Not", operand)] => (expr? operand).map .not
  | .object [("Cmp", .object fields)] => do
    let op ← part? (.object fields) "op" (plainChoice? Comparison.ofName?)
    let (lhs, rhs) ← sides? fields
    return .compare op (← lhs) (← rhs)
  | .object [(name, parts)] => do
    match ← Form.ofName? name with
    | .all => none
    | .any => none
    | .compare => none
    | form => leafExpr? form parts
  | _ => none

/-- Several conditions. -/
def exprs? : List Json → Option (List Expr)
  | [] => some []
  | j :: rest => do return (← expr? j) :: (← exprs? rest)

/-- The two sides of a comparison among its fields. -/
def sides? : List (String × Json) → Option (Option Expr × Option Expr)
  | [] => some (none, none)
  | (name, value) :: rest => do
    let (lhs, rhs) ← sides? rest
    match name with
    | "lhs" => return (expr? value, rhs)
    | "rhs" => return (lhs, expr? value)
    | _ => return (lhs, rhs)

end

/-- An action. -/
def action? (j : Json) : Option ActionSpec :=
  match j.choice? with
  | some ("CastSpell", some parts) => (effectParts? parts).map fun (id, target) => .cast id target
  | some ("Wait", some parts) => (onlyPart? "secs" float? parts).map .wait
  | _ => none

/-- An entry. -/
def entrySpec? (j : Json) : Option EntrySpec := do
  let parts ← parts? ["uuid", "hide", "condition", "action"] j
  return {
    id := ← partOr? parts "uuid" none (option? uuid?)
    hidden := ← partOr? parts "hide" false bool?
    condition := ← partOr? parts "condition" none (option? expr?)
    action := ← part? parts "action" action? }

/-- A priority list. -/
def priorityList? (j : Json) : Option PriorityList := do
  let parts ← parts? ["priority_list"] j
  return ⟨← part? parts "priority_list" (list? entrySpec?)⟩

/-! ### Writing

    Nothing is left out.  How floats are written is up to the caller. -/

/-- The document of a reference. -/
def ofTargetRef : TargetRef → Json
  | .caster => .string "Caster"
  | .currentTarget => .string "CurrentTarget"
  | .place n => form "Target" (ofNat n)

/-- The document of a spell's identity. -/
def ofSpellId (id : SpellId) : Json := ofInt id.number.toInt

/-- The document of a constant. -/
def ofLiteral (float : Float → Json) : Literal → Json
  | .bool value => form "Bool" (.bool value)
  | .int value => form "Int" (ofInt value.toInt)
  | .float value => form "Float" (float value)
  | .seconds value => form "Duration" (float value)

/-- The parts of a question about an effect on one target. -/
def ofEffectParts (id : SpellId) (target : TargetRef) : Json :=
  .object [("spell_id", ofSpellId id), ("target", ofTargetRef target)]

mutual

/-- The document of a condition. -/
def ofExpr (float : Float → Json) : Expr → Json
  | .const value => form "Const" (ofLiteral float value)
  | .all operands => form "And" (.array (ofExprs float operands))
  | .any operands => form "Or" (.array (ofExprs float operands))
  | .not operand => form "Not" (ofExpr float operand)
  | .compare op lhs rhs =>
    form "Cmp" (.object
      [("op", .string op.name), ("lhs", ofExpr float lhs), ("rhs", ofExpr float rhs)])
  | .currentTime => .string Form.currentTime.name
  | .remainingTime => .string Form.remainingTime.name
  | .targetCount => .string Form.targetCount.name
  | .effectActive id target => form Form.effectActive.name (ofEffectParts id target)
  | .effectActiveOnAll id => form Form.effectActiveOnAll.name (.object [("spell_id", ofSpellId id)])
  | .effectRemaining id target => form Form.effectRemaining.name (ofEffectParts id target)
  | .effectLowestRemaining id =>
    form Form.effectLowestRemaining.name (.object [("spell_id", ofSpellId id)])
  | .effectPeriod id target => form Form.effectPeriod.name (ofEffectParts id target)
  | .effectIncrease measure id target =>
    form (Form.effectIncrease measure).name (ofEffectParts id target)
  | .runeCount type => form Form.runeCount.name (.object [("rune_type", .string type.name)])
  | .naturalRuneCount type =>
    form Form.naturalRuneCount.name (.object [("rune_type", .string type.name)])
  | .slotActive slot => form Form.slotActive.name (.object [("rune_slot", ofNat slot.toNat)])
  | .slotDeath slot => form Form.slotDeath.name (.object [("rune_slot", ofNat slot.toNat)])
  | .runeCooldown type => form Form.runeCooldown.name (.object [("rune_type", .string type.name)])
  | .nextRuneCooldown type =>
    form Form.nextRuneCooldown.name (.object [("rune_type", .string type.name)])
  | .slotCooldown slot => form Form.slotCooldown.name (.object [("rune_slot", ofNat slot.toNat)])
  | .fullRuneCooldown base =>
    form Form.fullRuneCooldown.name (.object [("use_base_value", .bool base)])

/-- The documents of several conditions. -/
def ofExprs (float : Float → Json) : List Expr → List Json
  | [] => []
  | x :: rest => ofExpr float x :: ofExprs float rest

end

/-- The document of an action. -/
def ofAction (float : Float → Json) : ActionSpec → Json
  | .cast id target => form "CastSpell" (ofEffectParts id target)
  | .wait seconds => form "Wait" (.object [("secs", float seconds)])

/-- The document of an entry. -/
def ofEntry (float : Float → Json) (x : EntrySpec) : Json :=
  .object
    [("uuid", ofOption (fun id => .string id.text) x.id), ("hide", .bool x.hidden),
      ("condition", ofOption (ofExpr float) x.condition), ("action", ofAction float x.action)]

/-- The document of a priority list. -/
def ofPriorityList (float : Float → Json) (list : PriorityList) : Json :=
  .object [("priority_list", .array (list.entries.map (ofEntry float)))]

end Json

end ActionPriority
