import ActionPriority.Condition.Catalog
import ActionPriority.Condition.Warning

/-! # Compiling Conditions

    An expression compiles to a node when it makes sense for its caster: kinds fit, the
    spells are known, the targets are in the roster, and there are runes if it asks for
    runes.  Whatever does not make sense is warned about.

    * A conjunction needs all its operands.  They are all looked at, so that each failure
      is reported; a broken guard never lets an entry act.
    * A disjunction drops the operands that fail.
    * A comparison needs both sides, of one kind; an integer may meet a float.

    The rules have the encounter at hand as it stands (`Scope`), and look up in it whom and
    what an expression names.
-/

namespace ActionPriority

/-- What an expression is compiled against. -/
structure Scope where
  of ::
  /-- The encounter as it stands. -/
  encounter : Encounter
  caster : CombatantId
  catalog : Catalog

namespace Scope

/-! ### The caster and the targets -/

/-- The caster, if it is there. -/
def caster? (s : Scope) : Option Combatant := s.encounter.combatant? s.caster

/-- What the caster is called in warnings. -/
def label (s : Scope) : String := (s.caster?.map (·.label)).getD s.caster.text

/-- The spells that the caster knows.  Someone who is not there knows nothing. -/
def spells (s : Scope) : List Spell := (s.caster?.map (·.spells)).getD []

/-- Does the caster have a rune bar? -/
def usesRunes (s : Scope) : Bool := (s.caster?.bind (·.runes)).isSome

/-- The targets by place. -/
def roster (s : Scope) : List CombatantId := s.encounter.roster

/-! ### Names and places -/

/-- The cell of a reference. -/
def cell (s : Scope) : TargetRef → Checked Cell
  | .caster => pure (.fixed s.caster)
  | .currentTarget => pure (.aimOf s.caster)
  | .place n => (Checked.ofOption (.noTarget n) s.roster[n]?).bind fun id => pure (.fixed id)

/-- The spell of that identity, which the caster has to know. -/
def spell (s : Scope) (id : SpellId) : Checked Spell :=
  .ofOption (.unknownSpell s.label id) (s.spells.find? (·.id = id))

/-- The periodic effect of a spell that the caster knows. -/
def periodic (s : Scope) (id : SpellId) : Checked Periodic := do
  let spell ← s.spell id
  .ofOption (.notPeriodic spell.label) spell.periodic

/-- The effect of a spell on a target.  That it was ever applied is not asked for. -/
def effect (s : Scope) (id : SpellId) (target : TargetRef) : Checked EffectRef := do
  let _ ← s.periodic id
  let target ← s.cell target
  return ⟨s.caster, id, target⟩

/-- The effects of a spell on all targets of the roster. -/
def spread (s : Scope) (id : SpellId) : Checked Spread := do
  let spell ← s.spell id
  if spell.periodic.isNone || s.roster.isEmpty then .fail (.noEffects id)
  else return ⟨s.caster, id, s.roster⟩

/-- The caster, who has to use runes. -/
def runeUser (s : Scope) : Checked CombatantId :=
  if s.usesRunes then pure s.caster else .fail (.noRunes s.label)

/-- The rune slot of a number counted from one. -/
def slot (n : UInt8) : Checked (Fin 6) :=
  if h : 1 ≤ n.toNat ∧ n.toNat ≤ 6 then pure ⟨n.toNat - 1, by omega⟩ else .fail (.noSlot n)

/-! ### Leaves and comparisons -/

/-- The node of a constant. -/
def literal : Literal → Checked Node
  | .bool value => pure (.test (.literal value))
  | .int value => pure (.int (.literal value))
  | .float value => pure (.float (.literal value))
  | .seconds value =>
    match Time.ofSeconds value with
    | .ok time => pure (.time (.literal time value))
    | .error _ => .fail (.invalidSeconds value)

/-- A node that has to be a test. -/
def asTest (n : Node) : Checked Test :=
  match n.toTest with
  | .ok test => pure test
  | .error cause => .fail (.mismatch cause)

/-- The comparison of two nodes. -/
def comparison (op : Comparison) : Node → Node → Checked Node
  | .test l, .test r => pure (.test (.compareBool op l r))
  | .int l, .int r => pure (.test (.compareInt op l r))
  | .float l, .float r => pure (.test (.compareFloat op l r))
  | .time l, .time r => pure (.test (.compareTime op l r))
  | .int l, .float r => pure (.test (.compareFloat op (.ofInt l) r))
  | .float l, .int r => pure (.test (.compareFloat op l (.ofInt r)))
  | l, r => .fail (.incomparable l r)

/-! ### Operands -/

/-- The warnings of compiling several operands. -/
def allWarnings (operands : List (Checked Test)) : List Warning :=
  operands.flatMap Checked.warnings

/-- The conjunction of the operands, if there are any and each has a result. -/
def conjunction (operands : List (Checked Test)) : Checked Node :=
  if operands.isEmpty then .fail .noOperands
  else ⟨(operands.mapM Checked.result).map fun tests => .test (.all tests), allWarnings operands⟩

/-- The disjunction of those operands that have a result, if there are any. -/
def disjunction (operands : List (Checked Test)) : Checked Node :=
  match operands.filterMap Checked.result with
  | [] => ⟨none, allWarnings operands ++ [.noValidOperands]⟩
  | tests => ⟨some (.test (.any tests)), allWarnings operands⟩

/-- What the rule of a form makes of an expression of another form: nothing, without a warning,
    unless the rule does not look at the expression. -/
def foreign : Form → Checked Node
  | .currentTime => pure (.time .currentTime)
  | .remainingTime => pure (.time .remainingTime)
  | .targetCount => pure (.int .targetCount)
  | _ => .silent

/-- What the catalog gives for an expression of `form`, of which the rule of `form` has made
    `made`. -/
def catalogued (s : Scope) (form : Form) (made : Checked Node) : Checked Node :=
  match s.catalog.find? form.name with
  | none => .fail (.unregistered form)
  | some .inert => .silent
  | some (.rule other) => if other = form then made else foreign other

/-! ### Expressions -/

mutual

/-- Compiles an expression. -/
def compile (s : Scope) : Expr → Checked Node
  | .const value => s.catalogued .const (literal value)
  | .all operands => s.catalogued .all (conjunction (s.compileTests operands))
  | .any operands => s.catalogued .any (disjunction (s.compileTests operands))
  | .not operand => s.catalogued .not do
    let test ← (s.compile operand).bind asTest
    return .test (.not test)
  | .compare op lhs rhs => s.catalogued .compare do
    let l ← s.compile lhs
    let r ← s.compile rhs
    comparison op l r
  | .currentTime => s.catalogued .currentTime (pure (.time .currentTime))
  | .remainingTime => s.catalogued .remainingTime (pure (.time .remainingTime))
  | .targetCount => s.catalogued .targetCount (pure (.int .targetCount))
  | .effectActive id target => s.catalogued .effectActive do
    return .test (.effectActive (← s.effect id target))
  | .effectActiveOnAll id => s.catalogued .effectActiveOnAll do
    return .test (.activeOnAll (← s.spread id))
  | .effectRemaining id target => s.catalogued .effectRemaining do
    return .time (.effectRemaining (← s.effect id target))
  | .effectLowestRemaining id => s.catalogued .effectLowestRemaining do
    return .time (.lowestRemaining (← s.spread id))
  | .effectPeriod id target => s.catalogued .effectPeriod do
    return .time (.effectPeriod (← s.effect id target))
  | .effectIncrease measure id target => s.catalogued (.effectIncrease measure) do
    let p ← s.periodic id
    let target ← s.cell target
    return .float (.increase measure ⟨s.caster, id, target⟩ p)
  | .runeCount type => s.catalogued .runeCount do
    return .int (.runeCount (← s.runeUser) type)
  | .naturalRuneCount type => s.catalogued .naturalRuneCount do
    return .int (.naturalRuneCount (← s.runeUser) type)
  | .slotActive n => s.catalogued .slotActive do
    return .test (.slotActive (← s.runeUser) (← slot n))
  | .slotDeath n => s.catalogued .slotDeath do
    return .test (.slotDeath (← s.runeUser) (← slot n))
  | .runeCooldown type => s.catalogued .runeCooldown do
    return .time (.runeCooldown (← s.runeUser) type)
  | .nextRuneCooldown type => s.catalogued .nextRuneCooldown do
    return .time (.nextRuneCooldown (← s.runeUser) type)
  | .slotCooldown n => s.catalogued .slotCooldown do
    return .time (.slotCooldown (← s.runeUser) (← slot n))
  | .fullRuneCooldown base => s.catalogued .fullRuneCooldown do
    return .time (.fullRuneCooldown (← s.runeUser) base)

/-- Compiles each of several expressions to a test. -/
def compileTests (s : Scope) : List Expr → List (Checked Test)
  | [] => []
  | x :: rest => (s.compile x).bind asTest :: s.compileTests rest

end

/-- Compiles an expression that has to be a test. -/
def compileTest (s : Scope) (x : Expr) : Checked Test := (s.compile x).bind asTest

theorem compileTests_eq (s : Scope) (l : List Expr) : s.compileTests l = l.map s.compileTest := by
  induction l with
  | nil => rfl
  | cons x rest ih => simp [compileTests, ih, compileTest]

end Scope

end ActionPriority
