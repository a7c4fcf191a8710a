import ActionPriority.Binary64.Shortest
import ActionPriority.Condition.Reference

/-! # Compiled Conditions

    A compiled condition is well-kinded by construction: a `Test` answers yes or no, an
    `IntTerm`, a `FloatTerm` and a `TimeTerm` give a value of their kind, and a `Node` is
    any one of the four.  Asking a node changes nothing and never fails.  What it looks
    for and does not find reads as the neutral value: no, zero, or no time.
-/

namespace ActionPriority

/-! ### Values -/

/-- The kinds of values. -/
inductive ValueKind where
  | bool
  | int
  | float
  | time
  deriving DecidableEq, Repr

/-- The name of a kind. -/
def ValueKind.name : ValueKind → String
  | .bool => "Bool"
  | .int => "Int"
  | .float => "Float"
  | .time => "Duration"

/-- What asking a node gives. -/
inductive Value where
  | bool (value : Bool)
  | int (value : Int32)
  | float (value : Float)
  | time (value : Time)

namespace Value

/-- The kind of a value. -/
def kind : Value → ValueKind
  | .bool _ => .bool
  | .int _ => .int
  | .float _ => .float
  | .time _ => .time

/-- The text of a value: floats and times have three places. -/
def text : Value → String
  | .bool value => toString value
  | .int value => toString value.toInt
  | .float value => Binary64.fixed 3 value
  | .time value => value.brief

end Value

/-! ### Integers -/

/-- A term that gives an integer. -/
inductive IntTerm where
  | literal (value : Int32)
  /-- The number of targets that are present. -/
  | targetCount
  /-- The runes that can be spent as a type, Death runes included. -/
  | runeCount (caster : CombatantId) (type : RuneType)
  | naturalRuneCount (caster : CombatantId) (type : RuneType)
  deriving DecidableEq, Repr

/-- What `read` finds on the rune bar of a combatant, and `neutral` without a bar. -/
def Encounter.readRunes {α : Type} (e : Encounter) (caster : CombatantId) (neutral : α)
    (read : RuneBar → α) : α :=
  (((e.combatant? caster).bind Combatant.runes).map read).getD neutral

namespace IntTerm

/-- The value of a count, at most the greatest integer. -/
def ofCount (n : Nat) : Int32 := Int32.ofNat (min n 2147483647)

/-- The value of the term now. -/
def eval (e : Encounter) : IntTerm → Int32
  | .literal value => value
  | .targetCount => ofCount e.enabledTargets
  | .runeCount caster type => e.readRunes caster 0 fun bar => ofCount (bar.ready type e.clock)
  | .naturalRuneCount caster type =>
    e.readRunes caster 0 fun bar => ofCount (bar.naturalOf type e.clock)

/-- The text of the term. -/
def text : IntTerm → String
  | .literal value => toString value.toInt
  | .targetCount => "Number of Targets"
  | .runeCount _ type => "Current Rune Count(" ++ type.name ++ ")"
  | .naturalRuneCount _ type => "Current Non-Death Rune Count(" ++ type.name ++ ")"

end IntTerm

/-! ### Floats -/

namespace Increase

/-- How much `live` is above `baseline`, as a part of it; one whole if there is no baseline. -/
def ratio (live baseline : Float) : Float :=
  if baseline == 0.0 then 1.0 else live / baseline - 1.0

/-- What a fresh application would have now. -/
def live (measure : Increase) (p : Periodic) (caster target : Stats) : Float :=
  match measure with
  | .damage => Damage.expectedTick p caster target
  | .crit => caster.critChance
  | .tickRate => ((Damage.tickPeriod p caster).roundTo Time.granularity).toSeconds

/-- What the effect has had since its last application; zero if there was none. -/
def baseline (measure : Increase) (applied : Option Effect) : Float :=
  match measure, applied with
  | _, none => 0.0
  | .damage, some f => f.expectedTick
  | .crit, some f => f.snapshot.critChance
  | .tickRate, some f => f.snapshot.period.toSeconds

/-- How much better than the running effect a fresh application would be.  A shorter period
    is the better one, so there the quotient is turned around. -/
def compared (measure : Increase) (live baseline : Float) : Float :=
  match measure with
  | .damage => ratio live baseline
  | .crit => ratio live baseline
  | .tickRate => if baseline == 0.0 || live == 0.0 then 1.0 else baseline / live - 1.0

/-- The name of an increase in texts. -/
def label : Increase → String
  | .damage => "Dot Percent Increase"
  | .crit => "Dot Crit Percent Increase"
  | .tickRate => "Dot Tick Rate Percent Increase"

end Increase

/-- A term that gives a float. -/
inductive FloatTerm where
  | literal (value : Float)
  /-- An integer read as a float. -/
  | ofInt (term : IntTerm)
  /-- How much better a fresh application would be.  What the spell applies was noted when
      the term was made; everyone's statistics are read afresh. -/
  | increase (measure : Increase) (effect : EffectRef) (periodic : Periodic)

namespace FloatTerm

/-- The value of an increase now: zero without its caster or its target. -/
def evalIncrease (e : Encounter) (measure : Increase) (r : EffectRef) (p : Periodic) : Float :=
  match e.combatant? r.caster, r.target.combatant? e with
  | some caster, some target =>
    measure.compared (measure.live p caster.stats target.stats)
      (measure.baseline (e.effect? r.caster r.spell target.id))
  | _, _ => 0.0

/-- The value of the term now. -/
def eval (e : Encounter) : FloatTerm → Float
  | .literal value => value
  | .ofInt term => Float.ofInt (term.eval e).toInt
  | .increase measure effect periodic => evalIncrease e measure effect periodic

/-- The text of the term. -/
def text : FloatTerm → String
  | .literal value => Binary64.plain value
  | .ofInt term => term.text
  | .increase measure effect _ => measure.label ++ "(" ++ effect.spell.text ++ ")"

end FloatTerm

/-! ### Times -/

/-- A term that gives a length of time. -/
inductive TimeTerm where
  /-- A constant, and the seconds in which it was written. -/
  | literal (value : Time) (seconds : Float)
  | currentTime
  | remainingTime
  | effectRemaining (effect : EffectRef)
  | effectPeriod (effect : EffectRef)
  | lowestRemaining (spread : Spread)
  | slotCooldown (caster : CombatantId) (slot : Fin 6)
  /-- The time until a slot of the type is ready. -/
  | runeCooldown (caster : CombatantId) (type : RuneType)
  /-- The time until the next slot of the type comes back. -/
  | nextRuneCooldown (caster : CombatantId) (type : RuneType)
  | fullRuneCooldown (caster : CombatantId) (base : Bool)

namespace TimeTerm

/-- The time until an instant, if there is one. -/
def untilReady (e : Encounter) (ready : Option Time) : Time :=
  (ready.map e.clock.till).getD Time.zero

/-- The value of the term now. -/
def eval (e : Encounter) : TimeTerm → Time
  | .literal value _ => value
  | .currentTime => e.clock
  | .remainingTime => e.remaining
  | .effectRemaining effect => effect.remaining e
  | .effectPeriod effect => effect.period e
  | .lowestRemaining spread => spread.lowestRemaining e
  | .slotCooldown caster slot =>
    e.readRunes caster Time.zero fun bar => e.clock.till (bar.slot slot).readyAt
  | .runeCooldown caster type =>
    e.readRunes caster Time.zero fun bar => untilReady e (bar.readyAt? type)
  | .nextRuneCooldown caster type =>
    e.readRunes caster Time.zero fun bar => untilReady e (bar.nextReadyAt? type e.clock)
  | .fullRuneCooldown caster base =>
    let initialHaste := ((e.combatant? caster).map (·.stats.initialHaste)).getD 1.0
    e.readRunes caster Time.zero fun bar =>
      if base then bar.baseCooldown initialHaste else bar.fullCooldown

/-- The text of the term. -/
def text : TimeTerm → String
  | .literal _ seconds => Binary64.plain seconds ++ "s"
  | .currentTime => "Current Time"
  | .remainingTime => "Remaining Time"
  | .effectRemaining effect => "Dot Remaining Time(" ++ effect.spell.text ++ ")"
  | .effectPeriod effect => "Dot Tick Frequency(" ++ effect.spell.text ++ ")"
  | .lowestRemaining spread => "Dot Lowest Remaining Time(" ++ spread.spell.text ++ ")"
  | .slotCooldown _ slot => "Rune Slot Cooldown(" ++ toString (slot.val + 1) ++ ")"
  | .runeCooldown _ type => "Rune Cooldown(" ++ type.name ++ ")"
  | .nextRuneCooldown _ type => "Next Rune Cooldown(" ++ type.name ++ ")"
  | .fullRuneCooldown _ base => if base then "Full Rune Cooldown(Base)" else "Full Rune Cooldown"

end TimeTerm

/-! ### Tests -/

/-- A question with the answer yes or no. -/
inductive Test where
  | literal (value : Bool)
  | all (operands : List Test)
  | any (operands : List Test)
  | not (operand : Test)
  | compareBool (op : Comparison) (lhs rhs : Test)
  | compareInt (op : Comparison) (lhs rhs : IntTerm)
  | compareFloat (op : Comparison) (lhs rhs : FloatTerm)
  | compareTime (op : Comparison) (lhs rhs : TimeTerm)
  | effectActive (effect : EffectRef)
  | activeOnAll (spread : Spread)
  | slotActive (caster : CombatantId) (slot : Fin 6)
  | slotDeath (caster : CombatantId) (slot : Fin 6)

instance : Inhabited Test := ⟨.literal false⟩

namespace Test

mutual

/-- The answer now. -/
def eval (e : Encounter) : Test → Bool
  | .literal value => value
  | .all operands => evalAll e operands
  | .any operands => evalAny e operands
  | .not operand => !eval e operand
  | .compareBool op lhs rhs => op.holds (eval e lhs) (eval e rhs)
  | .compareInt op lhs rhs => op.holds (lhs.eval e) (rhs.eval e)
  | .compareFloat op lhs rhs => op.holds (lhs.eval e) (rhs.eval e)
  | .compareTime op lhs rhs => op.holds (lhs.eval e) (rhs.eval e)
  | .effectActive effect => effect.isActive e
  | .activeOnAll spread => spread.isActiveOnAll e
  | .slotActive caster slot => e.readRunes caster false (·.isActive slot e.clock)
  | .slotDeath caster slot => e.readRunes caster false (·.isDeath slot)

/-- Is every answer yes? -/
def evalAll (e : Encounter) : List Test → Bool
  | [] => true
  | t :: rest => eval e t && evalAll e rest

/-- Is any answer yes? -/
def evalAny (e : Encounter) : List Test → Bool
  | [] => false
  | t :: rest => eval e t || evalAny e rest

end

mutual

/-- The text of the test. -/
def text : Test → String
  | .literal value => toString value
  | .all operands => String.intercalate " && " (texts operands)
  | .any operands => String.intercalate " || " (texts operands)
  | .not operand => "Not(" ++ text operand ++ ")"
  | .compareBool op lhs rhs => text lhs ++ " " ++ op.symbol ++ " " ++ text rhs
  | .compareInt op lhs rhs => lhs.text ++ " " ++ op.symbol ++ " " ++ rhs.text
  | .compareFloat op lhs rhs => lhs.text ++ " " ++ op.symbol ++ " " ++ rhs.text
  | .compareTime op lhs rhs => lhs.text ++ " " ++ op.symbol ++ " " ++ rhs.text
  | .effectActive effect => "Dot Is Active(" ++ effect.spell.text ++ ")"
  | .activeOnAll spread => "Dot Is Active On All Targets(" ++ spread.spell.text ++ ")"
  | .slotActive _ slot => "Current Rune Active(" ++ toString (slot.val + 1) ++ ")"
  | .slotDeath _ slot => "Current Rune Death(" ++ toString (slot.val + 1) ++ ")"

/-- The texts of operands, each in parentheses. -/
def texts : List Test → List String
  | [] => []
  | t :: rest => ("(" ++ text t ++ ")") :: texts rest

end

theorem evalAll_eq (e : Encounter) (l : List Test) : evalAll e l = l.all (eval e) := by
  induction l with
  | nil => rfl
  | cons t rest ih => simp [evalAll, ih]

theorem evalAny_eq (e : Encounter) (l : List Test) : evalAny e l = l.any (eval e) := by
  induction l with
  | nil => rfl
  | cons t rest ih => simp [evalAny, ih]

end Test

/-! ### Nodes -/

/-- A compiled expression of any kind. -/
inductive Node where
  | test (t : Test)
  | int (t : IntTerm)
  | float (t : FloatTerm)
  | time (t : TimeTerm)

/-- A node is not of the kind that is asked for. -/
structure KindMismatch where
  node : Node
  expected : ValueKind

namespace Node

/-- The kind of values that the node gives. -/
def kind : Node → ValueKind
  | .test _ => .bool
  | .int _ => .int
  | .float _ => .float
  | .time _ => .time

/-- The value of the node now. -/
def eval (e : Encounter) : Node → Value
  | .test t => .bool (t.eval e)
  | .int t => .int (t.eval e)
  | .float t => .float (t.eval e)
  | .time t => .time (t.eval e)

/-- The text of the node. -/
def text : Node → String
  | .test t => t.text
  | .int t => t.text
  | .float t => t.text
  | .time t => t.text

theorem kind_eval (e : Encounter) (n : Node) : (n.eval e).kind = n.kind := by cases n <;> rfl

/-- The node as a test. -/
def toTest : Node → Except KindMismatch Test
  | .test t => .ok t
  | n => .error ⟨n, .bool⟩

/-- The node as an integer. -/
def toInt : Node → Except KindMismatch IntTerm
  | .int t => .ok t
  | n => .error ⟨n, .int⟩

/-- The node as a float.  An integer is none. -/
def toFloat : Node → Except KindMismatch FloatTerm
  | .float t => .ok t
  | n => .error ⟨n, .float⟩

/-- The node as a length of time. -/
def toTime : Node → Except KindMismatch TimeTerm
  | .time t => .ok t
  | n => .error ⟨n, .time⟩

end Node

/-- The wording of a mismatch. -/
def KindMismatch.message (m : KindMismatch) : String :=
  "\x60" ++ m.node.text ++ "\x60 is a " ++ m.node.kind.name ++ " value, expected " ++
    m.expected.name

end ActionPriority
