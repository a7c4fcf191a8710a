import ActionPriority.Condition.Comparison
import ActionPriority.Spell

/-! # Condition Expressions

    What a priority list says about when an entry may act, as it is written down: a tree
    of constants, logic, comparisons, and questions about the encounter.  Nothing is
    checked here.  A tree may compare a time with a flag, or ask for a spell that nobody
    knows; `ActionPriority.Condition.Compile` sorts that out.
-/

namespace ActionPriority

/-! ### Leaves -/

/-- Whom a question or an action is about. -/
inductive TargetRef where
  /-- The caster of the priority list. -/
  | caster
  /-- Whomever the caster aims at when it is asked. -/
  | currentTarget
  /-- The target of that place in the roster. -/
  | place (n : Nat)
  deriving DecidableEq, Repr

instance : Inhabited TargetRef := ⟨.currentTarget⟩

/-- A written constant. -/
inductive Literal where
  | bool (value : Bool)
  | int (value : Int32)
  | float (value : Float)
  /-- A length of time, in seconds. -/
  | seconds (value : Float)

/-- What a fresh application of an effect may improve on the running one. -/
inductive Increase where
  /-- The average of a tick. -/
  | damage
  /-- The chance of a critical tick. -/
  | crit
  /-- The number of ticks in a given time. -/
  | tickRate
  deriving DecidableEq, Repr

/-! ### Expressions -/

/-- A condition as it is written in a priority list.  Slots are counted from one. -/
inductive Expr where
  | const (value : Literal)
  | all (operands : List Expr)
  | any (operands : List Expr)
  | not (operand : Expr)
  | compare (op : Comparison) (lhs rhs : Expr)
  | currentTime
  | remainingTime
  | targetCount
  | effectActive (spell : SpellId) (target : TargetRef)
  | effectActiveOnAll (spell : SpellId)
  | effectRemaining (spell : SpellId) (target : TargetRef)
  | effectLowestRemaining (spell : SpellId)
  | effectPeriod (spell : SpellId) (target : TargetRef)
  | effectIncrease (measure : Increase) (spell : SpellId) (target : TargetRef)
  | runeCount (type : RuneType)
  | naturalRuneCount (type : RuneType)
  | slotActive (slot : UInt8)
  | slotDeath (slot : UInt8)
  | runeCooldown (type : RuneType)
  | nextRuneCooldown (type : RuneType)
  | slotCooldown (slot : UInt8)
  /-- The time a slot takes to come back, at the present multiplier or, as the base, by the
      haste at the start. -/
  | fullRuneCooldown (base : Bool)

instance : Inhabited Expr := ⟨.currentTime⟩

/-! ### Forms -/

/-- The form of an expression: which of the questions it is, without its parts. -/
inductive Form where
  | const
  | all
  | any
  | not
  | compare
  | currentTime
  | remainingTime
  | targetCount
  | effectActive
  | effectActiveOnAll
  | effectRemaining
  | effectLowestRemaining
  | effectPeriod
  | effectIncrease (measure : Increase)
  | runeCount
  | naturalRuneCount
  | slotActive
  | slotDeath
  | runeCooldown
  | nextRuneCooldown
  | slotCooldown
  | fullRuneCooldown
  deriving DecidableEq, Repr

namespace Form

/-- The forms in the order in which they are documented. -/
def every : List Form :=
  [.const, .all, .any, .not, .compare, .currentTime, .remainingTime, .targetCount, .effectActive,
    .effectActiveOnAll, .effectRemaining, .effectLowestRemaining, .effectPeriod,
    .effectIncrease .damage, .effectIncrease .crit, .effectIncrease .tickRate, .runeCount,
    .naturalRuneCount, .slotActive, .slotDeath, .runeCooldown, .nextRuneCooldown, .slotCooldown,
    .fullRuneCooldown]

/-- No form is missing from the list. -/
theorem mem_every (form : Form) : form ∈ every := by
  cases form with
  | effectIncrease measure => cases measure <;> decide
  | _ => decide

/-- The name of a form in a configuration. -/
def name : Form → String
  | .const => "Const"
  | .all => "And"
  | .any => "Or"
  | .not => "Not"
  | .compare => "Cmp"
  | .currentTime => "CurrentTime"
  | .remainingTime => "RemainingTime"
  | .targetCount => "NumberTargets"
  | .effectActive => "DotIsActive"
  | .effectActiveOnAll => "DotIsActiveOnAllTargets"
  | .effectRemaining => "DotRemainingTime"
  | .effectLowestRemaining => "DotLowestRemainingTime"
  | .effectPeriod => "DotTickFrequency"
  | .effectIncrease .damage => "DotPercentIncrease"
  | .effectIncrease .crit => "DotCritPercentIncrease"
  | .effectIncrease .tickRate => "DotTickRatePercentIncrease"
  | .runeCount => "CurrentRuneCount"
  | .naturalRuneCount => "CurrentNonDeathRuneCount"
  | .slotActive => "CurrentRuneActive"
  | .slotDeath => "CurrentRuneDeath"
  | .runeCooldown => "RuneCooldown"
  | .nextRuneCooldown => "NextRuneCooldown"
  | .slotCooldown => "RuneSlotCooldown"
  | .fullRuneCooldown => "FullRuneCooldown"

/-- The form of that name. -/
def ofName? (text : String) : Option Form := every.find? (·.name = text)

end Form

/-- The form of an expression. -/
def Expr.form : Expr → Form
  | .const _ => .const
  | .all _ => .all
  | .any _ => .any
  | .not _ => .not
  | .compare _ _ _ => .compare
  | .currentTime => .currentTime
  | .remainingTime => .remainingTime
  | .targetCount => .targetCount
  | .effectActive _ _ => .effectActive
  | .effectActiveOnAll _ => .effectActiveOnAll
  | .effectRemaining _ _ => .effectRemaining
  | .effectLowestRemaining _ => .effectLowestRemaining
  | .effectPeriod _ _ => .effectPeriod
  | .effectIncrease measure _ _ => .effectIncrease measure
  | .runeCount _ => .runeCount
  | .naturalRuneCount _ => .naturalRuneCount
  | .slotActive _ => .slotActive
  | .slotDeath _ => .slotDeath
  | .runeCooldown _ => .runeCooldown
  | .nextRuneCooldown _ => .nextRuneCooldown
  | .slotCooldown _ => .slotCooldown
  | .fullRuneCooldown _ => .fullRuneCooldown

end ActionPriority
