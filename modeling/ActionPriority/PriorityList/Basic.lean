import ActionPriority.Condition.Expr
import ActionPriority.Uuid

/-! # Priority Lists

    A priority list as it is written down: entries in order of preference, each an action
    with the condition under which it is wanted.
-/

namespace ActionPriority

/-- An action as it is written in an entry. -/
inductive ActionSpec where
  | cast (spell : SpellId) (target : TargetRef)
  /-- Idle for some seconds. -/
  | wait (seconds : Float)

/-- One entry of a priority list. -/
structure EntrySpec where
  /-- The identifier that messages about the entry carry. -/
  id : Option Uuid := none
  /-- A hidden entry is kept, but never takes part. -/
  hidden : Bool := false
  /-- When the action is wanted; always, without a condition. -/
  condition : Option Expr := none
  action : ActionSpec

/-- A priority list. -/
structure PriorityList where
  entries : List EntrySpec

end ActionPriority
