/-! # Comparisons

    The six ways in which a condition compares two values.  Floats are compared as
    floats: what is not a number differs from everything and is in no order.
-/

namespace ActionPriority

/-- A way of comparing two values. -/
inductive Comparison where
  | eq
  | ne
  | lt
  | le
  | gt
  | ge
  deriving DecidableEq, Repr

namespace Comparison

/-- All comparisons. -/
def all : List Comparison := [.eq, .ne, .lt, .le, .gt, .ge]

/-- The name of a comparison in a configuration. -/
def name : Comparison → String
  | .eq => "Eq"
  | .ne => "Ne"
  | .lt => "Lt"
  | .le => "Le"
  | .gt => "Gt"
  | .ge => "Ge"

/-- The comparison of that name. -/
def ofName? (text : String) : Option Comparison := all.find? (·.name = text)

/-- The sign of a comparison in texts. -/
def symbol : Comparison → String
  | .eq => "=="
  | .ne => "!="
  | .lt => "<"
  | .le => "<="
  | .gt => ">"
  | .ge => ">="

/-- Does the comparison hold between the two values? -/
def holds {α : Type} [BEq α] [LT α] [LE α] [DecidableLT α] [DecidableLE α] (op : Comparison)
    (lhs rhs : α) : Bool :=
  match op with
  | .eq => lhs == rhs
  | .ne => lhs != rhs
  | .lt => lhs < rhs
  | .le => lhs ≤ rhs
  | .gt => rhs < lhs
  | .ge => rhs ≤ lhs

end Comparison

end ActionPriority
