/-! # Doubles as Exact Fractions

    A finite double is a whole significand times a power of two.  Everything that
    turns a double into digits or into nanoseconds works on that exact value in
    natural-number arithmetic; only the final rounding loses anything.

    * `Binary64.magnitude?` reads the exact absolute value of a finite double.
    * `Binary64.roundDiv` rounds a quotient to the nearest whole number, a half
      going to the even neighbour.
-/

namespace ActionPriority

namespace Binary64

/-! ### Exact values -/

/-- The fraction `numerator / denominator`, the exact size of a finite double. -/
structure Magnitude where
  /-- The part above the line. -/
  numerator : Nat
  /-- The part below the line, a power of two. -/
  denominator : Nat
  deriving Repr, DecidableEq

/-- A significand and a binary exponent: the double is `significand * 2 ^ exponent`,
    and `lowestOfBinade` says that the double below it is only half as far away
    as the double above it. -/
structure Parts where
  significand : Nat
  exponent : Int
  lowestOfBinade : Bool
  deriving Repr, DecidableEq

/-- The sign bit, set for negative numbers and for negative zero. -/
def isNegative (x : Float) : Bool := x.toBits.toNat / Nat.pow 2 63 = 1

/-- The significand and exponent of the absolute value of `x`, if `x` is finite.
    An exponent field of zero marks the subnormal doubles, which have no hidden bit. -/
def parts? (x : Float) : Option Parts :=
  let word : Nat := x.toBits.toNat
  let field : Nat := word / Nat.pow 2 52 % 2048
  let fraction : Nat := word % Nat.pow 2 52
  if field = 2047 then none
  else if field = 0 then some ⟨fraction, -1074, false⟩
  else some ⟨Nat.pow 2 52 + fraction, (field : Int) - 1075, decide (fraction = 0 ∧ 1 < field)⟩

/-- `numerator * 2 ^ exponent` as a fraction. -/
def scaled (numerator : Nat) (exponent : Int) : Magnitude :=
  if 0 ≤ exponent then ⟨numerator * Nat.pow 2 exponent.toNat, 1⟩
  else ⟨numerator, Nat.pow 2 (-exponent).toNat⟩

/-- The exact absolute value of a finite double. -/
def magnitude? (x : Float) : Option Magnitude :=
  (parts? x).map fun p => scaled p.significand p.exponent

/-! ### Rounding a quotient -/

/-- `numerator / denominator` rounded to the nearest whole number, a half going to
    the even neighbour. -/
def roundDiv (numerator denominator : Nat) : Nat :=
  let quotient := numerator / denominator
  let twice := 2 * (numerator % denominator)
  if twice < denominator then quotient
  else if denominator < twice then quotient + 1
  else quotient + quotient % 2

end Binary64

end ActionPriority
