import ActionPriority.Binary64.Basic

/-! # Fixed Places

    A number written with a fixed count of decimal places: the exact value is rounded
    once, to the nearest last digit, and a half goes to the even digit.
-/

namespace ActionPriority

namespace Binary64

/-- `digits` with zeros in front up to `width` characters. -/
def padLeft (width : Nat) (digits : String) : String :=
  "".pushn '0' (width - digits.length) ++ digits

/-- A count of units of `10 ^ (-places)` with its decimal point. -/
def withPoint (places units : Nat) : String :=
  if places = 0 then toString units
  else
    toString (units / Nat.pow 10 places) ++ "." ++ padLeft places (toString (units % Nat.pow 10 places))

/-- `x` with exactly `places` decimal places.  The sign of zero is kept. -/
def fixed (places : Nat) (x : Float) : String :=
  match magnitude? x with
  | none => if x.isNaN then "NaN" else if isNegative x then "-inf" else "inf"
  | some m =>
    let text := withPoint places (roundDiv (m.numerator * Nat.pow 10 places) m.denominator)
    if isNegative x then "-" ++ text else text

end Binary64

end ActionPriority
