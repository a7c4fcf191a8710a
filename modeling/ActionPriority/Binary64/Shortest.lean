import ActionPriority.Binary64.Basic

/-! # Shortest Digits

    The shortest decimal that reads back as a given double.  On the grid of multiples
    of a power of ten, a double has two neighbours; the coarsest grid on which one of
    them lies among the reals that round to the double gives the digits, and of two
    such neighbours the nearer one is taken, the upper one on a tie.

    * `Binary64.shortest?` finds the digits.
    * `Binary64.plain` writes them without an exponent, however long that gets.
    * `Binary64.compact` writes them with a point or an exponent always present.
-/

namespace ActionPriority

namespace Binary64

/-! ### Digits -/

/-- The number `digits * 10 ^ exponent`. -/
structure Decimal where
  digits : Nat
  exponent : Int
  deriving Repr, DecidableEq

/-- The reals that round to a double, as multiples of a quarter of its last place:
    from `low` to `high` with `middle` the double itself, ends included or not. -/
structure Interval where
  low : Nat
  middle : Nat
  high : Nat
  closed : Bool

/-- The half-way points around a significand.  The lower one is nearer at the bottom
    of a binade, and both belong to the double when its significand is even. -/
def Parts.interval (p : Parts) : Interval :=
  let middle := 4 * p.significand
  { low := if p.lowestOfBinade then middle - 1 else middle - 2
    middle
    high := middle + 2
    closed := p.significand % 2 = 0 }

/-- Is `n / d` inside the interval, both in the same units? -/
def Interval.holds (i : Interval) (n d : Nat) : Bool :=
  if i.closed then decide (i.low * d ≤ n ∧ n ≤ i.high * d)
  else decide (i.low * d < n ∧ n < i.high * d)

/-- `10 ^ k` as a fraction. -/
def powerOfTen (k : Int) : Magnitude :=
  if 0 ≤ k then ⟨Nat.pow 10 k.toNat, 1⟩ else ⟨1, Nat.pow 10 (-k).toNat⟩

/-- Is `10 ^ k` at most the fraction `m`? -/
def Magnitude.reaches (m : Magnitude) (k : Int) : Bool :=
  let t := powerOfTen k
  decide (t.numerator * m.denominator ≤ m.numerator * t.denominator)

/-- The exponent of the leading decimal digit of a nonzero fraction.  The guess from
    the binary length is off by at most one. -/
def Magnitude.leading (m : Magnitude) : Int :=
  let guess := ((m.numerator.log2 : Int) - m.denominator.log2) * 30103 / 100000
  if m.reaches (guess + 1) then guess + 1
  else if m.reaches guess then guess
  else guess - 1

/-- The neighbours of a double on the grid `10 ^ k` that read back as the double: the
    nearer one, if any.  `unit` is the size of a quarter of the last place. -/
def onGrid (i : Interval) (unit : Magnitude) (k : Int) : Option Decimal :=
  let t := powerOfTen k
  -- A grid point `g` is `g * n / d` quarters of the last place.
  let n := t.numerator * unit.denominator
  let d := t.denominator * unit.numerator
  let below := i.middle * d / n
  let fits (g : Nat) : Bool := i.holds (g * n) d
  let lower := fits below
  let upper := fits (below + 1)
  let upperNearer := decide ((below + 1) * n - i.middle * d ≤ i.middle * d - below * n)
  if upper && (upperNearer || !lower) then some ⟨below + 1, k⟩
  else if lower then some ⟨below, k⟩
  else none

/-- The first hit on the last `count` of the eighteen grids from `10 ^ (leading + 1)` down
    to `10 ^ (leading - 16)`.  The coarsest one is for a double just below a power of ten
    that rounds up to it; on the finest one seventeen digits always suffice. -/
def firstHit (i : Interval) (unit : Magnitude) (leading : Int) : Nat → Option Decimal
  | 0 => none
  | count + 1 =>
    (onGrid i unit (leading - (17 - (count + 1) : Int))).or (firstHit i unit leading count)

/-- The shortest decimal that reads back as the absolute value of `x`, if `x` is finite. -/
def shortest? (x : Float) : Option Decimal := do
  let p ← parts? x
  if p.significand = 0 then return ⟨0, 0⟩
  let m := scaled p.significand p.exponent
  firstHit p.interval (scaled 1 (p.exponent - 2)) m.leading 18

/-! ### Written forms -/

/-- `digits * 10 ^ exponent` in positional notation. -/
def Decimal.positional (d : Decimal) : String :=
  let text := toString d.digits
  if 0 ≤ d.exponent then text ++ "".pushn '0' d.exponent.toNat
  else
    let places := (-d.exponent).toNat
    let cs := ("".pushn '0' (places + 1 - text.length) ++ text).toList
    String.ofList (cs.take (cs.length - places)) ++ "." ++
      String.ofList (cs.drop (cs.length - places))

/-- The fewest digits that read back, never with an exponent: `100`, `0.1`, `-0`, `inf`. -/
def plain (x : Float) : String :=
  match shortest? x with
  | none => if x.isNaN then "NaN" else if isNegative x then "-inf" else "inf"
  | some d => if isNegative x then "-" ++ d.positional else d.positional

/-- The fewest digits that read back, with a decimal point or an exponent always there:
    positional from `0.00001` up to sixteen digits before the point, and otherwise one
    digit, the point, the others and the exponent.  Only finite numbers have one. -/
def compact? (x : Float) : Option String := do
  let d ← shortest? x
  let text := toString d.digits
  let point : Int := text.length + d.exponent
  let body :=
    if d.digits = 0 then "0.0"
    else if 0 ≤ d.exponent ∧ point ≤ 16 then d.positional ++ ".0"
    else if -5 < point ∧ point ≤ 16 then d.positional
    else
      let mantissa := match text.toList with
        | first :: c :: rest => String.ofList (first :: '.' :: c :: rest)
        | short => String.ofList short
      mantissa ++ "e" ++ toString (point - 1)
  return if isNegative x then "-" ++ body else body

end Binary64

end ActionPriority
