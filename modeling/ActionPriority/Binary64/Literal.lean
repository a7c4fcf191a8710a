import ActionPriority.Binary64.Basic

/-! # Float Literals

    The decimal notation of floats: an optional sign, digits with an optional point,
    and an optional exponent; or a word for infinity or for no number.

    * `Binary64.Literal` is the parsed shape of the decimal form.
    * `Binary64.ofDecimal` is the double nearest to a decimal.
    * `Binary64.read?` reads a whole text.
-/

namespace ActionPriority

namespace Binary64

/-! ### Values -/

/-- The value of a digit string, most significant digit first. -/
def digitsValue (digits : List Char) : Nat :=
  digits.foldl (fun n c => 10 * n + (c.toNat - '0'.toNat)) 0

/-- The double nearest to `digits * 10 ^ exponent`.  Beyond the range of doubles the
    power of ten is not formed: the answer is infinity or zero. -/
def ofDecimal (negative : Bool) (digits : Nat) (exponent : Int) : Float :=
  let size : Int := (toString digits).length + exponent
  let x : Float :=
    if digits = 0 ∨ size < -400 then 0.0
    else if 400 < size then 1.0 / 0.0
    else Float.ofScientific digits (exponent < 0) exponent.natAbs
  if negative then -x else x

/-! ### Reading -/

/-- Drops one leading sign; true when it was a minus. -/
def takeSign : List Char → Bool × List Char
  | '+' :: rest => (false, rest)
  | '-' :: rest => (true, rest)
  | rest => (false, rest)

/-- The exponent of a decimal literal, from after its digits to the end of the text. -/
def readExponent? : List Char → Option Int
  | [] => some 0
  | c :: rest =>
    if c = 'e' ∨ c = 'E' then
      let (negative, digits) := takeSign rest
      if digits.isEmpty || !digits.all Char.isDigit then none
      else some (if negative then -(digitsValue digits : Int) else digitsValue digits)
    else none

/-- An unsigned decimal literal: digits before or after the point, or both, and then the
    exponent.  The answer is the digits as one number, and the power of ten they count. -/
def readDecimal? (text : List Char) : Option (Nat × Int) := do
  let whole := text.takeWhile Char.isDigit
  let afterWhole := text.dropWhile Char.isDigit
  let (fraction, afterFraction) := match afterWhole with
    | '.' :: rest => (rest.takeWhile Char.isDigit, rest.dropWhile Char.isDigit)
    | rest => ([], rest)
  guard (!(whole.isEmpty && fraction.isEmpty))
  let exponent ← readExponent? afterFraction
  return (digitsValue (whole ++ fraction), exponent - fraction.length)

/-- Reads a float: `1`, `.5`, `1.`, `-2e3`, and, in any case of letters, `inf`,
    `infinity` and `nan`, each with an optional sign. -/
def read? (text : List Char) : Option Float :=
  let (negative, body) := takeSign text
  let word := String.ofList (body.map Char.toLower)
  if word = "inf" ∨ word = "infinity" then
    some (if negative then -1.0 / 0.0 else 1.0 / 0.0)
  else if word = "nan" then some (0.0 / 0.0)
  else (readDecimal? body).map fun (digits, exponent) => ofDecimal negative digits exponent

end Binary64

end ActionPriority
