import ActionPriority.Binary64.Literal
import ActionPriority.Ron.Basic
import ActionPriority.Uuid

/-! # Numbers of the Object Notation

    What the run of characters of a number stands for depends on what is asked for.

    * An integer has a sign, a base given by `0b`, `0o` or `0x`, and digits with
      underscores anywhere but first.  It may name its type behind the digits.
    * A float is decimal, with underscores behind digits and exponent marks, or one of
      `inf` and `NaN`.  It may name its type too.
-/

namespace ActionPriority

namespace Ron

/-! ### Integers -/

/-- A type of integers. -/
structure IntType where
  name : String
  least : Int
  greatest : Int

namespace IntType

/-- The type of signed integers of so many bits. -/
def signed (bits : Nat) : IntType := ⟨"i" ++ toString bits, -Nat.pow 2 (bits - 1), Nat.pow 2 (bits - 1) - 1⟩

/-- The type of unsigned integers of so many bits. -/
def unsigned (bits : Nat) : IntType := ⟨"u" ++ toString bits, 0, Nat.pow 2 bits - 1⟩

/-- The types that a number may name. -/
def all : List IntType := [8, 16, 32, 64].flatMap fun bits => [signed bits, unsigned bits]

end IntType

/-- May the character be a digit of some base? -/
def isDigitChar (c : Char) : Bool := (Uuid.hexValue? c).isSome || c = '_'

/-- The value of digits with underscores. -/
def digitsIn? (base : Nat) (digits : List Char) : Option Nat := do
  guard (digits.head? ≠ some '_' ∧ digits ≠ [])
  let values ← (digits.filter (· ≠ '_')).mapM Uuid.hexValue?
  guard (values.all (· < base))
  return values.foldl (fun acc d => base * acc + d) 0

/-- The base that a number begins with, and its digits. -/
def baseOf : List Char → Nat × List Char
  | '0' :: 'b' :: digits => (2, digits)
  | '0' :: 'o' :: digits => (8, digits)
  | '0' :: 'x' :: digits => (16, digits)
  | digits => (10, digits)

/-- The sign that a number begins with, and what follows it. -/
def signOf : List Char → Bool × List Char
  | '+' :: rest => (false, rest)
  | '-' :: rest => (true, rest)
  | rest => (false, rest)

/-- The magnitude of an unsigned number and the type it names, if it names one.  A type is
    looked for only behind the first run of digits. -/
def magnitude? (cs : List Char) : Option (Nat × Option String) := do
  let behind := cs.dropWhile isDigitChar
  match behind with
  | c :: _ =>
    if c = 'i' || c = 'u' then
      let (base, digits) := baseOf (cs.takeWhile isDigitChar)
      return (← digitsIn? base digits, some (String.ofList behind))
    else
      let (base, digits) := baseOf cs
      return (← digitsIn? base digits, none)
  | [] =>
    let (base, digits) := baseOf cs
    return (← digitsIn? base digits, none)

/-- The integer that a number stands for where one of that type is asked for. -/
def integer? (type : IntType) (cs : List Char) : Option Int := do
  let (negative, rest) := signOf cs
  let (n, named) ← magnitude? rest
  let value : Int := if negative then -n else n
  guard (type.least ≤ value ∧ value ≤ type.greatest)
  guard (named = none ∨ named = some type.name)
  return value

/-! ### Floats -/

/-- May the character be part of a decimal float? -/
def isFloatChar (c : Char) : Bool :=
  c.isDigit || c = 'e' || c = 'E' || c = '.' || c = '+' || c = '-' || c = '_'

/-- A decimal float without its underscores, none of which may stand where it is not allowed. -/
def stripped? (allowed : Bool) : List Char → Option (List Char)
  | [] => some []
  | c :: rest =>
    if c = '_' then if allowed then stripped? true rest else none
    else
      let allowed := if c = '.' then false else allowed || c.isDigit || c = 'e' || c = 'E'
      (stripped? allowed rest).map (c :: ·)

/-- The float that a name stands for. -/
def namedFloat? : List Char → Option Float
  | ['i', 'n', 'f'] => some (1.0 / 0.0)
  | ['N', 'a', 'N'] => some (0.0 / 0.0)
  | _ => none

/-- The float of some characters, and the type it names. -/
def floatWith? (cs : List Char) : Option (Float × String) :=
  let (negative, rest) := signOf cs
  let name := rest.take 3
  match namedFloat? name with
  | some x => some (if negative then -x else x, String.ofList (rest.drop 3))
  | none => do
    let digits ← stripped? false (cs.takeWhile isFloatChar)
    return (← Binary64.read? digits, String.ofList (cs.dropWhile isFloatChar))

/-- The float that a number stands for. -/
def float? (cs : List Char) : Option Float := do
  let (x, type) ← floatWith? cs
  guard (type = "" ∨ type = "f64")
  return x

/-! ### Any number -/

/-- Do some characters stand for a number of any type? -/
def isNumber (cs : List Char) : Bool :=
  IntType.all.any (fun type => (integer? type cs).isSome) ||
    (floatWith? cs).any fun (_, type) => ["", "f32", "f64"].contains type

end Ron

end ActionPriority
