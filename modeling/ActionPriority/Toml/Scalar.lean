import ActionPriority.Binary64.Literal
import ActionPriority.Toml.Basic
import ActionPriority.Uuid

/-! # Numbers, Flags and Dates in Settings Documents

    What a run of characters in the place of a value stands for.  Digits may have single
    underscores between them, a decimal number does not begin with a zero unless that is
    all of it, and a number that is out of range is none at all.
-/

namespace ActionPriority

namespace Toml

/-! ### Digits -/

/-- Digits without the underscores, each of which has a digit on either side. -/
def digits? (isDigit : Char → Bool) : List Char → Option (List Char)
  | [] => none
  | [c] => if isDigit c then some [c] else none
  | c :: '_' :: rest => if isDigit c then (digits? isDigit rest).map (c :: ·) else none
  | c :: rest => if isDigit c then (digits? isDigit rest).map (c :: ·) else none

/-- Decimal digits that do not begin with a zero, except for zero itself. -/
def whole? (cs : List Char) : Option (List Char) :=
  (digits? Char.isDigit cs).filter fun digits => digits.head? ≠ some '0' ∨ digits.length = 1

/-- The sign at the start, and what follows it. -/
def signOf : List Char → List Char × List Char
  | '+' :: rest => (['+'], rest)
  | '-' :: rest => (['-'], rest)
  | rest => ([], rest)

/-! ### Integers -/

/-- The number of a prefix for a base and digits of that base. -/
def based? (base : Nat) (cs : List Char) : Option Nat := do
  let digits ← digits? (fun c => (Uuid.hexValue? c).any (· < base)) cs
  let values ← digits.mapM Uuid.hexValue?
  return values.foldl (fun acc d => base * acc + d) 0

/-- An integer: decimal with or without a sign, or in another base without one. -/
def integer? (cs : List Char) : Option Int := do
  let value : Int ← match cs with
    | '0' :: 'x' :: digits => (based? 16 digits).map Int.ofNat
    | '0' :: 'o' :: digits => (based? 8 digits).map Int.ofNat
    | '0' :: 'b' :: digits => (based? 2 digits).map Int.ofNat
    | cs =>
      let (sign, digits) := signOf cs
      (whole? digits).map fun digits =>
        let n : Int := Binary64.digitsValue digits
        if sign = ['-'] then -n else n
  guard (-Nat.pow 2 127 ≤ value ∧ value < Nat.pow 2 128)
  return value

/-! ### Floats -/

/-- The digits of the exponent behind its mark, with the sign. -/
def exponent? (cs : List Char) : Option (List Char) :=
  let (sign, digits) := signOf cs
  (digits? Char.isDigit digits).map (sign ++ ·)

/-- A float with a fraction, an exponent, or both, without its underscores. -/
def decimal? (cs : List Char) : Option (List Char) := do
  let isMark (c : Char) : Bool := c = 'e' || c = 'E'
  let (sign, body) := signOf cs
  let mantissa := body.takeWhile (!isMark ·)
  let whole ← whole? (mantissa.takeWhile (· ≠ '.'))
  let fraction ← match mantissa.dropWhile (· ≠ '.') with
    | [] => some []
    | _ :: digits => (digits? Char.isDigit digits).map ('.' :: ·)
  let exponent ← match body.dropWhile (!isMark ·) with
    | [] => some []
    | _ :: digits => (exponent? digits).map ('e' :: ·)
  guard (!(fraction.isEmpty && exponent.isEmpty))
  return sign ++ whole ++ fraction ++ exponent

/-- A float.  Infinity has to be called by name. -/
def float? (cs : List Char) : Option Float :=
  let (sign, body) := signOf cs
  if body = ['i', 'n', 'f'] then some (if sign = ['-'] then -1.0 / 0.0 else 1.0 / 0.0)
  else if body = ['n', 'a', 'n'] then some (0.0 / 0.0)
  else (decimal? cs).bind fun digits => (Binary64.read? digits).filter Float.isFinite

/-! ### Dates and times -/

/-- The number that exactly so many digits at the start stand for, and what follows them. -/
def digitsOf? (count : Nat) (cs : List Char) : Option (Nat × List Char) :=
  let digits := cs.take count
  if digits.length = count ∧ digits.all Char.isDigit then
    some (Binary64.digitsValue digits, cs.drop count)
  else none

/-- What follows a character that has to come first. -/
def after? (c : Char) : List Char → Option (List Char)
  | d :: rest => if c = d then some rest else none
  | [] => none

/-- How many days a month has. -/
def daysOf (year month : Nat) : Nat :=
  if month = 2 then
    if year % 4 = 0 ∧ (year % 100 ≠ 0 ∨ year % 400 = 0) then 29 else 28
  else if [4, 6, 9, 11].contains month then 30 else 31

/-- What follows a date. -/
def afterDate? (cs : List Char) : Option (List Char) := do
  let (year, rest) ← digitsOf? 4 cs
  let (month, rest) ← digitsOf? 2 (← after? '-' rest)
  let (day, rest) ← digitsOf? 2 (← after? '-' rest)
  guard (1 ≤ month ∧ month ≤ 12 ∧ 1 ≤ day ∧ day ≤ daysOf year month)
  return rest

/-- What follows hours and minutes. -/
def afterMinutes? (cs : List Char) : Option (List Char) := do
  let (hour, rest) ← digitsOf? 2 cs
  let (minute, rest) ← digitsOf? 2 (← after? ':' rest)
  guard (hour ≤ 23 ∧ minute ≤ 59)
  return rest

/-- What follows a time of day.  Seconds may be left out, and may have a fraction. -/
def afterTime? (cs : List Char) : Option (List Char) := do
  let rest ← afterMinutes? cs
  match rest with
  | ':' :: rest =>
    let (second, rest) ← digitsOf? 2 rest
    guard (second ≤ 60)
    match rest with
    | '.' :: rest =>
      guard (rest.head?.any Char.isDigit)
      return rest.dropWhile Char.isDigit
    | rest => return rest
  | rest => return rest

/-- What follows an offset from universal time, if there is one. -/
def afterOffset? : List Char → Option (List Char)
  | 'Z' :: rest => some rest
  | 'z' :: rest => some rest
  | '+' :: rest => afterMinutes? rest
  | '-' :: rest => afterMinutes? rest
  | rest => some rest

/-- Is this a date, a time of day, or a date and a time with or without an offset? -/
def isDateTime (cs : List Char) : Bool :=
  match afterDate? cs with
  | some [] => true
  | some (c :: rest) =>
    ['T', 't', ' '].contains c && ((afterTime? rest).bind afterOffset?) = some []
  | none => afterTime? cs = some []

/-- Does a date come to its end here, so that a time may follow behind a blank? -/
def isDate (cs : List Char) : Bool := afterDate? cs = some []

/-! ### Any value -/

/-- The value that a run of characters stands for. -/
def scalar? (cs : List Char) : Option Toml :=
  if cs = ['t', 'r', 'u', 'e'] then some (.boolean true)
  else if cs = ['f', 'a', 'l', 's', 'e'] then some (.boolean false)
  else if isDateTime cs then some (.dateTime (String.ofList cs))
  else ((integer? cs).map .integer).or ((float? cs).map .float)

end Toml

end ActionPriority
