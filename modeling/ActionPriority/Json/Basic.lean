import ActionPriority.Binary64.Literal
import ActionPriority.Binary64.Shortest

/-! # JSON Values

    Documents in JavaScript Object Notation.  Numbers keep the text in which they are
    written, because a whole number and a fraction are told apart by it, and because it
    has more digits than any one type of numbers.
-/

namespace ActionPriority

/-- A JSON document. -/
inductive Json where
  | null
  | bool (value : Bool)
  | number (numeral : String)
  | string (value : String)
  | array (items : List Json)
  | object (fields : List (String × Json))
  deriving Inhabited

namespace Json

/-! ### Making documents -/

/-- A whole number. -/
def ofInt (n : Int) : Json := .number (toString n)

/-- A whole number that is not negative. -/
def ofNat (n : Nat) : Json := .number (toString n)

/-- A float with the fewest digits that read back.  What is not finite has no number. -/
def ofFloat (x : Float) : Json :=
  match Binary64.compact? x with
  | some numeral => .number numeral
  | none => .null

/-- What `f` makes of a value, and null without one. -/
def ofOption {α : Type} (f : α → Json) : Option α → Json
  | some a => f a
  | none => .null

/-- An array of texts. -/
def ofTexts (texts : List String) : Json := .array (texts.map .string)

/-! ### Looking at documents -/

/-- The value of a field. -/
def get? (j : Json) (name : String) : Option Json :=
  match j with
  | .object fields => fields.lookup name
  | _ => none

/-- The flag that the document is. -/
def bool? : Json → Option Bool
  | .bool value => some value
  | _ => none

/-- The text that the document is. -/
def text? : Json → Option String
  | .string value => some value
  | _ => none

/-- The items of an array. -/
def array? : Json → Option (List Json)
  | .array items => some items
  | _ => none

/-- A whole number.  A number with a point, with an exponent, or with the sign of negative
    zero is none. -/
def int? : Json → Option Int
  | .number numeral => if numeral = "-0" then none else numeral.toInt?
  | _ => none

/-- A whole number from `low` to `high`. -/
def intIn? (low high : Int) (j : Json) : Option Int := j.int?.filter fun n => low ≤ n ∧ n ≤ high

/-- A whole number of so many bits. -/
def nat? (bits : Nat) (j : Json) : Option Nat := (j.intIn? 0 (Nat.pow 2 bits - 1)).map Int.toNat

/-- A whole number of 32 bits, one of them for the sign. -/
def int32? (j : Json) : Option Int32 := (j.intIn? (-2147483648) 2147483647).map Int32.ofInt

/-- A whole number of 8 bits. -/
def uint8? (j : Json) : Option UInt8 := (j.nat? 8).map UInt8.ofNat

/-- A number as a float. -/
def float? : Json → Option Float
  | .number numeral => Binary64.read? numeral.toList
  | _ => none

/-- The items of an array, each as `read` takes it. -/
def list? {α : Type} (read : Json → Option α) (j : Json) : Option (List α) :=
  j.array?.bind (·.mapM read)

/-- What `read` takes, or null for nothing. -/
def option? {α : Type} (read : Json → Option α) : Json → Option (Option α)
  | .null => some none
  | j => (read j).map some

end Json

end ActionPriority
