/-! # Object Notation

    A document of the object notation in which scenarios and priority lists are kept
    (RON).  Documents are read without regard to what they are meant to describe: a
    number stays the run of characters that it is written with, and parentheses hold
    either items or named fields.
-/

namespace ActionPriority

namespace Ron

/-- A name as it is written: one behind `r#` is never taken for a keyword. -/
structure Name where
  text : String
  raw : Bool := false
  deriving DecidableEq, Repr

/-- What stands in front of parentheses. -/
inductive Head where
  | nothing
  | name (name : Name)
  /-- The word `Some`, and whether several items are seen behind the parenthesis; none if the
      look at them goes wrong. -/
  | some (several : Option Bool)
  deriving DecidableEq, Repr

end Ron

/-- A document. -/
inductive Ron where
  | number (chars : List Char)
  /-- A character that stands for a byte. -/
  | byte (value : UInt8)
  | word (name : Ron.Name)
  /-- A pair of parentheses with no name in front and nothing at all between them. -/
  | unit
  | string (value : String)
  /-- A text that stands for bytes. -/
  | bytes (value : String)
  | char (value : Char)
  | list (items : List Ron)
  | map (entries : List (Ron × Ron))
  /-- Parentheses around items. -/
  | tuple (head : Ron.Head) (items : List Ron)
  /-- Parentheses around named fields, of which there is one at least. -/
  | record (head : Ron.Head) (fields : List (String × Ron))
  /-- The word `Some` with a document behind it that is in no parentheses. -/
  | implied (value : Ron)
  deriving Inhabited

namespace Ron

/-- What the attributes at the head of a document may ask for. -/
structure Extensions where
  /-- A value may stand for itself, or behind a mere `Some`, where `Some(…)` is expected. -/
  implicitSome : Bool := false
  /-- The fields of a structure stand in `Some(…)` without parentheses of their own. -/
  unwrapVariants : Bool := false
  /-- Structures have to be named. -/
  explicitNames : Bool := false
  deriving DecidableEq, Repr

/-- How deep a document may be nested. -/
def depthLimit : Nat := 128

end Ron

end ActionPriority
