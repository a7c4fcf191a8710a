import ActionPriority.Json.Basic
import ActionPriority.Uuid

/-! # Reading JSON

    Text is cut into tokens, and the tokens are put together from left to right: the
    containers that are still open wait on a stack, innermost first.  When a field is
    given twice the later value counts.
-/

namespace ActionPriority

namespace Json

/-! ### Tokens -/

/-- The smallest parts of a document. -/
inductive Token where
  | beginArray
  | endArray
  | beginObject
  | endObject
  | comma
  | colon
  /-- A document without parts. -/
  | leaf (value : Json)

/-- The value of four hexadecimal digits at the start, and what follows them. -/
def hexUnit? (cs : List Char) : Option (Nat × List Char) := do
  guard (4 ≤ cs.length)
  let digits ← (cs.take 4).mapM Uuid.hexValue?
  return (digits.foldl (fun acc d => 16 * acc + d) 0, cs.drop 4)

/-- Is this the first half of a pair that stands for one character? -/
def isHighHalf (n : Nat) : Bool := 0xD800 ≤ n && n < 0xDC00

/-- Is this the second half? -/
def isLowHalf (n : Nat) : Bool := 0xDC00 ≤ n && n < 0xE000

/-- The character of an escape in digits, whose digits come first in the text, and what
    follows it.  Two halves have to come together. -/
def escapedUnit? (cs : List Char) : Option (Char × List Char) := do
  let (n, rest) ← hexUnit? cs
  if isHighHalf n then
    match rest with
    | '\\' :: 'u' :: more =>
      let (m, rest) ← hexUnit? more
      guard (isLowHalf m)
      return (Char.ofNat (0x10000 + (n - 0xD800) * 0x400 + (m - 0xDC00)), rest)
    | _ => none
  else if isLowHalf n then none
  else return (Char.ofNat n, rest)

/-- The character that stands for another after a backslash. -/
def escape? : Char → Option Char
  | '"' => some '"'
  | '\\' => some '\\'
  | '/' => some '/'
  | 'b' => some '\x08'
  | 'f' => some '\x0c'
  | 'n' => some '\n'
  | 'r' => some '\r'
  | 't' => some '\t'
  | _ => none

/-- The rest of a text after its opening quote, and what follows the closing one.  Each step
    uses up a character, so that `steps` need not be more than there are. -/
def textBody? (steps : Nat) (done : List Char) (cs : List Char) : Option (String × List Char) :=
  match steps, cs with
  | _, '"' :: rest => some (String.ofList done.reverse, rest)
  | steps + 1, '\\' :: 'u' :: rest =>
    match escapedUnit? rest with
    | some (c, rest) => textBody? steps (c :: done) rest
    | none => none
  | steps + 1, '\\' :: c :: rest =>
    match escape? c with
    | some c => textBody? steps (c :: done) rest
    | none => none
  | steps + 1, c :: rest => if c.toNat < 32 then none else textBody? steps (c :: done) rest
  | _, _ => none

/-- Does a number go on with an exponent, or end? -/
def isExponent : List Char → Bool
  | [] => true
  | c :: rest =>
    let digits := match rest with
      | '+' :: digits => digits
      | '-' :: digits => digits
      | digits => digits
    (c = 'e' || c = 'E') && !digits.isEmpty && digits.all Char.isDigit

/-- Does a number go on with a fraction, an exponent, or neither? -/
def isFraction : List Char → Bool
  | '.' :: rest =>
    !(rest.takeWhile Char.isDigit).isEmpty && isExponent (rest.dropWhile Char.isDigit)
  | rest => isExponent rest

/-- Is this the text of a number? -/
def isNumber (cs : List Char) : Bool :=
  let unsigned := match cs with
    | '-' :: rest => rest
    | rest => rest
  let whole := unsigned.takeWhile Char.isDigit
  let isWhole := match whole with
    | [] => false
    | ['0'] => true
    | '0' :: _ => false
    | _ => true
  isWhole && isFraction (unsigned.dropWhile Char.isDigit)

/-- The document of a run of letters, digits and signs. -/
def word? (cs : List Char) : Option Json :=
  match String.ofList cs with
  | "null" => some .null
  | "true" => some (.bool true)
  | "false" => some (.bool false)
  | text => if isNumber cs then some (.number text) else none

/-- Can the character be part of a number or of a name? -/
def isWordChar (c : Char) : Bool := c.isAlphanum || c = '+' || c = '-' || c = '.'

/-- Is this one of the four blanks? -/
def isBlank (c : Char) : Bool := c = ' ' || c = '\t' || c = '\n' || c = '\r'

/-- The tokens of a text.  Each step uses up a character at least. -/
def tokens? (steps : Nat) (cs : List Char) : Option (List Token) :=
  match steps, cs with
  | _, [] => some []
  | 0, _ => none
  | steps + 1, c :: rest =>
    let single (t : Token) := (tokens? steps rest).map (t :: ·)
    match c with
    | '[' => single .beginArray
    | ']' => single .endArray
    | '{' => single .beginObject
    | '}' => single .endObject
    | ',' => single .comma
    | ':' => single .colon
    | '"' => do
      let (text, rest) ← textBody? rest.length [] rest
      return .leaf (.string text) :: (← tokens? steps rest)
    | _ =>
      if isBlank c then tokens? steps rest
      else do
        let leaf ← word? ((c :: rest).takeWhile isWordChar)
        return .leaf leaf :: (← tokens? steps (rest.dropWhile isWordChar))

/-! ### Putting tokens together -/

/-- A container that has been opened and not yet closed.  Its parts stand in reverse. -/
inductive Frame where
  | array (items : List Json)
  | object (fields : List (String × Json))
  /-- An object that waits for the value of its last field. -/
  | field (fields : List (String × Json)) (name : String)

/-- What may come next. -/
inductive Expected where
  | value
  /-- A value or the end of an array that has no items yet. -/
  | firstItem
  | name
  /-- A name or the end of an object that has no fields yet. -/
  | firstName
  | colon
  /-- A comma or the end of the innermost container. -/
  | separator
  | nothing
  deriving DecidableEq

/-- A document on its way: the open containers, what may come next, and the document once it
    is complete. -/
structure Partial where
  frames : List Frame
  expected : Expected
  result : Option Json

/-- The fields with one set, wherever it was before. -/
def setField (fields : List (String × Json)) (name : String) (value : Json) :
    List (String × Json) :=
  (name, value) :: fields.filter (·.1 ≠ name)

/-- Hands a complete document to the innermost container. -/
def deliver (frames : List Frame) (value : Json) : Option Partial :=
  match frames with
  | [] => some ⟨[], .nothing, some value⟩
  | .array items :: outer => some ⟨.array (value :: items) :: outer, .separator, none⟩
  | .field fields name :: outer =>
    some ⟨.object (setField fields name value) :: outer, .separator, none⟩
  | .object _ :: _ => none

/-- Takes one more token. -/
def Partial.step (p : Partial) (t : Token) : Option Partial :=
  let atValue := p.expected = .value || p.expected = .firstItem
  match t, p.frames with
  | .comma, .array _ :: _ =>
    if p.expected = .separator then some { p with expected := .value } else none
  | .comma, .object _ :: _ =>
    if p.expected = .separator then some { p with expected := .name } else none
  | .endArray, .array items :: outer =>
    if p.expected = .separator || p.expected = .firstItem then deliver outer (.array items.reverse)
    else none
  | .endObject, .object fields :: outer =>
    if p.expected = .separator || p.expected = .firstName then
      deliver outer (.object fields.reverse)
    else none
  | .colon, .field _ _ :: _ =>
    if p.expected = .colon then some { p with expected := .value } else none
  | .beginArray, frames =>
    if atValue then some ⟨.array [] :: frames, .firstItem, none⟩ else none
  | .beginObject, frames =>
    if atValue then some ⟨.object [] :: frames, .firstName, none⟩ else none
  | .leaf (.string name), .object fields :: outer =>
    if p.expected = .name || p.expected = .firstName then
      some ⟨.field fields name :: outer, .colon, none⟩
    else none
  | .leaf value, frames => if atValue then deliver frames value else none
  | _, _ => none

/-- Reads a document. -/
def read? (text : String) : Option Json := do
  let tokens ← tokens? text.length text.toList
  let p ← tokens.foldlM Partial.step ⟨[], .value, none⟩
  p.result

end Json

end ActionPriority
