import ActionPriority.Ron.Basic
import ActionPriority.Text.Identifier
import ActionPriority.Uuid

/-! # Tokens of the Object Notation

    A text is cut into brackets, separators, names, numbers, texts and characters.  Blanks
    and comments separate tokens and are left out.
-/

namespace ActionPriority

namespace Ron

/-- The kinds of brackets. -/
inductive Bracket where
  | paren
  | square
  | curly
  deriving DecidableEq, Repr

/-- The smallest parts of a document. -/
inductive Token where
  /-- An opening bracket, with everything behind it. -/
  | opening (kind : Bracket) (inside : List Char)
  | closing (kind : Bracket)
  | comma
  | colon
  /-- A sign that only attributes have. -/
  | mark (c : Char)
  | word (name : Name)
  /-- A document without parts. -/
  | leaf (value : Ron)

/-! ### Characters -/

/-- Is this a blank? -/
def isBlank (c : Char) : Bool :=
  [0x20, 0x09, 0x0a, 0x0d, 0x0b, 0x0c, 0x85, 0x200e, 0x200f, 0x2028, 0x2029].contains c.toNat

/-- May a name begin with the character? -/
def isNameStart (c : Char) : Bool := c = '_' || Text.isNameStart c

/-- May the character be part of a raw name, or of a number? -/
def isRunChar (c : Char) : Bool := Text.isNameContinue c || c = '.' || c = '+' || c = '-'

/-- May a number begin with the character? -/
def isNumberStart (c : Char) : Bool := c.isDigit || c = '.' || c = '+' || c = '-'

/-! ### Blanks and comments -/

/-- What follows a comment that is nested so deep, which may hold further ones. -/
def afterComment? : Nat → List Char → Option (List Char)
  | 0, cs => some cs
  | level + 1, '/' :: '*' :: rest => afterComment? (level + 2) rest
  | level + 1, '*' :: '/' :: rest => afterComment? level rest
  | level + 1, _ :: rest => afterComment? (level + 1) rest
  | _ + 1, [] => none

/-- What follows blanks and comments, of which there may be none.  A slash has to begin a
    comment.  Each step uses up a character at least. -/
def afterGap? (steps : Nat) (cs : List Char) : Option (List Char) :=
  match steps, cs with
  | steps + 1, '/' :: '/' :: rest => afterGap? steps (rest.dropWhile (· ≠ '\n'))
  | steps + 1, '/' :: '*' :: rest => (afterComment? 1 rest).bind (afterGap? steps)
  | _, '/' :: _ => none
  | steps + 1, c :: rest => if isBlank c then afterGap? steps rest else some (c :: rest)
  | _, cs => some cs

/-! ### Escapes -/

/-- The byte of two hexadecimal digits at the start, and what follows them. -/
def hexByte? : List Char → Option (UInt8 × List Char)
  | a :: b :: rest => do
    return (UInt8.ofNat (16 * (← Uuid.hexValue? a) + (← Uuid.hexValue? b)), rest)
  | _ => none

/-- So many bytes, each written `\xHH`, and what follows them. -/
def hexBytes? : Nat → List Char → Option (List UInt8 × List Char)
  | 0, cs => some ([], cs)
  | n + 1, '\\' :: 'x' :: rest => do
    let (b, rest) ← hexByte? rest
    let (bs, rest) ← hexBytes? n rest
    return (b :: bs, rest)
  | _ + 1, _ => none

/-- The bytes that follow a byte in the encoding of one character. -/
def continuation (b : UInt8) : Nat :=
  if b < 0x80 then 0 else if b < 0xe0 then 1 else if b < 0xf0 then 2 else 3

/-- The character that some bytes encode. -/
def charOfBytes? (bytes : List UInt8) : Option Char :=
  match (String.fromUTF8? ⟨bytes.toArray⟩).map String.toList with
  | some [c] => some c
  | _ => none

/-- The digits up to a closing brace, six at most, as a code point, and what follows. -/
def codePoint? (cs : List Char) : Option (Char × List Char) := do
  let digits := cs.takeWhile (· ≠ '\x7d')
  guard (1 ≤ digits.length ∧ digits.length ≤ 6)
  let values ← digits.mapM Uuid.hexValue?
  let n := values.foldl (fun acc d => 16 * acc + d) 0
  guard (n.isValidChar ∧ digits.length < cs.length)
  return (Char.ofNat n, cs.drop (digits.length + 1))

/-- The character of an escape after its backslash, and what follows it.  In a text, one
    character may be written as several bytes. -/
def escape? (inText : Bool) : List Char → Option (Char × List Char)
  | '\'' :: rest => some ('\'', rest)
  | '"' :: rest => some ('"', rest)
  | '\\' :: rest => some ('\\', rest)
  | 'n' :: rest => some ('\n', rest)
  | 'r' :: rest => some ('\r', rest)
  | 't' :: rest => some ('\t', rest)
  | '0' :: rest => some ('\x00', rest)
  | 'x' :: rest => do
    let (b, rest) ← hexByte? rest
    let (bs, rest) ← hexBytes? (if inText then continuation b else 0) rest
    return (← charOfBytes? (b :: bs), rest)
  | 'u' :: '\x7b' :: rest => codePoint? rest
  | _ => none

/-- The character of an escape in a byte text, where two hexadecimal digits are any byte. -/
def byteEscape? : List Char → Option (Char × List Char)
  | 'x' :: rest => (hexByte? rest).map fun (b, rest) => (Char.ofNat b.toNat, rest)
  | cs => escape? false cs

/-- The escaped byte of a byte character, which is never written as a code point. -/
def oneByteEscape? : List Char → Option (Char × List Char)
  | 'u' :: _ => none
  | cs => byteEscape? cs

/-! ### Texts -/

/-- The rest of a text after its opening quote, and what follows the closing one.  Each step
    uses up a character at least. -/
def textBody? (escape : List Char → Option (Char × List Char)) (steps : Nat) (done : List Char)
    (cs : List Char) : Option (String × List Char) :=
  match steps, cs with
  | _, '"' :: rest => some (String.ofList done.reverse, rest)
  | steps + 1, '\\' :: rest =>
    match escape rest with
    | some (c, rest) => textBody? escape steps (c :: done) rest
    | none => none
  | steps + 1, c :: rest => textBody? escape steps (c :: done) rest
  | _, _ => none

/-- A text in quotes, whose opening quote comes first, and what follows it. -/
def quoted? (escape : List Char → Option (Char × List Char)) :
    List Char → Option (String × List Char)
  | '"' :: rest => textBody? escape rest.length [] rest
  | _ => none

/-- The rest of a raw text after its opening quote, up to a quote with `hashes` hashes behind
    it, and what follows those. -/
def rawBody? (hashes : Nat) (done : List Char) : List Char → Option (String × List Char)
  | [] => none
  | c :: rest =>
    if c = '"' ∧ rest.take hashes = List.replicate hashes '#' then
      some (String.ofList done.reverse, rest.drop hashes)
    else rawBody? hashes (c :: done) rest

/-- A raw text, whose hashes come first, and what follows it. -/
def rawText? (cs : List Char) : Option (String × List Char) :=
  let hashes := (cs.takeWhile (· = '#')).length
  match cs.drop hashes with
  | '"' :: rest => rawBody? hashes [] rest
  | _ => none

/-- A character after its opening quote, and what follows the closing one. -/
def character? (escape : List Char → Option (Char × List Char)) :
    List Char → Option (Char × List Char)
  | '\\' :: rest =>
    match escape rest with
    | some (c, '\'' :: rest) => some (c, rest)
    | _ => none
  | c :: '\'' :: rest => some (c, rest)
  | _ => none

/-! ### Names and numbers -/

/-- The name at the start of a text, and what follows it.  A name that only a raw one could
    be is refused; but `Some` may have a number right behind it. -/
def name? (cs : List Char) : Option (Name × List Char) :=
  let name := String.ofList (cs.takeWhile Text.isNameContinue)
  let rest := cs.dropWhile Text.isNameContinue
  if name = "Some" ∨ !rest.head?.any isRunChar then some (⟨name, false⟩, rest) else none

/-- The token of which `c` is the first character and that is no bracket, no separator and no
    text of its own kind, and what follows it. -/
def runToken? (c : Char) (rest : List Char) : Option (Token × List Char) :=
  if isNumberStart c then
    some (.leaf (.number ((c :: rest).takeWhile isRunChar)), (c :: rest).dropWhile isRunChar)
  else if isNameStart c then (name? (c :: rest)).map fun (name, rest) => (.word name, rest)
  else none

/-- A token that begins with a letter which may announce a text, and what follows it. -/
def letterToken? (c : Char) (rest : List Char) : Option (Token × List Char) :=
  match c, rest with
  | 'r', '"' :: _ => (rawText? rest).map fun (s, rest) => (.leaf (.string s), rest)
  | 'r', '#' :: more =>
    match more with
    | d :: _ =>
      if isRunChar d then
        some (.word ⟨String.ofList (more.takeWhile isRunChar), true⟩, more.dropWhile isRunChar)
      else (rawText? rest).map fun (s, rest) => (.leaf (.string s), rest)
    | [] => none
  | 'b', '"' :: _ => (quoted? byteEscape? rest).map fun (s, rest) => (.leaf (.bytes s), rest)
  | 'b', '\'' :: more =>
    match character? oneByteEscape? more with
    | some (d, rest) =>
      let limit := if more.head? = some '\\' then 256 else 128
      if d.toNat < limit then some (.leaf (.byte (UInt8.ofNat d.toNat)), rest) else none
    | none => none
  | 'b', 'r' :: '"' :: more =>
    (rawText? ('"' :: more)).map fun (s, rest) => (.leaf (.bytes s), rest)
  | 'b', 'r' :: '#' :: more =>
    (rawText? ('#' :: more)).map fun (s, rest) => (.leaf (.bytes s), rest)
  | _, _ => runToken? c rest

/-- The token that a character is by itself, if `rest` follows it. -/
def single? (rest : List Char) : Char → Option Token
  | '(' => some (.opening .paren rest)
  | ')' => some (.closing .paren)
  | '[' => some (.opening .square rest)
  | ']' => some (.closing .square)
  | '{' => some (.opening .curly rest)
  | '}' => some (.closing .curly)
  | ',' => some .comma
  | ':' => some .colon
  | '#' => some (.mark '#')
  | '!' => some (.mark '!')
  | _ => none

/-- The first token of a text that begins with neither a blank nor a comment, and what
    follows it. -/
def token? (c : Char) (rest : List Char) : Option (Token × List Char) :=
  match c, rest with
  | '(', ')' :: rest => some (.leaf .unit, rest)
  | '"', rest => (quoted? (escape? true) ('"' :: rest)).map fun (s, rest) => (.leaf (.string s), rest)
  | '\'', rest => (character? (escape? false) rest).map fun (d, rest) => (.leaf (.char d), rest)
  | c, rest =>
    match single? rest c with
    | some t => some (t, rest)
    | none => letterToken? c rest

/-! ### All tokens -/

/-- The tokens of a text behind those that are done.  Each step uses up a character at least. -/
def tokensFrom? (steps : Nat) (done : List Token) (cs : List Char) : Option (List Token) :=
  match steps, afterGap? steps cs with
  | _, some [] => some done.reverse
  | steps + 1, some (c :: rest) =>
    match token? c rest with
    | some (t, rest) => tokensFrom? steps (t :: done) rest
    | none => none
  | _, _ => none

/-- The tokens of a text. -/
def tokens? (text : String) : Option (List Token) :=
  let cs := text.toList
  tokensFrom? cs.length [] cs

end Ron

end ActionPriority
