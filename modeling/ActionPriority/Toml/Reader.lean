import ActionPriority.Toml.Lexer
import ActionPriority.Toml.Scalar

/-! # Reading Settings Documents

    Tokens are read from left to right, one statement to a line.  Only arrays and tables in
    braces may go over several lines, wherever a blank may stand in them except within a
    key.  A reader gives what it has read and the tokens that
    are left.
-/

namespace ActionPriority

namespace Toml

/-! ### Between tokens -/

/-- The tokens behind a blank. -/
def skipBlank : List Token → List Token
  | .blank _ :: rest => rest
  | rest => rest

/-- The tokens behind blanks and line ends. -/
def skipGaps : List Token → List Token
  | .blank _ :: rest => skipGaps rest
  | .newline :: rest => skipGaps rest
  | rest => rest

/-- The tokens behind the end of a line. -/
def lineEnd? (tokens : List Token) : Option (List Token) :=
  match skipBlank tokens with
  | [] => some []
  | .newline :: rest => some rest
  | _ => none

/-! ### Keys -/

/-- May the character stand in a key without quotes? -/
def isKeyChar (c : Char) : Bool := c.isAlphanum || c = '_' || c = '-'

/-- One part of a key. -/
def keyPart? : Token → Option String
  | .run chars => if chars.all isKeyChar then some (String.ofList chars) else none
  | .text false value => some value
  | _ => none

/-- How deep arrays and tables in braces may be nested, and how many parts a key may have. -/
def depthLimit : Nat := 80

/-- A key of so many parts at most, as the path to its last part and that part.  Blanks may
    stand around its points. -/
def keyWithin? (limit : Nat) (tokens : List Token) :
    Option ((List String × String) × List Token) :=
  match limit, skipBlank tokens with
  | limit + 1, part :: rest => do
    let name ← keyPart? part
    match skipBlank rest with
    | .point :: rest =>
      let ((path, last), rest) ← keyWithin? limit rest
      return ((name :: path, last), rest)
    | rest => return (([], name), rest)
  | _, _ => none

/-- A key and the tokens behind it. -/
def key? (tokens : List Token) : Option ((List String × String) × List Token) :=
  keyWithin? depthLimit tokens

/-! ### Values -/

/-- The characters up to the next token that is neither a run nor a point, and the tokens from
    there on. -/
def joined : List Token → List Char × List Token
  | .run chars :: rest => let (more, rest) := joined rest; (chars ++ more, rest)
  | .point :: rest => let (more, rest) := joined rest; ('.' :: more, rest)
  | rest => ([], rest)

/-- The characters of a value without quotes, and the tokens behind it.  A single blank may
    stand between a date and a time. -/
def bare (tokens : List Token) : List Char × List Token :=
  let (chars, rest) := joined tokens
  match isDate chars, rest with
  | true, .blank [' '] :: .run (c :: more) :: rest =>
    if c.isDigit then
      let (time, rest) := joined (.run (c :: more) :: rest)
      (chars ++ ' ' :: time, rest)
    else (chars, .blank [' '] :: .run (c :: more) :: rest)
  | _, rest => (chars, rest)

mutual

/-- A value that may hold others `depth` levels deep. -/
def value? (steps depth : Nat) (tokens : List Token) : Option (Toml × List Token) :=
  match steps with
  | 0 => none
  | steps + 1 =>
    match depth, tokens with
    | _, .text _ value :: rest => some (.string value, rest)
    | depth + 1, .openSquare :: rest => items? steps depth [] rest
    | depth + 1, .openBrace :: rest => fields? steps depth [] rest
    | _, tokens =>
      let (chars, rest) := bare tokens
      (scalar? chars).map fun value => (value, rest)

/-- The rest of an array behind the items that are done, which stand in reverse. -/
def items? (steps depth : Nat) (done : List Toml) (tokens : List Token) :
    Option (Toml × List Token) :=
  match steps with
  | 0 => none
  | steps + 1 =>
    match skipGaps tokens with
    | .closeSquare :: rest => some (.array done.reverse, rest)
    | tokens => do
      let (item, rest) ← value? steps depth tokens
      match skipGaps rest with
      | .comma :: rest => items? steps depth (item :: done) rest
      | .closeSquare :: rest => some (.array (item :: done).reverse, rest)
      | _ => none

/-- The rest of a table in braces behind the fields that are done. -/
def fields? (steps depth : Nat) (done : Fields) (tokens : List Token) :
    Option (Toml × List Token) :=
  match steps with
  | 0 => none
  | steps + 1 =>
    match skipGaps tokens with
    | .closeBrace :: rest => some (.table .inline done, rest)
    | tokens => do
      let ((path, key), rest) ← key? tokens
      match skipGaps rest with
      | .equals :: rest =>
        let (value, rest) ← value? steps depth (skipGaps rest)
        let done ← done.assign? path key value
        match skipGaps rest with
        | .comma :: rest => fields? steps depth done rest
        | .closeBrace :: rest => some (.table .inline done, rest)
        | _ => none
      | _ => none

end

/-! ### Statements -/

/-- A header between its brackets, and the tokens behind it. -/
def header? (tokens : List Token) : Option (Statement × List Token) :=
  match tokens with
  | .openSquare :: .openSquare :: rest => do
    let ((path, key), rest) ← key? rest
    match rest with
    | .closeSquare :: .closeSquare :: rest => return (.oneMore path key, rest)
    | _ => none
  | .openSquare :: rest => do
    let ((path, key), rest) ← key? rest
    match rest with
    | .closeSquare :: rest => return (.table path key, rest)
    | _ => none
  | _ => none

/-- A key and its value, and the tokens behind them. -/
def assignment? (tokens : List Token) : Option (Statement × List Token) := do
  let ((path, key), rest) ← key? tokens
  match rest with
  | .equals :: rest =>
    let (value, rest) ← value? (2 * rest.length + 1) depthLimit (skipBlank rest)
    return (.assign path key value, rest)
  | _ => none

/-- The statements of a document behind those that are done.  Each step uses up a token at
    least. -/
def statements? (steps : Nat) (done : List Statement) (tokens : List Token) :
    Option (List Statement) :=
  match steps, skipBlank tokens with
  | _, [] => some done.reverse
  | steps + 1, .newline :: rest => statements? steps done rest
  | steps + 1, .openSquare :: rest => do
    let (s, rest) ← header? (.openSquare :: rest)
    statements? steps (s :: done) (← lineEnd? rest)
  | steps + 1, tokens => do
    let (s, rest) ← assignment? tokens
    statements? steps (s :: done) (← lineEnd? rest)
  | 0, _ => none

/-- Reads the fields of a document. -/
def read? (document : String) : Option Fields := do
  let tokens ← tokens? document
  fieldsOf? (← statements? tokens.length [] tokens)

end Toml

end ActionPriority
