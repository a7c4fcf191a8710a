import ActionPriority.Toml.Basic
import ActionPriority.Uuid

/-! # Tokens of Settings Documents

    A document is cut into signs, line ends, blanks, strings, and runs of the other
    characters.  Comments are checked and left out.  Blanks stay, because a number and a
    header may not be broken up by them.

    Strings are in quotes or in apostrophes; only the former have escapes.  Tripled, they
    go over several lines, and may hold up to two of the character that closes them right
    before the end.
-/

namespace ActionPriority

namespace Toml

/-- The smallest parts of a document. -/
inductive Token where
  | equals
  | comma
  | point
  | openSquare
  | closeSquare
  | openBrace
  | closeBrace
  | newline
  | blank (chars : List Char)
  | text (multiline : Bool) (value : String)
  | run (chars : List Char)
  deriving DecidableEq, Repr

/-! ### Characters -/

/-- Is this a blank within a line? -/
def isBlank (c : Char) : Bool := c = ' ' || c = '\t'

/-- May the character stand in comments and strings? -/
def isPlain (c : Char) : Bool := c = '\t' || (32 ≤ c.toNat && c.toNat ≠ 127)

/-- Does the character end a run? -/
def endsRun (c : Char) : Bool :=
  ['.', '=', ',', '[', ']', '\x7b', '\x7d', ' ', '\t', '#', '\n'].contains c

/-- The characters with every line end as a single character. -/
def unifyLines : List Char → List Char
  | '\r' :: '\n' :: rest => '\n' :: unifyLines rest
  | c :: rest => c :: unifyLines rest
  | [] => []

/-! ### Strings -/

/-- The character of so many hexadecimal digits at the start, and what follows them. -/
def codePoint? (count : Nat) (cs : List Char) : Option (Char × List Char) := do
  let digits := cs.take count
  guard (digits.length = count)
  let values ← digits.mapM Uuid.hexValue?
  let n := values.foldl (fun acc d => 16 * acc + d) 0
  guard n.isValidChar
  return (Char.ofNat n, cs.drop count)

/-- What follows a backslash at the end of a line: blanks and line ends, of which there has
    to be one, are passed over. -/
def afterLineEnd? (cs : List Char) : Option (List Char) :=
  match cs.dropWhile isBlank with
  | '\n' :: rest => some (rest.dropWhile fun c => isBlank c || c = '\n')
  | _ => none

/-- The characters of an escape after its backslash, and what follows it. -/
def escape? (multiline : Bool) : List Char → Option (List Char × List Char)
  | 'b' :: rest => some (['\x08'], rest)
  | 't' :: rest => some (['\t'], rest)
  | 'n' :: rest => some (['\n'], rest)
  | 'f' :: rest => some (['\x0c'], rest)
  | 'r' :: rest => some (['\r'], rest)
  | 'e' :: rest => some (['\x1b'], rest)
  | '"' :: rest => some (['"'], rest)
  | '\\' :: rest => some (['\\'], rest)
  | 'x' :: rest => (codePoint? 2 rest).map fun (c, rest) => ([c], rest)
  | 'u' :: rest => (codePoint? 4 rest).map fun (c, rest) => ([c], rest)
  | 'U' :: rest => (codePoint? 8 rest).map fun (c, rest) => ([c], rest)
  | rest => if multiline then (afterLineEnd? rest).map fun rest => ([], rest) else none

/-- What closes a string, if it comes next: the characters before the end that belong to the
    string, and what follows it. -/
def closing? (quote : Char) (multiline : Bool) (cs : List Char) :
    Option (List Char × List Char) :=
  let count := (cs.takeWhile (· = quote)).length
  if multiline then
    if count < 3 then none
    else some (List.replicate (min count 5 - 3) quote, cs.drop (min count 5))
  else if count = 0 then none else some ([], cs.drop 1)

/-- The rest of a string behind the characters that are done, and what follows it.  Each step
    uses up a character at least. -/
def textBody? (quote : Char) (multiline : Bool) (steps : Nat) (done : List Char)
    (cs : List Char) : Option (String × List Char) :=
  match closing? quote multiline cs with
  | some (last, rest) => some (String.ofList (done.reverse ++ last), rest)
  | none =>
    match steps, cs with
    | steps + 1, c :: rest =>
      if c = '\\' ∧ quote = '"' then
        match escape? multiline rest with
        | some (made, rest) => textBody? quote multiline steps (made ++ done) rest
        | none => none
      else if isPlain c || (multiline && c = '\n') then
        textBody? quote multiline steps (c :: done) rest
      else none
    | _, _ => none

/-- The characters without a line end at the start. -/
def afterFirstLineEnd : List Char → List Char
  | '\n' :: rest => rest
  | cs => cs

/-- A string of which the opening character `quote` is gone, and what follows it.  A line end
    right behind three of them is no part of the string. -/
def text? (quote : Char) (cs : List Char) : Option (Token × List Char) :=
  let multiline := cs.take 2 = [quote, quote]
  let body := if multiline then afterFirstLineEnd (cs.drop 2) else cs
  (textBody? quote multiline body.length [] body).map fun (s, rest) => (.text multiline s, rest)

/-! ### All tokens -/

/-- The token that is a single character. -/
def single? : Char → Option Token
  | '=' => some .equals
  | ',' => some .comma
  | '.' => some .point
  | '[' => some .openSquare
  | ']' => some .closeSquare
  | '\x7b' => some .openBrace
  | '\x7d' => some .closeBrace
  | '\n' => some .newline
  | _ => none

/-- The first token of a text that does not begin with a comment, and what follows it. -/
def token? (c : Char) (rest : List Char) : Option (Token × List Char) :=
  match single? c with
  | some t => some (t, rest)
  | none =>
    if c = '"' ∨ c = '\'' then text? c rest
    else if isBlank c then some (.blank (c :: rest.takeWhile isBlank), rest.dropWhile isBlank)
    else some (.run (c :: rest.takeWhile (!endsRun ·)), rest.dropWhile (!endsRun ·))

/-- The tokens of a text behind those that are done.  Each step uses up a character at least. -/
def tokensFrom? (steps : Nat) (done : List Token) (cs : List Char) : Option (List Token) :=
  match steps, cs with
  | _, [] => some done.reverse
  | 0, _ => none
  | steps + 1, c :: rest =>
    if c = '#' then
      if (rest.takeWhile (· ≠ '\n')).all isPlain then
        tokensFrom? steps done (rest.dropWhile (· ≠ '\n'))
      else none
    else
      match token? c rest with
      | some (t, rest) => tokensFrom? steps (t :: done) rest
      | none => none

/-- The tokens of a document, which may begin with a byte order mark. -/
def tokens? (document : String) : Option (List Token) :=
  let cs := match document.toList with
    | '\ufeff' :: rest => rest
    | cs => cs
  let cs := unifyLines cs
  tokensFrom? cs.length [] cs

end Toml

end ActionPriority
