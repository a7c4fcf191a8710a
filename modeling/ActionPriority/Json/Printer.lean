import ActionPriority.Json.Basic
import ActionPriority.Uuid

/-! # Writing JSON

    A document is written on one line, or over several with two blanks for each level.
    In a text only the quote, the backslash and control characters are escaped.
-/

namespace ActionPriority

namespace Json

/-- The characters of a text that stand for one character of it. -/
def escaped (c : Char) : List Char :=
  match c with
  | '"' => ['\\', '"']
  | '\\' => ['\\', '\\']
  | '\x08' => ['\\', 'b']
  | '\x0c' => ['\\', 'f']
  | '\n' => ['\\', 'n']
  | '\r' => ['\\', 'r']
  | '\t' => ['\\', 't']
  | c =>
    if c.toNat < 32 then
      ['\\', 'u', '0', '0', Uuid.hexDigit (c.toNat / 16), Uuid.hexDigit (c.toNat % 16)]
    else [c]

/-- A text in quotes. -/
def quoted (text : String) : String :=
  String.ofList ('"' :: (text.toList.flatMap escaped ++ ['"']))

/-- A container that holds the texts of its parts on one line. -/
def flat (opening closing : String) (parts : List String) : String :=
  opening ++ String.intercalate "," parts ++ closing

mutual

/-- The document on one line. -/
def render : Json → String
  | .null => "null"
  | .bool value => if value then "true" else "false"
  | .number numeral => numeral
  | .string value => quoted value
  | .array items => flat "[" "]" (renderItems items)
  | .object fields => flat "\x7b" "\x7d" (renderFields fields)

/-- The items of an array, each on one line. -/
def renderItems : List Json → List String
  | [] => []
  | item :: rest => render item :: renderItems rest

/-- The fields of an object, each on one line. -/
def renderFields : List (String × Json) → List String
  | [] => []
  | (name, value) :: rest => (quoted name ++ ":" ++ render value) :: renderFields rest

end

/-- A new line at the level. -/
def newLine (level : Nat) : String := "\n" ++ String.ofList (List.replicate (2 * level) ' ')

/-- A container with each part on a line of its own, one level further in; an empty one stays
    on its line. -/
def spread (level : Nat) (opening closing : String) (parts : List String) : String :=
  if parts.isEmpty then opening ++ closing
  else
    opening ++ newLine (level + 1) ++ String.intercalate ("," ++ newLine (level + 1)) parts ++
      newLine level ++ closing

mutual

/-- The document over several lines, which starts at the level. -/
def prettyAt (level : Nat) : Json → String
  | .array items => spread level "[" "]" (prettyItems (level + 1) items)
  | .object fields => spread level "\x7b" "\x7d" (prettyFields (level + 1) fields)
  | .null => "null"
  | .bool value => if value then "true" else "false"
  | .number numeral => numeral
  | .string value => quoted value

/-- The items of an array over several lines. -/
def prettyItems (level : Nat) : List Json → List String
  | [] => []
  | item :: rest => prettyAt level item :: prettyItems level rest

/-- The fields of an object over several lines. -/
def prettyFields (level : Nat) : List (String × Json) → List String
  | [] => []
  | (name, value) :: rest =>
    (quoted name ++ ": " ++ prettyAt level value) :: prettyFields level rest

end

/-- The document over several lines. -/
def pretty (j : Json) : String := prettyAt 0 j

end Json

end ActionPriority
