import ActionPriority.Ron.Preview

/-! # Reading the Object Notation

    Tokens are put together from left to right.  Brackets that are still open wait on a
    stack, innermost first, which never holds more than a document may be nested.  The
    first part in parentheses decides whether they hold items or fields.

    The attributes at the head of a document come first, because they may allow `Some` to
    stand before a value that is in no parentheses.
-/

namespace ActionPriority

namespace Ron

/-! ### Open brackets -/

/-- Brackets that have been opened and not yet closed.  What they hold stands in reverse. -/
inductive Frame where
  | list (items : List Ron)
  | map (entries : List (Ron × Ron))
  /-- A map that waits for the value of its last key. -/
  | entry (entries : List (Ron × Ron)) (key : Ron)
  /-- Parentheses that nothing stands in yet. -/
  | paren (head : Head)
  | tuple (head : Head) (items : List Ron)
  | record (head : Head) (fields : List (String × Ron))
  /-- Fields of which the last one waits for its value. -/
  | field (head : Head) (fields : List (String × Ron)) (last : String)
  /-- No brackets at all: a mere `Some` that waits for its value. -/
  | implied

/-- What may come next in the innermost brackets. -/
inductive Expected where
  /-- A part or the closing bracket. -/
  | part
  /-- A part. -/
  | value
  /-- The colon behind a key. -/
  | colon
  /-- A comma or the closing bracket. -/
  | separator
  | nothing
  deriving DecidableEq

/-- A document on its way.  A name is held back until it is clear whether parentheses follow
    it, or a colon. -/
structure Partial where
  frames : List Frame
  expected : Expected
  held : Option Name
  result : Option Ron

/-! ### Steps -/

/-- Hands a complete document to the innermost brackets. -/
def deliver (frames : List Frame) (value : Ron) : Option Partial :=
  match frames with
  | [] => some ⟨[], .nothing, none, some value⟩
  | .list items :: outer => some ⟨.list (value :: items) :: outer, .separator, none, none⟩
  | .map entries :: outer => some ⟨.entry entries value :: outer, .colon, none, none⟩
  | .entry entries key :: outer =>
    some ⟨.map ((key, value) :: entries) :: outer, .separator, none, none⟩
  | .paren head :: outer => some ⟨.tuple head [value] :: outer, .separator, none, none⟩
  | .tuple head items :: outer =>
    some ⟨.tuple head (value :: items) :: outer, .separator, none, none⟩
  | .field head fields last :: outer =>
    some ⟨.record head ((last, value) :: fields) :: outer, .separator, none, none⟩
  | .record _ _ :: _ => none
  | .implied :: outer => deliver outer (.implied value)

/-- Goes one level deeper. -/
def Partial.push (p : Partial) (frame : Frame) (expected : Expected) : Option Partial :=
  match p.frames with
  | .record _ _ :: _ => none
  | frames =>
    if frames.length < depthLimit then some ⟨frame :: frames, expected, none, none⟩ else none

/-- Opens brackets that no name stands before. -/
def Partial.openBracket (p : Partial) : Bracket → Option Partial
  | .paren => p.push (.paren .nothing) .part
  | .square => p.push (.list []) .part
  | .curly => p.push (.map []) .part

/-- Closes the innermost brackets. -/
def Partial.close (p : Partial) (kind : Bracket) : Option Partial :=
  if p.expected = .part ∨ p.expected = .separator then
    match kind, p.frames with
    | .square, .list items :: outer => deliver outer (.list items.reverse)
    | .curly, .map entries :: outer => deliver outer (.map entries.reverse)
    | .paren, .paren head :: outer => deliver outer (.tuple head [])
    | .paren, .tuple head items :: outer => deliver outer (.tuple head items.reverse)
    | .paren, .record head fields :: outer => deliver outer (.record head fields.reverse)
    | _, _ => none
  else none

/-- Takes one more token, no name being held back. -/
def Partial.take (p : Partial) (t : Token) : Option Partial :=
  let atValue := p.expected = .part || p.expected = .value
  match t with
  | .comma => if p.expected = .separator then some { p with expected := .part } else none
  | .colon => if p.expected = .colon then some { p with expected := .value } else none
  | .closing kind => p.close kind
  | .opening kind _ => if atValue then p.openBracket kind else none
  | .leaf value => if atValue then deliver p.frames value else none
  | .word name => if atValue then some { p with held := some name } else none
  | .mark _ => none

/-- Takes a name that turns out to stand before a colon: the name of a field, or a key or the
    end of one. -/
def Partial.named (p : Partial) (name : Name) : Option Partial :=
  match p.frames with
  | .paren head :: outer => some ⟨.field head [] name.text :: outer, .value, none, none⟩
  | .record head fields :: outer =>
    some ⟨.field head fields name.text :: outer, .value, none, none⟩
  | frames => (deliver frames (.word name)).bind (·.take .colon)

/-- Does a value begin with the token? -/
def Token.beginsValue : Token → Bool
  | .opening _ _ => true
  | .word _ => true
  | .leaf _ => true
  | _ => false

/-- A name as what stands in front of parentheses that hold `inside`. -/
def Name.head (name : Name) (e : Extensions) (inside : List Char) : Head :=
  if name = ⟨"Some", false⟩ then .some (if e.unwrapVariants then several? inside else some false)
  else .name name

/-- Takes one more token. -/
def Partial.step (e : Extensions) (p : Partial) (t : Token) : Option Partial :=
  match p.held with
  | none => p.take t
  | some name =>
    let released : Partial := { p with held := none }
    match t with
    | .opening .paren inside => released.push (.paren (name.head e inside)) .part
    | .leaf .unit => deliver p.frames (.tuple (name.head e [')']) [])
    | .colon => released.named name
    | t =>
      if e.implicitSome ∧ name = ⟨"Some", false⟩ ∧ t.beginsValue then
        (released.push .implied .value).bind (·.take t)
      else (deliver p.frames (.word name)).bind (·.take t)

/-- The document when all tokens are taken. -/
def Partial.finish (p : Partial) : Option Ron :=
  match p.held, p.frames with
  | some name, [] => some (.word name)
  | _, _ => p.result

/-- The document of some tokens. -/
def ofTokens? (e : Extensions) (tokens : List Token) : Option Ron := do
  let p ← tokens.foldlM (Partial.step e) ⟨[], .value, none, none⟩
  p.finish

/-! ### Attributes -/

/-- The extensions with the one of that name. -/
def Extensions.enable? (e : Extensions) : String → Option Extensions
  | "unwrap_newtypes" => some e
  | "implicit_some" => some { e with implicitSome := true }
  | "unwrap_variant_newtypes" => some { e with unwrapVariants := true }
  | "explicit_struct_names" => some { e with explicitNames := true }
  | _ => none

/-- The extensions at the head of the tokens, and the other tokens.  `inside` tells whether
    the names of an attribute have begun. -/
def attributes? (inside : Bool) (e : Extensions) : List Token → Option (Extensions × List Token)
  | .word name :: .comma :: .closing .paren :: .closing .square :: rest =>
    if inside then (e.enable? name.text).bind fun e => attributes? false e rest
    else some (e, .word name :: .comma :: .closing .paren :: .closing .square :: rest)
  | .word name :: .comma :: rest =>
    if inside then (e.enable? name.text).bind fun e => attributes? true e rest
    else some (e, .word name :: .comma :: rest)
  | .word name :: .closing .paren :: .closing .square :: rest =>
    if inside then (e.enable? name.text).bind fun e => attributes? false e rest
    else some (e, .word name :: .closing .paren :: .closing .square :: rest)
  | .mark '#' :: .mark '!' :: .opening .square _ :: .word name :: .opening .paren _ :: rest =>
    if !inside ∧ name = ⟨"enable", false⟩ then attributes? true e rest else none
  | rest => if inside then none else some (e, rest)

/-- Reads a document and the extensions that it asks for. -/
def read? (text : String) : Option (Extensions × Ron) := do
  let tokens ← tokens? text
  let (extensions, tokens) ← attributes? false {} tokens
  return (extensions, ← ofTokens? extensions tokens)

end Ron

end ActionPriority
