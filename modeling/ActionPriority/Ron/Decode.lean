import ActionPriority.Ron.Number

/-! # Decoding the Object Notation

    A decoder takes what a document means, if it means a value of its type.  It is told
    how deep the document may still be nested; structures, lists, choices and their
    parts each take a level.

    * A structure lists its fields by name, in any order, none of those it knows twice.
      Fields that it does not know are skipped.
    * A choice is a name, with its parts in parentheses if it has any.
    * An optional value is `None` or `Some(…)`.  Attributes may ask for other ways.
-/

namespace ActionPriority

namespace Ron

/-- What takes a document that may be nested so deep. -/
abbrev Decoder (α : Type) := Nat → Ron → Option α

/-! ### Simple values -/

/-- A flag. -/
def bool? : Decoder Bool
  | _, .word ⟨"true", false⟩ => some true
  | _, .word ⟨"false", false⟩ => some false
  | _, _ => none

/-- A text. -/
def text? : Decoder String
  | _, .string value => some value
  | _, _ => none

/-- A float. -/
def floatValue? : Decoder Float
  | _, .number chars => float? chars
  | _, .word ⟨text, false⟩ => float? text.toList
  | _, _ => none

/-- An integer of some type. -/
def integerValue? (type : IntType) : Decoder Int
  | _, .number chars => integer? type chars
  | _, .byte value => if type.name = "u8" then some value.toNat else none
  | _, _ => none

/-- An unsigned integer of so many bits. -/
def nat? (bits : Nat) : Decoder Nat := fun depth r =>
  (integerValue? (.unsigned bits) depth r).map Int.toNat

/-- An integer of 32 bits, one of them for the sign. -/
def int32? : Decoder Int32 := fun depth r => (integerValue? (.signed 32) depth r).map Int32.ofInt

/-- An integer of 8 bits. -/
def uint8? : Decoder UInt8 := fun depth r => (nat? 8 depth r).map UInt8.ofNat

/-! ### Skipped values -/

/-- Names that are documents of their own, and so never stand before parentheses. -/
def closedNames : List String :=
  ["true", "false", "None", "inf", "inff32", "inff64", "NaN", "NaNf32", "NaNf64"]

/-- May parentheses that are skipped follow? -/
def Head.isAny : Head → Bool
  | .nothing => true
  | .name n => n.raw || !closedNames.contains n.text
  | .some _ => false

/-- May the document stand where anything may? -/
def isAny (e : Extensions) : Nat → Ron → Bool
  | _, .number chars => isNumber chars
  | _, .byte _ => true
  | _, .word name => name ≠ ⟨"Some", false⟩
  | _, .unit => true
  | _, .string _ => true
  | _, .bytes _ => true
  | _, .char _ => true
  | depth + 2, .list items => items.all (isAny e depth)
  | depth + 2, .map entries => entries.all fun (k, v) => isAny e depth k && isAny e depth v
  | depth + 3, .record (.some _) fields =>
    e.unwrapVariants && fields.all fun (_, v) => isAny e depth v
  | depth + 1, .tuple (.some several) items =>
    match e.unwrapVariants, several, depth, items with
    | false, _, depth, [item] => isAny e depth item
    | true, some false, depth, [item] => isAny e depth item
    | true, some true, depth + 2, items => items.all (isAny e depth)
    | true, _, _, [] => true
    | _, _, _, _ => false
  | depth + 2, .tuple head items => head.isAny && items.all (isAny e depth)
  | depth + 2, .record head fields => head.isAny && fields.all fun (_, v) => isAny e depth v
  | 1, .list items => items.isEmpty
  | 1, .map entries => entries.isEmpty
  | 1, .tuple head items => head.isAny && items.isEmpty
  | depth + 1, .implied value => isAny e depth value
  | _, _ => false

/-! ### Lists and optional values -/

/-- A list. -/
def list? {α : Type} (item : Decoder α) : Decoder (List α)
  | depth + 2, .list items => items.mapM (item depth)
  | 1, .list [] => some []
  | _, _ => none

/-- An optional value that is no structure. -/
def option? {α : Type} (e : Extensions) (value : Decoder α) : Decoder (Option α)
  | _, .word ⟨"None", false⟩ => some none
  | depth + 1, .tuple (.some _) [item] => (value depth item).map some
  | _, .tuple (.some _) _ => none
  | _, .record (.some _) _ => none
  | _, .word ⟨"Some", false⟩ => none
  | depth + 1, .implied r => (value depth r).map some
  | depth + 1, r => if e.implicitSome then (value depth r).map some else none
  | 0, _ => none

/-! ### Structures -/

/-- The fields of a structure, and how deep their values may be nested. -/
structure Record where
  fields : List (String × Ron)
  depth : Nat

/-- The fields of a structure that knows these names.  The values of other fields are taken as
    they are, and none of the known names may come twice. -/
def Record.of? (e : Extensions) (names : List String) (depth : Nat) (fields : List (String × Ron)) :
    Option Record :=
  match depth, fields with
  | _ + 1, [] => some ⟨[], 0⟩
  | depth + 2, fields =>
    let known := (fields.map Prod.fst).filter names.contains
    let skipped := fields.filter fun (name, _) => !names.contains name
    if known.Nodup ∧ skipped.all (fun (_, value) => isAny e depth value) then some ⟨fields, depth⟩
    else none
  | _, _ => none

/-- Does the name in front of a structure fit? -/
def fitsName (e : Extensions) (type : String) : Head → Bool
  | .nothing => !e.explicitNames
  | .name name => name.text = type
  | .some _ => false

/-- A structure of that name. -/
def struct? (e : Extensions) (type : String) (names : List String) (depth : Nat) :
    Ron → Option Record
  | .record head fields => if fitsName e type head then Record.of? e names depth fields else none
  | .tuple head [] => if fitsName e type head then Record.of? e names depth [] else none
  | .unit => if fitsName e type .nothing then Record.of? e names depth [] else none
  | _ => none

/-- A field that has to be there. -/
def Record.field? {α : Type} (r : Record) (name : String) (value : Decoder α) : Option α :=
  (r.fields.lookup name).bind (value r.depth)

/-- A field that may be left out. -/
def Record.fieldOr? {α : Type} (r : Record) (name : String) (default : α) (value : Decoder α) :
    Option α :=
  match r.fields.lookup name with
  | some r' => value r.depth r'
  | none => some default

/-- An optional structure.  When its fields stand in `Some(…)` directly, it has neither a name
    nor parentheses of its own. -/
def optionalStruct? {α : Type} (e : Extensions) (names : List String) (value : Decoder α)
    (ofRecord : Record → Option α) : Decoder (Option α)
  | depth + 1, .record (.some _) fields =>
    if e.unwrapVariants then
      ((Record.of? e names depth fields).bind ofRecord).map some
    else none
  | depth + 1, .tuple (.some _) [] =>
    if e.unwrapVariants then ((Record.of? e names depth []).bind ofRecord).map some else none
  | depth, r =>
    match e.unwrapVariants, r with
    | true, .tuple (.some _) _ => none
    | _, r => option? e value depth r

/-! ### Choices -/

/-- A choice without parts. -/
def plainChoice? {α : Type} (ofName? : String → Option α) : Decoder α
  | _ + 2, .word name => ofName? name.text
  | _, _ => none

/-- The name of a choice that has one unnamed part, with that part and how deep it may be
    nested. -/
def choiceOf? : Nat → Ron → Option (String × Nat × Ron)
  | depth + 2, .tuple (.name name) [part] => some (name.text, depth, part)
  | _, _ => none

/-- The name of a choice that has named parts, with how deep they may be nested and the
    parts. -/
def choiceWith? : Nat → Ron → Option (String × Nat × List (String × Ron))
  | depth + 2, .tuple (.name name) [] => some (name.text, depth + 1, [])
  | depth + 2, .record (.name name) fields => some (name.text, depth + 1, fields)
  | _, _ => none

end Ron

end ActionPriority
