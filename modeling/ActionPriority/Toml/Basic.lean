/-! # Settings Documents

    A document of the notation in which the settings of a run are kept (TOML): named
    values, gathered in tables.

    * `Toml` is a value, `Toml.Fields` the named values of one table.
    * `Toml.Statement` is one line of a document.
    * `Toml.fieldsOf?` puts the lines together, in the order in which they are written.

    No name is given a value twice.  Beyond that, how a table came to be decides how it may
    grow: one in braces is complete, one under a header of its own takes no keys with points
    from elsewhere, and no table gets a second header.
-/

namespace ActionPriority

namespace Toml

/-- How a table came to be. -/
inductive Origin where
  /-- Under a header of its own. -/
  | header
  /-- Named by a header on the way to a deeper table. -/
  | passage
  /-- Named by a key with points. -/
  | dotted
  /-- Written in braces. -/
  | inline
  deriving DecidableEq, Repr

end Toml

/-- A value. -/
inductive Toml where
  | string (value : String)
  | integer (value : Int)
  | float (value : Float)
  | boolean (value : Bool)
  | dateTime (text : String)
  | array (items : List Toml)
  | table (origin : Toml.Origin) (fields : List (String × Toml))
  /-- Tables that share a header.  Only the last of them still grows. -/
  | tables (earlier : List Toml) (last : List (String × Toml))
  deriving Inhabited

namespace Toml

/-- The named values of a table, in the order in which they came up. -/
abbrev Fields := List (String × Toml)

/-- One line of a document. -/
inductive Statement where
  /-- A value for a key. -/
  | assign (path : List String) (key : String) (value : Toml)
  /-- The header of a table. -/
  | table (path : List String) (key : String)
  /-- The header of one more table of several. -/
  | oneMore (path : List String) (key : String)

namespace Fields

/-- The fields with another value for a key that they have. -/
def replace (fields : Fields) (key : String) (value : Toml) : Fields :=
  fields.map fun (k, old) => (k, if k = key then value else old)

/-- The fields with a value for a key that they lack. -/
def add? (fields : Fields) (key : String) (value : Toml) : Option Fields :=
  match fields.lookup key with
  | none => some (fields ++ [(key, value)])
  | some _ => none

/-- Another value for a key changes no key. -/
@[simp] theorem keys_replace (fields : Fields) (key : String) (value : Toml) :
    (fields.replace key value).map Prod.fst = fields.map Prod.fst := by
  simp [replace]

theorem add?_eq_some {fields after : Fields} {key : String} {value : Toml}
    (h : fields.add? key value = some after) :
    fields.lookup key = none ∧ after = fields ++ [(key, value)] := by
  unfold add? at h
  split at h
  · rename_i hnone
    exact ⟨hnone, (Option.some.inj h).symm⟩
  · cases h

/-! ### Going along a path -/

/-- May a path that makes tables of one origin lead through a table of the other? -/
def leadsThrough (origin : Origin) : Origin → Bool
  | .inline => false
  | .header => origin ≠ .dotted
  | .passage => true
  | .dotted => true

/-- The fields after `f` has changed those of the table at the end of a path, which is told
    how that table came to be.  Tables that are missing on the way are made. -/
def changeAt? (origin : Origin) (f : Origin → Fields → Option Fields) (here : Origin) :
    List String → Fields → Option Fields
  | [], fields => f here fields
  | key :: path, fields =>
    match fields.lookup key with
    | none => do
      let inner ← changeAt? origin f origin path []
      return fields ++ [(key, .table origin inner)]
    | some (.table found inner) =>
      if leadsThrough origin found then do
        let inner ← changeAt? origin f found path inner
        return fields.replace key (.table found inner)
      else none
    | some (.tables earlier last) => do
      let last ← changeAt? origin f .header path last
      return fields.replace key (.tables earlier last)
    | some _ => none

/-! ### Statements -/

/-- The fields with a value for a key.  A key with points names a table that only such keys
    have made. -/
def assign? (fields : Fields) (path : List String) (key : String) (value : Toml) :
    Option Fields :=
  changeAt? .dotted (fun origin inner =>
    if path.isEmpty ∨ origin = .dotted then inner.add? key value else none) .header path fields

/-- The fields with a table that has a header of its own from now on. -/
def open? (fields : Fields) (path : List String) (key : String) : Option Fields :=
  changeAt? .passage (fun _ inner =>
    match inner.lookup key with
    | none => some (inner ++ [(key, .table .header [])])
    | some (.table .passage deeper) => some (inner.replace key (.table .header deeper))
    | some _ => none) .header path fields

/-- The fields with one more of the tables that share a header. -/
def openOneMore? (fields : Fields) (path : List String) (key : String) : Option Fields :=
  changeAt? .passage (fun _ inner =>
    match inner.lookup key with
    | none => some (inner ++ [(key, .tables [] [])])
    | some (.tables earlier last) =>
      some (inner.replace key (.tables (earlier ++ [.table .header last]) []))
    | some _ => none) .header path fields

/-- The fields with a value in the table that a header has opened. -/
def assignUnder? (fields : Fields) (header : List String) (path : List String) (key : String)
    (value : Toml) : Option Fields :=
  changeAt? .passage (fun _ inner => inner.assign? path key value) .header header fields

end Fields

/-- The fields after one more statement, under the header that is in force, and the header
    from then on. -/
def Statement.apply? (header : List String) (fields : Fields) :
    Statement → Option (List String × Fields)
  | .assign path key value => do return (header, ← fields.assignUnder? header path key value)
  | .table path key => do return (path ++ [key], ← fields.open? path key)
  | .oneMore path key => do return (path ++ [key], ← fields.openOneMore? path key)

/-- The fields of a document. -/
def fieldsOf? (statements : List Statement) : Option Fields := do
  let (_, fields) ← statements.foldlM (fun (header, fields) s => s.apply? header fields) ([], [])
  return fields

end Toml

end ActionPriority
