import ActionPriority.Condition.Expr

/-! # Catalogs

    A catalog says for each name of a form how expressions of that form are compiled:
    by the rule of a form, or not at all.  The standard catalog compiles each form by its
    own rule.
-/

namespace ActionPriority

/-- How the expressions that go by a name are compiled. -/
inductive Recipe where
  /-- By the rule of the form, whatever form they are of. -/
  | rule (form : Form)
  /-- Not at all, without a warning. -/
  | inert
  deriving DecidableEq, Repr

/-- The recipes by name, in the order of registering. -/
structure Catalog where
  recipes : List (String × Recipe)
  deriving DecidableEq

namespace Catalog

/-- The catalog that knows no name. -/
def empty : Catalog := ⟨[]⟩

/-- The catalog that compiles every form by its own rule. -/
def standard : Catalog := ⟨Form.every.map fun form => (form.name, .rule form)⟩

/-- The recipe of a name. -/
def find? (c : Catalog) (name : String) : Option Recipe := c.recipes.lookup name

/-- Does the catalog know the name? -/
def contains (c : Catalog) (name : String) : Bool := (c.find? name).isSome

/-- The number of names it knows. -/
def size (c : Catalog) : Nat := c.recipes.length

/-- Does it know no name? -/
def isEmpty (c : Catalog) : Bool := c.recipes.isEmpty

/-- The catalog in which a name has the recipe, whatever it had before. -/
def register (c : Catalog) (name : String) (recipe : Recipe) : Catalog :=
  if c.contains name then
    ⟨c.recipes.map fun entry => if entry.1 = name then (name, recipe) else entry⟩
  else ⟨c.recipes ++ [(name, recipe)]⟩

/-- The catalog has the rule of the form under its name. -/
def HasRule (c : Catalog) (form : Form) : Prop := c.find? form.name = some (.rule form)

/-- The standard catalog has the rule of every form under its name. -/
theorem standard_find? (form : Form) : standard.find? form.name = some (.rule form) := by
  cases form with
  | effectIncrease measure => cases measure <;> decide
  | _ => decide

end Catalog

end ActionPriority
