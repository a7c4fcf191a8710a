import ActionPriority.Condition.Compile
import ActionPriority.Proofs.Lists

/-! # How Expressions Compile

    What compiling with the standard catalog comes to, form by form.

    * An expression is a leaf or made of operands, and what operands hand on to what is made of
      them holds of all expressions (`Expr.treeInduction`).
    * A catalog lets the rule of a form through where it has one (`Scope.catalogued_of_hasRule`).
      The standard catalog has all of them, so there a compound expression compiles to what its
      rule makes of its compiled operands.
    * A leaf either gives a node without any warning, or no node for exactly one reason
      (`Checked.Clear`, `Scope.clear_compile`).
-/

namespace ActionPriority

/-! ### Trees -/

namespace Expr

/-- The expression is not made of others. -/
def IsLeaf : Expr → Prop
  | .all _ => False
  | .any _ => False
  | .not _ => False
  | .compare _ _ _ => False
  | _ => True

/-- What holds of leaves, and of compound expressions if it holds of their operands, holds of
    all expressions. -/
@[elab_as_elim]
theorem treeInduction {P : Expr → Prop}
    (all : ∀ operands, (∀ y ∈ operands, P y) → P (.all operands))
    (any : ∀ operands, (∀ y ∈ operands, P y) → P (.any operands))
    (not : ∀ operand, P operand → P (.not operand))
    (compare : ∀ op lhs rhs, P lhs → P rhs → P (.compare op lhs rhs))
    (leaf : ∀ x, x.IsLeaf → P x) (x : Expr) : P x := by
  cases x with
  | all operands => exact all operands fun y _ => treeInduction all any not compare leaf y
  | any operands => exact any operands fun y _ => treeInduction all any not compare leaf y
  | not operand => exact not operand (treeInduction all any not compare leaf operand)
  | compare op lhs rhs =>
    exact compare op lhs rhs (treeInduction all any not compare leaf lhs)
      (treeInduction all any not compare leaf rhs)
  | _ => exact leaf _ trivial

end Expr

/-! ### Results with warnings -/

namespace Checked

variable {α β : Type} {c : Checked α} {f : α → Checked β}

/-- There is a result and no warning, or no result for exactly one reason. -/
inductive Clear : Checked α → Prop where
  | made (a : α) : Clear (.pure a)
  | failed (w : Warning) : Clear (.fail w)

/-- A missing result has been warned about. -/
def Explained (c : Checked α) : Prop := c.result = none → c.warnings ≠ []

theorem Clear.bind (hc : c.Clear) (hf : ∀ a, (f a).Clear) : (c >>= f).Clear := by
  cases hc with
  | made a => exact hf a
  | failed w => exact .failed w

theorem Clear.ofOption (w : Warning) (found : Option α) : (Checked.ofOption w found).Clear := by
  cases found with
  | none => exact .failed w
  | some a => exact .made a

/-- Here a result and the lack of warnings are the same. -/
theorem Clear.warnings_eq_nil_iff (hc : c.Clear) : c.warnings = [] ↔ c.result.isSome = true := by
  cases hc with
  | made a => exact iff_of_true rfl rfl
  | failed w => exact iff_of_false nofun nofun

theorem Clear.eq_pure {a : α} (hc : c.Clear) (h : c.result = some a) : c = .pure a := by
  cases hc with
  | made b => exact congrArg Checked.pure (Option.some.inj h)
  | failed w => cases h

theorem Clear.explained (hc : c.Clear) : c.Explained := by
  cases hc with
  | made a => exact nofun
  | failed w => exact fun _ => nofun

theorem Explained.isSome (hc : c.Explained) (hnone : c.warnings = []) : c.result.isSome = true := by
  cases hresult : c.result with
  | none => exact absurd hnone (hc hresult)
  | some a => rfl

theorem warnings_bind_of_none (h : c.result = none) : (c >>= f).warnings = c.warnings := by
  show (Checked.bind c f).warnings = _
  rw [Checked.bind, h]

theorem warnings_bind_of_some {a : α} (h : c.result = some a) :
    (c >>= f).warnings = c.warnings ++ (f a).warnings := by
  show (Checked.bind c f).warnings = _
  rw [Checked.bind, h]

theorem result_bind_of_some {a : α} (h : c.result = some a) :
    (c >>= f).result = (f a).result := by
  rw [result_bind, h]
  rfl

theorem isSome_bind_iff :
    (c >>= f).result.isSome = true ↔ ∃ a, c.result = some a ∧ (f a).result.isSome = true := by
  rw [result_bind]
  cases c.result with
  | none => exact iff_of_false nofun nofun
  | some a => exact ⟨fun h => ⟨a, rfl, h⟩, fun ⟨_, ha, h⟩ => Option.some.inj ha ▸ h⟩

/-- Where the continuation succeeds under a condition that has nothing to do with what is found,
    there has to be a result, and the condition has to hold. -/
theorem isSome_bind {q : Prop} (hf : ∀ a, c.result = some a → ((f a).result.isSome = true ↔ q)) :
    (c >>= f).result.isSome = true ↔ c.result.isSome = true ∧ q := by
  rw [isSome_bind_iff, Option.isSome_iff_exists]
  constructor
  · rintro ⟨a, ha, h⟩
    exact ⟨⟨a, ha⟩, (hf a ha).mp h⟩
  · rintro ⟨⟨a, ha⟩, h⟩
    exact ⟨a, ha, (hf a ha).mpr h⟩

theorem isSome_map {g : α → β} :
    (c >>= fun a => Pure.pure (g a)).result.isSome = true ↔ c.result.isSome = true :=
  (isSome_bind fun _ _ => iff_of_true rfl trivial).trans (and_iff_left trivial)

theorem warnings_map {g : α → β} :
    (c >>= fun a => Pure.pure (g a)).warnings = c.warnings := by
  cases hresult : c.result with
  | none => exact warnings_bind_of_none hresult
  | some a => exact (warnings_bind_of_some hresult).trans (List.append_nil _)

theorem result_ofOption (w : Warning) (found : Option α) : (ofOption w found).result = found := by
  cases found <;> rfl

theorem Explained.bind (hc : c.Explained) (hf : ∀ a, (f a).Explained) :
    (c >>= f).Explained := by
  intro hnone
  cases hresult : c.result with
  | none =>
    rw [warnings_bind_of_none hresult]
    exact hc hresult
  | some a =>
    rw [result_bind_of_some hresult] at hnone
    rw [warnings_bind_of_some hresult]
    exact fun hnil => hf a hnone (List.append_eq_nil_iff.mp hnil).2

end Checked

namespace Scope

variable {s : Scope}

/-! ### Rules -/

theorem clear_literal (value : Literal) : (literal value).Clear := by
  cases value with
  | seconds value =>
    rw [literal]
    split
    · exact .made _
    · exact .failed _
  | _ => exact .made _

theorem clear_cell (target : TargetRef) : (s.cell target).Clear := by
  cases target with
  | place n => exact (Checked.Clear.ofOption _ _).bind fun _ => .made _
  | _ => exact .made _

theorem clear_spell (id : SpellId) : (s.spell id).Clear := .ofOption _ _

theorem clear_periodic (id : SpellId) : (s.periodic id).Clear :=
  (clear_spell id).bind fun _ => .ofOption _ _

theorem clear_effect (id : SpellId) (target : TargetRef) : (s.effect id target).Clear :=
  (clear_periodic id).bind fun _ => (clear_cell target).bind fun _ => .made _

theorem clear_spread (id : SpellId) : (s.spread id).Clear := by
  refine (clear_spell id).bind fun spell => ?_
  split
  · exact .failed _
  · exact .made _

theorem clear_runeUser : s.runeUser.Clear := by
  unfold runeUser
  split
  · exact .made _
  · exact .failed _

theorem clear_slot (n : UInt8) : (slot n).Clear := by
  unfold slot
  split
  · exact .made _
  · exact .failed _

theorem clear_asTest (n : Node) : (asTest n).Clear := by
  unfold asTest
  split
  · exact .made _
  · exact .failed _

theorem clear_comparison (op : Comparison) (l r : Node) : (comparison op l r).Clear := by
  unfold comparison
  split
  -- Only the last clause has no comparison.
  case h_7 => exact .failed _
  all_goals exact .made _

/-! ### Catalogs -/

/-- Where the catalog has the rule of the form, it keeps nothing back. -/
theorem catalogued_of_hasRule {form : Form} (h : s.catalog.HasRule form) (made : Checked Node) :
    s.catalogued form made = made := by
  unfold catalogued
  rw [h]
  exact if_pos rfl

/-- The expression compiles to the node, by the rule of its own form.  Under the rule of another
    form its name would stand for something else. -/
structure Makes (s : Scope) (x : Expr) (n : Node) : Prop where
  rule : s.catalog.HasRule x.form
  result : (s.compile x).result = some n

section Standard

variable (hs : s.catalog = .standard)

include hs

/-- The standard catalog has the rule of every form. -/
theorem hasRule_standard (form : Form) : s.catalog.HasRule form := by
  rw [hs]
  exact Catalog.standard_find? form

theorem catalogued_standard (form : Form) (made : Checked Node) :
    s.catalogued form made = made := catalogued_of_hasRule (hasRule_standard hs form) made

theorem compile_all (operands : List Expr) :
    s.compile (.all operands) = conjunction (operands.map s.compileTest) := by
  rw [compile, catalogued_standard hs, compileTests_eq]

theorem compile_any (operands : List Expr) :
    s.compile (.any operands) = disjunction (operands.map s.compileTest) := by
  rw [compile, catalogued_standard hs, compileTests_eq]

theorem compile_not (operand : Expr) :
    s.compile (.not operand) = s.compileTest operand >>= fun test => pure (.test (.not test)) := by
  rw [compile, catalogued_standard hs]
  rfl

theorem compile_compare (op : Comparison) (lhs rhs : Expr) :
    s.compile (.compare op lhs rhs) =
      s.compile lhs >>= fun l => s.compile rhs >>= fun r => comparison op l r := by
  rw [compile, catalogued_standard hs]

/-- A leaf compiles without a warning, or fails for one reason. -/
theorem clear_compile {x : Expr} (hx : x.IsLeaf) : (s.compile x).Clear := by
  cases x with
  | all operands | any operands => exact hx.elim
  | not operand => exact hx.elim
  | compare op lhs rhs => exact hx.elim
  | const value =>
    rw [compile, catalogued_standard hs]
    exact clear_literal value
  | currentTime | remainingTime | targetCount =>
    rw [compile, catalogued_standard hs]
    exact .made _
  | effectActive id target | effectRemaining id target | effectPeriod id target =>
    rw [compile, catalogued_standard hs]
    exact (clear_effect id target).bind fun _ => .made _
  | effectActiveOnAll id | effectLowestRemaining id =>
    rw [compile, catalogued_standard hs]
    exact (clear_spread id).bind fun _ => .made _
  | effectIncrease measure id target =>
    rw [compile, catalogued_standard hs]
    exact (clear_periodic id).bind fun _ => (clear_cell target).bind fun _ => .made _
  | runeCount type | naturalRuneCount type | runeCooldown type | nextRuneCooldown type =>
    rw [compile, catalogued_standard hs]
    exact clear_runeUser.bind fun _ => .made _
  | fullRuneCooldown base =>
    rw [compile, catalogued_standard hs]
    exact clear_runeUser.bind fun _ => .made _
  | slotActive n | slotDeath n | slotCooldown n =>
    rw [compile, catalogued_standard hs]
    exact clear_runeUser.bind fun _ => (clear_slot n).bind fun _ => .made _

end Standard

end Scope

end ActionPriority
