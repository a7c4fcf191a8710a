import ActionPriority.Proofs.Condition.WellFormed

/-! # Compiling without a Warning

    An expression can compile although something in it has been dropped: a disjunction makes do
    with the operands that are left.  It is strictly well-formed if nothing is dropped anywhere
    (`Scope.StrictlyWellFormed`): it compiles, so does everything it is made of, and whatever a
    conjunction or a disjunction in it joins is a test.

    * No expression fails in silence (`Scope.explained_compile`).
    * Form by form, compiling gives no warning if the operands give none and fit in
      (`Scope.warnings_compile_all` and its like).
    * So it is the strictly well-formed expressions that compile without a warning
      (`Scope.warnings_compile_eq_nil_iff`).
-/

namespace ActionPriority

/-! ### Parts -/

namespace Expr

/-- What an expression is made of. -/
def operands : Expr → List Expr
  | .all operands => operands
  | .any operands => operands
  | .not operand => [operand]
  | .compare _ lhs rhs => [lhs, rhs]
  | _ => []

/-- The expression joins tests, any number of them. -/
def IsJunction : Expr → Prop
  | .all _ => True
  | .any _ => True
  | _ => False

/-- The expression `y` is `x`, or stands somewhere in it. -/
inductive Within (y : Expr) : Expr → Prop where
  | self : Within y y
  | deeper {x z : Expr} : z ∈ x.operands → Within y z → Within y x

theorem IsLeaf.operands_eq {x : Expr} (hx : x.IsLeaf) : x.operands = [] := by
  cases x with
  | all operands | any operands => exact hx.elim
  | not operand => exact hx.elim
  | compare op lhs rhs => exact hx.elim
  | _ => rfl

/-- What holds everywhere in an expression holds of the expression and everywhere in its
    operands. -/
theorem forall_within_iff {P : Expr → Prop} {x : Expr} :
    (∀ y, y.Within x → P y) ↔ P x ∧ ∀ z ∈ x.operands, ∀ y, y.Within z → P y := by
  constructor
  · intro h
    exact ⟨h x .self, fun z hz y hy => h y (.deeper hz hy)⟩
  · rintro ⟨hself, hdeeper⟩ y hy
    cases hy with
    | self => exact hself
    | deeper hz hy => exact hdeeper _ hz y hy

end Expr

/-- The expression compiles with everything in it.  Each operand of a conjunction or disjunction
    in it compiles to a test. -/
structure Scope.StrictlyWellFormed (s : Scope) (x : Expr) : Prop where
  compiles : ∀ y : Expr, y.Within x → (s.compile y).result.isSome = true
  tests : ∀ y : Expr, y.Within x → y.IsJunction → ∀ z ∈ y.operands,
    (s.compileTest z).result.isSome = true

/-- What an expression itself adds to the strictness of its operands. -/
theorem Scope.strictlyWellFormed_iff {s : Scope} {x : Expr} :
    s.StrictlyWellFormed x ↔
      (s.compile x).result.isSome = true ∧
      (x.IsJunction → ∀ z ∈ x.operands, (s.compileTest z).result.isSome = true) ∧
      ∀ z ∈ x.operands, s.StrictlyWellFormed z := by
  constructor
  · rintro ⟨hcompiles, htests⟩
    obtain ⟨hself, hdeeper⟩ := Expr.forall_within_iff.mp hcompiles
    obtain ⟨hjoined, hjoinedDeeper⟩ := Expr.forall_within_iff.mp htests
    exact ⟨hself, hjoined, fun z hz => ⟨hdeeper z hz, hjoinedDeeper z hz⟩⟩
  · rintro ⟨hself, hjoined, hdeeper⟩
    constructor
    · exact Expr.forall_within_iff.mpr ⟨hself, fun z hz => (hdeeper z hz).compiles⟩
    · exact Expr.forall_within_iff.mpr ⟨hjoined, fun z hz => (hdeeper z hz).tests⟩

/-! ### Warnings of the rules -/

namespace Checked

variable {α β : Type} {c : Checked α} {f : α → Checked β}

theorem warnings_bind_eq_nil_iff (hc : c.Explained) :
    (c >>= f).warnings = [] ↔ c.warnings = [] ∧ ∃ a, c.result = some a ∧ (f a).warnings = [] := by
  cases hresult : c.result with
  | none =>
    rw [warnings_bind_of_none hresult]
    exact iff_of_false (hc hresult) fun h => hc hresult h.1
  | some a =>
    rw [warnings_bind_of_some hresult, List.append_eq_nil_iff]
    refine and_congr_right fun _ => ?_
    exact ⟨fun h => ⟨a, rfl, h⟩, fun ⟨_, ha, h⟩ => Option.some.inj ha ▸ h⟩

/-- If the last step is clear, the warnings before it and the result tell everything. -/
theorem warnings_bind_clear (hc : c.Explained) (hf : ∀ a, (f a).Clear) :
    (c >>= f).warnings = [] ↔ c.warnings = [] ∧ (c >>= f).result.isSome = true := by
  rw [warnings_bind_eq_nil_iff hc, isSome_bind_iff]
  simp only [(hf _).warnings_eq_nil_iff]

end Checked

namespace Scope

open Checked (Explained)

variable {s : Scope}

theorem allWarnings_eq_nil_iff {operands : List (Checked Test)} :
    allWarnings operands = [] ↔ ∀ c ∈ operands, c.warnings = [] :=
  List.flatMap_eq_nil_iff

theorem warnings_conjunction_eq_nil_iff (operands : List (Checked Test)) :
    (conjunction operands).warnings = [] ↔ operands ≠ [] ∧ ∀ c ∈ operands, c.warnings = [] := by
  unfold conjunction
  split
  · next hempty => exact iff_of_false nofun fun h => h.1 (List.isEmpty_iff.mp hempty)
  · next hsome =>
    have hne : operands ≠ [] := fun hnil => hsome (List.isEmpty_iff.mpr hnil)
    exact allWarnings_eq_nil_iff.trans (and_iff_right hne).symm

theorem warnings_disjunction_eq_nil_iff {operands : List (Checked Test)}
    (hoperands : ∀ c ∈ operands, c.Explained) :
    (disjunction operands).warnings = [] ↔ operands ≠ [] ∧ ∀ c ∈ operands, c.warnings = [] := by
  unfold disjunction
  split
  · next hnone =>
    refine iff_of_false (List.append_ne_nil_of_right_ne_nil _ nofun) ?_
    rintro ⟨hne, hall⟩
    -- An operand without a warning has a result, and would not have been dropped.
    obtain ⟨c, hc⟩ := List.exists_mem_of_ne_nil _ hne
    have hresult := (hoperands c hc).isSome (hall c hc)
    rw [List.filterMap_eq_nil_iff.mp hnone c hc] at hresult
    cases hresult
  · next hsome =>
    have hne : operands ≠ [] := by
      rintro rfl
      exact hsome rfl
    exact allWarnings_eq_nil_iff.trans (and_iff_right hne).symm

theorem explained_conjunction {operands : List (Checked Test)}
    (hoperands : ∀ c ∈ operands, c.Explained) : (conjunction operands).Explained := by
  intro hnone hnil
  obtain ⟨hne, hall⟩ := (warnings_conjunction_eq_nil_iff operands).mp hnil
  have hresult : (conjunction operands).result.isSome = true :=
    (isSome_conjunction operands).mpr ⟨hne, fun c hc => (hoperands c hc).isSome (hall c hc)⟩
  rw [hnone] at hresult
  cases hresult

theorem explained_disjunction (operands : List (Checked Test)) :
    (disjunction operands).Explained := by
  unfold disjunction
  split
  · exact fun _ => List.append_ne_nil_of_right_ne_nil _ nofun
  · exact nofun

/-! ### Warnings of expressions -/

section Standard

variable (hs : s.catalog = .standard)

include hs

/-- An expression that does not compile has been warned about. -/
theorem explained_compile (x : Expr) : (s.compile x).Explained := by
  induction x using Expr.treeInduction with
  | all operands ih =>
    rw [compile_all hs]
    refine explained_conjunction (List.forall_mem_map.mpr fun y hy => ?_)
    exact (ih y hy).bind fun n => (clear_asTest n).explained
  | any operands ih =>
    -- A disjunction without operands says so itself, whatever its operands have said.
    rw [compile_any hs]
    exact explained_disjunction _
  | not operand ih =>
    rw [compile_not hs]
    refine Explained.bind ?_ fun _ => nofun
    exact Explained.bind ih fun n => (clear_asTest n).explained
  | compare op lhs rhs ihl ihr =>
    rw [compile_compare hs]
    refine Explained.bind ihl fun l => Explained.bind ihr fun r => ?_
    exact (clear_comparison op l r).explained
  | leaf x hx => exact (clear_compile hs hx).explained

theorem explained_compileTest (x : Expr) : (s.compileTest x).Explained :=
  (explained_compile hs x).bind fun n => (clear_asTest n).explained

theorem warnings_compileTest_eq_nil_iff (x : Expr) :
    (s.compileTest x).warnings = [] ↔
      (s.compile x).warnings = [] ∧ (s.compileTest x).result.isSome = true :=
  Checked.warnings_bind_clear (explained_compile hs x) clear_asTest

theorem warnings_compile_all (operands : List Expr) :
    (s.compile (.all operands)).warnings = [] ↔
      operands ≠ [] ∧ ∀ z ∈ operands, (s.compileTest z).warnings = [] := by
  rw [compile_all hs, warnings_conjunction_eq_nil_iff, List.forall_mem_map, Ne,
    List.map_eq_nil_iff]

theorem warnings_compile_any (operands : List Expr) :
    (s.compile (.any operands)).warnings = [] ↔
      operands ≠ [] ∧ ∀ z ∈ operands, (s.compileTest z).warnings = [] := by
  have hexplained : ∀ c ∈ operands.map s.compileTest, c.Explained :=
    List.forall_mem_map.mpr fun z _ => explained_compileTest hs z
  rw [compile_any hs, warnings_disjunction_eq_nil_iff hexplained, List.forall_mem_map, Ne,
    List.map_eq_nil_iff]

theorem warnings_compile_not (operand : Expr) :
    (s.compile (.not operand)).warnings = (s.compileTest operand).warnings := by
  rw [compile_not hs, Checked.warnings_map]

theorem warnings_compile_compare (op : Comparison) (lhs rhs : Expr) :
    (s.compile (.compare op lhs rhs)).warnings = [] ↔
      (s.compile (.compare op lhs rhs)).result.isSome = true ∧
        (s.compile lhs).warnings = [] ∧ (s.compile rhs).warnings = [] := by
  have hrhs : ∀ l, (s.compile rhs >>= fun r => comparison op l r).warnings = [] ↔
      (s.compile rhs).warnings = [] ∧
        (s.compile rhs >>= fun r => comparison op l r).result.isSome = true :=
    fun l => Checked.warnings_bind_clear (explained_compile hs rhs) (clear_comparison op l)
  -- A left side that fails has been warned about, although the right one is not looked at then.
  rw [compile_compare hs, Checked.warnings_bind_eq_nil_iff (explained_compile hs lhs),
    Checked.isSome_bind_iff]
  simp only [hrhs]
  constructor
  · rintro ⟨hl, l, hlresult, hr, hresult⟩
    exact ⟨⟨l, hlresult, hresult⟩, hl, hr⟩
  · rintro ⟨⟨l, hlresult, hresult⟩, hl, hr⟩
    exact ⟨hl, l, hlresult, hr, hresult⟩

/-- What is said of expressions carries over to operands that have to be tests. -/
theorem warnings_compileTests {operands : List Expr}
    (ih : ∀ z ∈ operands, ((s.compile z).warnings = [] ↔ s.StrictlyWellFormed z)) :
    (∀ z ∈ operands, (s.compileTest z).warnings = []) ↔
      (∀ z ∈ operands, (s.compileTest z).result.isSome = true) ∧
        ∀ z ∈ operands, s.StrictlyWellFormed z := by
  rw [← forall₂_and]
  refine forall₂_congr fun z hz => ?_
  rw [warnings_compileTest_eq_nil_iff hs, ih z hz, and_comm]

/-- Without a warning compile just the strictly well-formed expressions. -/
theorem warnings_compile_eq_nil_iff (x : Expr) :
    (s.compile x).warnings = [] ↔ s.StrictlyWellFormed x := by
  induction x using Expr.treeInduction with
  | all operands ih =>
    rw [warnings_compile_all hs, warnings_compileTests hs ih, strictlyWellFormed_iff,
      isSome_compile_all hs]
    constructor
    · rintro ⟨hne, htests, hstrict⟩
      exact ⟨⟨hne, htests⟩, fun _ => htests, hstrict⟩
    · rintro ⟨⟨hne, _⟩, htests, hstrict⟩
      exact ⟨hne, htests trivial, hstrict⟩
  | any operands ih =>
    rw [warnings_compile_any hs, warnings_compileTests hs ih, strictlyWellFormed_iff,
      isSome_compile_any hs]
    constructor
    · rintro ⟨hne, htests, hstrict⟩
      obtain ⟨z, hz⟩ := List.exists_mem_of_ne_nil _ hne
      exact ⟨⟨z, hz, htests z hz⟩, fun _ => htests, hstrict⟩
    · rintro ⟨⟨z, hz, _⟩, htests, hstrict⟩
      exact ⟨List.ne_nil_of_mem hz, htests trivial, hstrict⟩
  | not operand ih =>
    rw [warnings_compile_not hs, warnings_compileTest_eq_nil_iff hs, strictlyWellFormed_iff,
      isSome_compile_not hs]
    constructor
    · rintro ⟨hnone, htest⟩
      exact ⟨htest, False.elim, List.forall_mem_singleton.mpr (ih.mp hnone)⟩
    · rintro ⟨htest, _, hstrict⟩
      exact ⟨ih.mpr (List.forall_mem_singleton.mp hstrict), htest⟩
  | compare op lhs rhs ihl ihr =>
    rw [warnings_compile_compare hs, strictlyWellFormed_iff]
    -- Whether the kinds fit is asked on both sides, and there is nothing to join.
    refine and_congr_right fun _ => ?_
    constructor
    · rintro ⟨hl, hr⟩
      refine ⟨False.elim, List.forall_mem_cons.mpr ⟨ihl.mp hl, ?_⟩⟩
      exact List.forall_mem_singleton.mpr (ihr.mp hr)
    · rintro ⟨_, hstrict⟩
      obtain ⟨hl, hrest⟩ := List.forall_mem_cons.mp hstrict
      exact ⟨ihl.mpr hl, ihr.mpr (List.forall_mem_singleton.mp hrest)⟩
  | leaf x hx =>
    rw [(clear_compile hs hx).warnings_eq_nil_iff, strictlyWellFormed_iff, hx.operands_eq]
    exact ⟨fun h => ⟨h, fun _ => nofun, nofun⟩, And.left⟩

end Standard

end Scope

end ActionPriority
