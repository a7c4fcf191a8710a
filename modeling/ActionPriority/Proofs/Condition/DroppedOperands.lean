import ActionPriority.Proofs.Condition.Strictness
import ActionPriority.Proofs.Encounter.Reachable

/-! # Dropped Operands Read as False

    A disjunction drops the operands that do not compile to tests.  What it compiles to is the
    same as if each of them had been written as `false` (`Scope.mend`), at any depth and under
    any other form.

    * What a compiled conjunction, disjunction or comparison answers is told by the answers of
      its operands (`Scope.eval_conjunction` and its like), where an operand without a result
      answers no.
    * If the operands of an expression can be mended, so can the expression.  By induction a
      mended expression compiles without a warning, to a node that reads the same in every
      encounter (`Scope.exists_compile_mend`).
-/

namespace ActionPriority

/-! ### Mending -/

namespace Scope

mutual

/-- The expression with `false` in the place of each operand of a disjunction that does not
    compile to a test. -/
def mend (s : Scope) : Expr → Expr
  | .all operands => .all (s.mendEach operands)
  | .any operands => .any (s.mendDropped operands)
  | .not operand => .not (s.mend operand)
  | .compare op lhs rhs => .compare op (s.mend lhs) (s.mend rhs)
  | x => x

/-- Each of several expressions, mended. -/
def mendEach (s : Scope) : List Expr → List Expr
  | [] => []
  | x :: rest => s.mend x :: s.mendEach rest

/-- The operands of a disjunction: mended, or `false` for those that it drops. -/
def mendDropped (s : Scope) : List Expr → List Expr
  | [] => []
  | x :: rest =>
    (if (s.compileTest x).result.isSome then s.mend x else .const (.bool false)) ::
      s.mendDropped rest

end

variable {s : Scope}

theorem mendEach_eq (operands : List Expr) : s.mendEach operands = operands.map s.mend := by
  induction operands with
  | nil => rfl
  | cons x rest ih => rw [mendEach, ih, List.map_cons]

/-- An operand of a disjunction: mended, or `false` if it is dropped. -/
def mendOperand (s : Scope) (x : Expr) : Expr :=
  if (s.compileTest x).result.isSome then s.mend x else .const (.bool false)

theorem mendDropped_eq (operands : List Expr) :
    s.mendDropped operands = operands.map s.mendOperand := by
  induction operands with
  | nil => rfl
  | cons x rest ih => rw [mendDropped, ih, List.map_cons, mendOperand]

theorem mend_leaf {x : Expr} (hx : x.IsLeaf) : s.mend x = x := by
  cases x with
  | all operands | any operands => exact hx.elim
  | not operand => exact hx.elim
  | compare op lhs rhs => exact hx.elim
  | _ => rfl

end Scope

/-! ### Answers -/

/-- What comparing two values comes to.  An integer meets a float as a float. -/
def Comparison.between (op : Comparison) : Value → Value → Bool
  | .bool a, .bool b => op.holds a b
  | .int a, .int b => op.holds a b
  | .float a, .float b => op.holds a b
  | .time a, .time b => op.holds a b
  | .int a, .float b => op.holds (Float.ofInt a.toInt) b
  | .float a, .int b => op.holds a (Float.ofInt b.toInt)
  | _, _ => false

/-- What the test answers now, and no if there is none. -/
def Checked.answer (c : Checked Test) (e : Encounter) : Bool := c.result.any (·.eval e)

/-- The nodes read the same in every encounter. -/
def Node.Alike (n n' : Node) : Prop := ∀ e, n'.eval e = n.eval e

namespace Node.Alike

variable {n n' : Node}

theorem refl (n : Node) : n.Alike n := fun _ => rfl

theorem kind_eq (h : n.Alike n') : n'.kind = n.kind := by
  have hsome := h (.new {} 0)
  rw [← n'.kind_eval (.new {} 0), hsome, n.kind_eval]

/-- Only a test reads the same as a test. -/
theorem exists_test {t : Test} (h : (Node.test t).Alike n') :
    ∃ t', n' = .test t' ∧ ∀ e, t'.eval e = t.eval e := by
  have hkind := h.kind_eq
  cases n' with
  | test t' => exact ⟨t', rfl, fun e => Value.bool.inj (h e)⟩
  | _ => cases hkind

end Node.Alike

namespace Scope

open Checked (answer)

variable {s : Scope}

theorem eval_comparison {op : Comparison} {l r n : Node}
    (h : (comparison op l r).result = some n) (e : Encounter) :
    n.eval e = .bool (op.between (l.eval e) (r.eval e)) := by
  cases l <;> cases r <;> cases h <;> rfl

theorem eval_conjunction {operands : List (Checked Test)} {n : Node}
    (h : (conjunction operands).result = some n) (e : Encounter) :
    n.eval e = .bool (operands.all (·.answer e)) := by
  unfold conjunction at h
  split at h
  · cases h
  · obtain ⟨tests, htests, rfl⟩ := Option.map_eq_some_iff.mp h
    have hresults := mapM_eq_some_iff.mp htests
    have hall : operands.all (·.answer e) =
        (operands.map Checked.result).all (·.any (·.eval e)) := List.all_map.symm
    rw [hall, hresults, List.all_map, Node.eval, Test.eval, Test.evalAll_eq]
    rfl

theorem eval_disjunction {operands : List (Checked Test)} {n : Node}
    (h : (disjunction operands).result = some n) (e : Encounter) :
    n.eval e = .bool (operands.any (·.answer e)) := by
  unfold disjunction at h
  split at h
  · cases h
  · cases h
    rw [Node.eval, Test.eval, Test.evalAny_eq, List.any_filterMap]
    refine congrArg (fun f => Value.bool (operands.any f)) (funext fun c => ?_)
    rw [answer]
    cases c.result <;> rfl

/-! ### Operands that all compile -/

theorem conjunction_pure {tests : List Test} (hne : tests ≠ []) :
    conjunction (tests.map .pure) = .pure (.test (.all tests)) := by
  have hresults : (tests.map Checked.pure).mapM Checked.result = some tests := by
    rw [mapM_eq_some_iff, List.map_map]
    rfl
  have hwarnings : allWarnings (tests.map Checked.pure) = [] :=
    allWarnings_eq_nil_iff.mpr (List.forall_mem_map.mpr fun _ _ => rfl)
  unfold conjunction
  rw [if_neg (by simpa using hne), hresults, hwarnings]
  rfl

theorem disjunction_pure {tests : List Test} (hne : tests ≠ []) :
    disjunction (tests.map .pure) = .pure (.test (.any tests)) := by
  have hresults : (tests.map Checked.pure).filterMap Checked.result = tests := by
    rw [List.filterMap_map]
    exact List.filterMap_some
  have hwarnings : allWarnings (tests.map Checked.pure) = [] :=
    allWarnings_eq_nil_iff.mpr (List.forall_mem_map.mpr fun _ _ => rfl)
  unfold disjunction
  rw [hresults, hwarnings]
  split
  · next hnil => exact absurd rfl hne
  · rfl

/-! ### Mended expressions -/

/-- The expression can be mended: it compiles without a warning then, and the node reads as the
    one it compiles to as it is. -/
def Mends (s : Scope) (x : Expr) : Prop :=
  ∀ n, (s.compile x).result = some n → ∃ n', s.compile (s.mend x) = .pure n' ∧ n.Alike n'

theorem Mends.compileTest {x : Expr} {t : Test} (hx : s.Mends x)
    (h : (s.compileTest x).result = some t) :
    ∃ t', s.compileTest (s.mend x) = .pure t' ∧ ∀ e, t'.eval e = t.eval e := by
  obtain ⟨n, hn, ht⟩ := Option.bind_eq_some_iff.mp ((Checked.result_bind _ _).symm.trans h)
  obtain rfl : n = .test t := by
    cases n with
    | test t' => exact congrArg Node.test (Option.some.inj ht)
    | _ => cases ht
  obtain ⟨n', hn', halike⟩ := hx _ hn
  obtain ⟨t', rfl, heval⟩ := halike.exists_test
  refine ⟨t', ?_, heval⟩
  rw [Scope.compileTest, hn']
  rfl

/-- Operands that compile without a warning, each to the answer of what it replaces, make up a
    list of tests with these answers. -/
theorem exists_tests {operands : List Expr} {f : Expr → Expr}
    (h : ∀ y ∈ operands, ∃ t, s.compileTest (f y) = .pure t ∧
      ∀ e, t.eval e = (s.compileTest y).answer e) :
    ∃ tests : List Test, (operands.map f).map s.compileTest = tests.map .pure ∧
      (operands ≠ [] → tests ≠ []) ∧
      ∀ e, tests.map (·.eval e) = (operands.map s.compileTest).map (·.answer e) := by
  induction operands with
  | nil => exact ⟨[], rfl, fun hne => absurd rfl hne, fun _ => rfl⟩
  | cons y rest ih =>
    -- The tests are chosen one by one, since `h` has them for each operand on its own.
    obtain ⟨t, ht, hanswer⟩ := h y List.mem_cons_self
    obtain ⟨tests, htests, _, hanswers⟩ := ih fun z hz => h z (List.mem_cons_of_mem _ hz)
    refine ⟨t :: tests, ?_, fun _ => List.cons_ne_nil _ _, fun e => ?_⟩
    · simp only [List.map_cons, ht, htests]
    · simp only [List.map_cons, hanswer, hanswers]

theorem answer_of_result {c : Checked Test} {t : Test} (h : c.result = some t) (e : Encounter) :
    c.answer e = t.eval e := by
  rw [answer, h]
  rfl

section Standard

variable (hs : s.catalog = .standard)

include hs

/-- An operand of a disjunction compiles without a warning once it is mended.  If it was dropped
    it answers no. -/
theorem Mends.operand {y : Expr} (hy : s.Mends y) :
    ∃ t, s.compileTest (s.mendOperand y) = .pure t ∧
      ∀ e, t.eval e = (s.compileTest y).answer e := by
  rw [mendOperand]
  split
  · next hkept =>
    obtain ⟨t, ht⟩ := Option.isSome_iff_exists.mp hkept
    obtain ⟨t', ht', heval⟩ := hy.compileTest ht
    exact ⟨t', ht', fun e => (heval e).trans (answer_of_result ht e).symm⟩
  · next hdropped =>
    rw [Bool.not_eq_true, Option.isSome_eq_false_iff, Option.isNone_iff_eq_none] at hdropped
    refine ⟨.literal false, ?_, fun e => ?_⟩
    · rw [Scope.compileTest, compile, catalogued_standard hs]
      rfl
    · rw [answer, hdropped]
      rfl

theorem mends_all {operands : List Expr} (h : ∀ y ∈ operands, s.Mends y) :
    s.Mends (.all operands) := by
  intro n hn
  obtain ⟨hne, hresults⟩ := (isSome_compile_all hs operands).mp (Option.isSome_of_mem hn)
  rw [compile_all hs] at hn
  -- The conjunction compiles, so no operand is missing, and each of them answers as it did.
  have heach : ∀ y ∈ operands, ∃ t, s.compileTest (s.mend y) = .pure t ∧
      ∀ e, t.eval e = (s.compileTest y).answer e := by
    intro y hy
    obtain ⟨t, ht⟩ := Option.isSome_iff_exists.mp (hresults y hy)
    obtain ⟨t', ht', heval⟩ := (h y hy).compileTest ht
    exact ⟨t', ht', fun e => (heval e).trans (answer_of_result ht e).symm⟩
  obtain ⟨tests, htests, hsome, hanswers⟩ := exists_tests heach
  have htestsne := hsome hne
  refine ⟨.test (.all tests), ?_, fun e => ?_⟩
  · rw [mend, mendEach_eq, compile_all hs, htests, conjunction_pure htestsne]
  · have hall := congrArg (List.all · id) (hanswers e)
    rw [eval_conjunction hn e, Node.eval, Test.eval, Test.evalAll_eq]
    simpa [Function.comp_def] using hall

theorem mends_any {operands : List Expr} (h : ∀ y ∈ operands, s.Mends y) :
    s.Mends (.any operands) := by
  intro n hn
  obtain ⟨y, hy, _⟩ := (isSome_compile_any hs operands).mp (Option.isSome_of_mem hn)
  rw [compile_any hs] at hn
  -- Kept or dropped, each operand has something in its place that answers as it did.
  obtain ⟨tests, htests, hsome, hanswers⟩ := exists_tests fun y hy => Mends.operand hs (h y hy)
  have htestsne := hsome (List.ne_nil_of_mem hy)
  refine ⟨.test (.any tests), ?_, fun e => ?_⟩
  · rw [mend, mendDropped_eq, compile_any hs, htests, disjunction_pure htestsne]
  · have hany := congrArg (List.any · id) (hanswers e)
    rw [eval_disjunction hn e, Node.eval, Test.eval, Test.evalAny_eq]
    simpa [Function.comp_def] using hany

theorem mends_not {operand : Expr} (h : s.Mends operand) : s.Mends (.not operand) := by
  intro n hn
  rw [compile_not hs, Checked.result_bind] at hn
  obtain ⟨t, ht, hnot⟩ := Option.bind_eq_some_iff.mp hn
  cases hnot
  obtain ⟨t', ht', heval⟩ := h.compileTest ht
  refine ⟨.test (.not t'), ?_, fun e => ?_⟩
  · rw [mend, compile_not hs, ht']
    rfl
  · simp only [Node.eval, Test.eval, heval]

theorem mends_compare {op : Comparison} {lhs rhs : Expr} (hl : s.Mends lhs) (hr : s.Mends rhs) :
    s.Mends (.compare op lhs rhs) := by
  intro n hn
  rw [compile_compare hs, Checked.result_bind] at hn
  obtain ⟨l, hlresult, hn⟩ := Option.bind_eq_some_iff.mp hn
  rw [Checked.result_bind] at hn
  obtain ⟨r, hrresult, hn⟩ := Option.bind_eq_some_iff.mp hn
  obtain ⟨l', hl', hlalike⟩ := hl l hlresult
  obtain ⟨r', hr', hralike⟩ := hr r hrresult
  -- The kinds are those of before, so the sides can still be compared.
  have hcomparable : (comparison op l' r').result.isSome = true := by
    rw [isSome_comparison, hlalike.kind_eq, hralike.kind_eq, ← isSome_comparison op, hn]
    rfl
  obtain ⟨n', hn'⟩ := Option.isSome_iff_exists.mp hcomparable
  refine ⟨n', ?_, fun e => ?_⟩
  · rw [mend, compile_compare hs, hl', hr']
    exact (clear_comparison op l' r').eq_pure hn'
  · rw [eval_comparison hn e, eval_comparison hn' e, hlalike e, hralike e]

theorem mends_leaf {x : Expr} (hx : x.IsLeaf) : s.Mends x := by
  intro n hn
  rw [mend_leaf hx]
  exact ⟨n, (clear_compile hs hx).eq_pure hn, .refl n⟩

/-- Every expression can be mended. -/
theorem mends (x : Expr) : s.Mends x := by
  induction x using Expr.treeInduction with
  | all operands ih => exact mends_all hs ih
  | any operands ih => exact mends_any hs ih
  | not operand ih => exact mends_not hs ih
  | compare op lhs rhs ihl ihr => exact mends_compare hs ihl ihr
  | leaf x hx => exact mends_leaf hs hx

end Standard

/-- An expression that compiles does so without a warning once each dropped operand of its
    disjunctions is replaced by `false`.  The node is of the same kind, and has the same value in
    every later encounter. -/
theorem exists_compile_mend {e : Encounter} {caster : CombatantId} {x : Expr} {n : Node}
    (h : ((Scope.of e caster .standard).compile x).result = some n) :
    let s := Scope.of e caster .standard
    ∃ n', s.compile (s.mend x) = ⟨some n', []⟩ ∧ n'.kind = n.kind ∧
      ∀ later : Encounter, n'.eval later = n.eval later := by
  intro s
  obtain ⟨n', hn', halike⟩ := mends rfl x n h
  exact ⟨n', hn', halike.kind_eq, halike⟩

/-- Whether the knight, who uses no runes, has neither a Death rune nor the plague on its target
    comes to whether the plague is missing there. -/
theorem exists_compile_mend_plague :
    let s := Scope.of Encounter.duel ⟨1⟩ .standard
    let plague : Expr := .effectActive Encounter.plague.id .currentTarget
    let x : Expr := .not (.any [.compare .ge (.runeCount .death) (.const (.int 1)), plague])
    s.mend x = .not (.any [.const (.bool false), plague]) ∧
      ∃ n n', (s.compile x).result = some n ∧ s.compile (s.mend x) = ⟨some n', []⟩ ∧
        n'.kind = n.kind ∧ ∀ later : Encounter, n'.eval later = n.eval later := by
  intro s plague x
  have hcompiles : ∃ n, (s.compile x).result = some n := ⟨_, rfl⟩
  obtain ⟨n, hn⟩ := hcompiles
  obtain ⟨n', hmend, hkind, heval⟩ := exists_compile_mend hn
  exact ⟨rfl, n, n', hn, hmend, hkind, heval⟩

end Scope

end ActionPriority
