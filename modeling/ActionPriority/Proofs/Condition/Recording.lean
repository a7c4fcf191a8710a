import ActionPriority.PriorityList.Entry
import ActionPriority.Proofs.Condition.Compiling

/-! # Recording Warnings

    Warnings may be written down at once, wherever one comes up.  All that is compiled then writes
    to the same `Record`: the messages so far, and the entry that the next message will be
    attributed to.  That entry stays noted until another one is.

    * A `Recording` is a computation that writes to the record and may come to nothing.  What it
      has written stays when it does.
    * It records a result with warnings if it comes to the same result and writes down the same
      warnings in the same order, whatever was on the record before (`Recording.Records`).
    * Expressions are compiled in this way by `Scope.compileInPlace`, operand by operand.  By
      induction over the expression this records what compiling gives
      (`Scope.records_compileInPlace`).
-/

namespace ActionPriority

/-! ### Records -/

/-- What compiling writes to. -/
structure Record where
  /-- The entry that messages are attributed to. -/
  entry : Option Uuid
  diagnostics : Diagnostics

/-- The record after some warnings about the entry. -/
def Record.noting (r : Record) (warnings : List Warning) : Record :=
  { r with
    diagnostics := ⟨r.diagnostics.messages ++ warnings.map fun w => ⟨.warning, r.entry, w.text⟩⟩ }

namespace Record

@[simp] theorem noting_nil (r : Record) : r.noting [] = r := by
  obtain ⟨entry, ⟨messages⟩⟩ := r
  simp [noting]

@[simp] theorem noting_noting (r : Record) (ws more : List Warning) :
    (r.noting ws).noting more = r.noting (ws ++ more) := by
  simp only [noting, List.map_append, List.append_assoc]

end Record

/-- A computation that writes to a record, and may come to nothing. -/
abbrev Recording := OptionT (StateM Record)

namespace Recording

variable {α β : Type}

/-- What a computation comes to, and the record after it. -/
def exec (x : Recording α) (r : Record) : Option α × Record := x.run.run r

/-- One warning is written down. -/
def note (w : Warning) : Recording Unit :=
  modify fun r => { r with diagnostics := r.diagnostics.warn r.entry w.text }

/-- Some warnings are written down, one by one. -/
def noteAll : List Warning → Recording Unit
  | [] => return
  | w :: rest => do
    note w
    noteAll rest

/-- A warning is written down, and that is the end of it. -/
def warn (w : Warning) : Recording α := do
  note w
  failure

/-- Goes on also if the computation comes to nothing. -/
def attempt (x : Recording α) : Recording (Option α) := OptionT.lift x.run

/-- What is there already, without a word if it is not. -/
def ofOption (found : Option α) : Recording α := OptionT.mk (Pure.pure found)

/-- A result after its warnings have been written down. -/
def ofChecked (c : Checked α) : Recording α := do
  noteAll c.warnings
  ofOption c.result

@[simp] theorem exec_pure (a : α) (r : Record) : exec (pure a) r = (some a, r) := rfl

@[simp] theorem exec_failure (r : Record) : exec (failure : Recording α) r = (none, r) := rfl

@[simp] theorem exec_modify (f : Record → Record) (r : Record) :
    exec (modify f) r = (some ⟨⟩, f r) := rfl

@[simp] theorem exec_ofOption (found : Option α) (r : Record) :
    exec (ofOption found) r = (found, r) := rfl

@[simp] theorem exec_attempt (x : Recording α) (r : Record) :
    exec (attempt x) r = (some (exec x r).1, (exec x r).2) := rfl

/-- A computation that comes to nothing ends where it stands. -/
@[simp] theorem exec_bind (x : Recording α) (f : α → Recording β) (r : Record) :
    exec (x >>= f) r =
      match exec x r with
      | (some a, after) => exec (f a) after
      | (none, after) => (none, after) := by
  simp only [exec, OptionT.run_bind, Option.elimM, StateT.run_bind]
  show (let (found, after) := x.run.run r
    (found.elim (pure none) fun a => (f a).run : StateM Record (Option β)).run after) = _
  obtain ⟨found, after⟩ := x.run.run r
  cases found <;> rfl

@[simp] theorem exec_note (w : Warning) (r : Record) : exec (note w) r = (some (), r.noting [w]) :=
  rfl

@[simp] theorem exec_noteAll (ws : List Warning) (r : Record) :
    exec (noteAll ws) r = (some (), r.noting ws) := by
  induction ws generalizing r with
  | nil => simp [noteAll]
  | cons w rest ih =>
    simp only [noteAll, exec_bind, exec_note, ih, Record.noting_noting, List.singleton_append]

end Recording

/-! ### What is recorded -/

namespace Recording

variable {α β : Type} {x : Recording α} {c : Checked α}

/-- The computation comes to the result, and writes down its warnings. -/
def Records (x : Recording α) (c : Checked α) : Prop :=
  ∀ r, exec x r = (c.result, r.noting c.warnings)

namespace Records

theorem pure (a : α) : Records (Pure.pure a) (Checked.pure a) := fun r => by
  simp [Checked.pure]

theorem warn (w : Warning) : Records (Recording.warn w : Recording α) (.fail w) := fun _ => rfl

theorem failure : Records (failure : Recording α) .silent := fun r => by
  simp [Checked.silent]

theorem ofChecked (c : Checked α) : Records (Recording.ofChecked c) c := fun r => by
  simp [Recording.ofChecked]

/-- What goes on with a result goes on recording. -/
theorem bind {f : α → Recording β} {g : α → Checked β} (hx : Records x c)
    (hf : ∀ a, Records (f a) (g a)) : Records (x >>= f) (c >>= g) := by
  intro r
  rw [exec_bind, hx r, Checked.result_bind]
  cases hresult : c.result with
  | none =>
    rw [Checked.warnings_bind_of_none hresult]
    rfl
  | some a =>
    rw [Checked.warnings_bind_of_some hresult]
    dsimp only
    rw [hf a, Record.noting_noting]
    rfl

end Records

end Recording

/-! ### Compiling in place -/

namespace Scope

variable {s : Scope}

/-- What the catalog gives for an expression of `form`.  Unless it has the rule of that form, `made`
    is not even begun. -/
def cataloguedInPlace (s : Scope) (form : Form) (made : Recording Node) : Recording Node :=
  match s.catalog.find? form.name with
  | none => .warn (.unregistered form)
  | some .inert => failure
  | some (.rule other) => if other = form then made else .ofChecked (foreign other)

/-- The node that a computation comes to, which has to be a test. -/
def asTestInPlace (x : Recording Node) : Recording Test := do
  let node ← x
  .ofChecked (asTest node)

mutual

/-- Compiles an expression, writing down each warning where it comes up. -/
def compileInPlace (s : Scope) : Expr → Recording Node
  | .all operands => s.cataloguedInPlace .all <|
    if operands.isEmpty then .warn .noOperands
    else do
      let tests ← s.compileTestsInPlace operands
      let tests ← .ofOption (tests.mapM id)
      return .test (.all tests)
  | .any operands => s.cataloguedInPlace .any do
    let tests ← s.compileTestsInPlace operands
    match tests.filterMap id with
    | [] => .warn .noValidOperands
    | tests => return .test (.any tests)
  | .not operand => s.cataloguedInPlace .not do
    let test ← asTestInPlace (s.compileInPlace operand)
    return .test (.not test)
  | .compare op lhs rhs => s.cataloguedInPlace .compare do
    let l ← s.compileInPlace lhs
    let r ← s.compileInPlace rhs
    .ofChecked (comparison op l r)
  | x => .ofChecked (s.compile x)

/-- Compiles each of several expressions to a test, also if some of them come to nothing. -/
def compileTestsInPlace (s : Scope) : List Expr → Recording (List (Option Test))
  | [] => return []
  | x :: rest => do
    let test ← .attempt (asTestInPlace (s.compileInPlace x))
    let tests ← s.compileTestsInPlace rest
    return test :: tests

end

open Recording (Records)

theorem records_catalogued {form : Form} {x : Recording Node} {made : Checked Node}
    (h : Records x made) : Records (s.cataloguedInPlace form x) (s.catalogued form made) := by
  unfold cataloguedInPlace catalogued
  generalize s.catalog.find? form.name = recipe
  cases recipe with
  | none => exact .warn _
  | some recipe =>
    cases recipe with
    | inert => exact .failure
    | rule other =>
      by_cases hsame : other = form
      · simp only [if_pos hsame]
        exact h
      · simp only [if_neg hsame]
        exact .ofChecked _

theorem records_asTest {x : Recording Node} {c : Checked Node} (h : Records x c) :
    Records (asTestInPlace x) (c.bind asTest) := h.bind fun node => .ofChecked (asTest node)

/-- Operands write down their warnings in turn, and whatever comes of one, the next is begun. -/
theorem exec_compileTestsInPlace {operands : List Expr}
    (h : ∀ y ∈ operands, Records (s.compileInPlace y) (s.compile y)) (r : Record) :
    (s.compileTestsInPlace operands).exec r =
      (some ((operands.map s.compileTest).map Checked.result),
        r.noting (allWarnings (operands.map s.compileTest))) := by
  induction operands generalizing r with
  | nil => simp [compileTestsInPlace, allWarnings]
  | cons y rest ih =>
    have hy : Records (asTestInPlace (s.compileInPlace y)) (s.compileTest y) :=
      records_asTest (h y List.mem_cons_self)
    have hrest := ih fun z hz => h z (List.mem_cons_of_mem _ hz)
    simp only [compileTestsInPlace, Recording.exec_bind, Recording.exec_attempt, hy r, hrest,
      Recording.exec_pure, Record.noting_noting]
    rfl

/-- Compiling in place records what compiling gives. -/
theorem records_compileInPlace (s : Scope) (x : Expr) :
    Records (s.compileInPlace x) (s.compile x) := by
  induction x using Expr.treeInduction with
  | all operands ih =>
    rw [compileInPlace, compile, compileTests_eq]
    refine records_catalogued ?_
    unfold conjunction
    rw [List.isEmpty_map]
    split
    · exact .warn _
    · intro r
      simp only [Recording.exec_bind, exec_compileTestsInPlace ih, Recording.exec_ofOption]
      generalize operands.map s.compileTest = results
      rw [List.mapM_map, Function.id_comp]
      cases results.mapM Checked.result <;> rfl
  | any operands ih =>
    rw [compileInPlace, compile, compileTests_eq]
    refine records_catalogued fun r => ?_
    unfold disjunction
    simp only [Recording.exec_bind, exec_compileTestsInPlace ih]
    generalize operands.map s.compileTest = results
    rw [List.filterMap_map, Function.id_comp]
    cases results.filterMap Checked.result with
    | nil =>
      dsimp only
      rw [Records.warn, Record.noting_noting]
      rfl
    | cons t rest => rfl
  | not operand ih =>
    rw [compileInPlace, compile]
    exact records_catalogued ((records_asTest ih).bind fun test => .pure (Node.test (.not test)))
  | compare op lhs rhs ihl ihr =>
    rw [compileInPlace, compile]
    exact records_catalogued (ihl.bind fun l => ihr.bind fun r => .ofChecked (comparison op l r))
  | leaf x hx =>
    cases x with
    | all operands | any operands => exact hx.elim
    | not operand => exact hx.elim
    | compare op lhs rhs => exact hx.elim
    | _ => exact .ofChecked _

end Scope

end ActionPriority
