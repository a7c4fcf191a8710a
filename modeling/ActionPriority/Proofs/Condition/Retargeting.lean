import ActionPriority.Proofs.Condition.DroppedOperands

/-! # Retargeting

    The same combatant can be written down in several ways.  If each target of an expression is
    written in another way (`Expr.retarget`), and both ways stand for the same combatant wherever
    `inv` holds, then nothing else about the expression changes there.

    * The two cells are looked up to the same combatant (`Cell.Alike`), so the effects that are
      asked about are the same (`EffectRef.Alike`).
    * What operands hand on to what is made of them goes through every form, whatever the catalog
      (`Scope.related_conjunction` and its like).
    * By induction over the expression, both ways compile or neither does, to nodes of one kind
      that read the same wherever `inv` holds (`Scope.related_compile`).
-/

namespace ActionPriority

/-! ### Expressions -/

mutual

/-- The expression with each target `r` written as `f r`. -/
def Expr.retarget (f : TargetRef → TargetRef) : Expr → Expr
  | .all operands => .all (Expr.retargetEach f operands)
  | .any operands => .any (Expr.retargetEach f operands)
  | .not operand => .not (operand.retarget f)
  | .compare op lhs rhs => .compare op (lhs.retarget f) (rhs.retarget f)
  | .effectActive spell target => .effectActive spell (f target)
  | .effectRemaining spell target => .effectRemaining spell (f target)
  | .effectPeriod spell target => .effectPeriod spell (f target)
  | .effectIncrease measure spell target => .effectIncrease measure spell (f target)
  | x => x

/-- Each of several expressions, retargeted. -/
def Expr.retargetEach (f : TargetRef → TargetRef) : List Expr → List Expr
  | [] => []
  | x :: rest => x.retarget f :: Expr.retargetEach f rest

end

theorem Expr.retargetEach_eq (f : TargetRef → TargetRef) (operands : List Expr) :
    Expr.retargetEach f operands = operands.map (·.retarget f) := by
  induction operands with
  | nil => rfl
  | cons x rest ih => rw [retargetEach, ih, List.map_cons]

/-! ### What reads the same -/

section Alike

variable {inv : Encounter → Prop}

/-- Wherever `inv` holds the cells stand for the same combatant. -/
def Cell.Alike (inv : Encounter → Prop) (cell cell' : Cell) : Prop :=
  ∀ e, inv e → cell'.resolve e = cell.resolve e

/-- The same effect of the same caster, on cells that are alike. -/
structure EffectRef.Alike (inv : Encounter → Prop) (r r' : EffectRef) : Prop where
  caster : r'.caster = r.caster
  spell : r'.spell = r.spell
  target : r.target.Alike inv r'.target

/-- Wherever `inv` holds the tests answer the same. -/
def Test.Alike (inv : Encounter → Prop) (t t' : Test) : Prop := ∀ e, inv e → t'.eval e = t.eval e

/-- The nodes are of one kind, and wherever `inv` holds they read the same. -/
structure Node.AlikeWhere (inv : Encounter → Prop) (n n' : Node) : Prop where
  kind : n'.kind = n.kind
  eval : ∀ e, inv e → n'.eval e = n.eval e

namespace EffectRef.Alike

variable {r r' : EffectRef} {e : Encounter}

theorem effect? (h : r.Alike inv r') (he : inv e) : r'.effect? e = r.effect? e := by
  rw [EffectRef.effect?, EffectRef.effect?, h.target e he, h.caster, h.spell]

theorem isActive (h : r.Alike inv r') (he : inv e) : r'.isActive e = r.isActive e := by
  rw [EffectRef.isActive, EffectRef.isActive, h.effect? he]

theorem remaining (h : r.Alike inv r') (he : inv e) : r'.remaining e = r.remaining e := by
  rw [EffectRef.remaining, EffectRef.remaining, h.effect? he]

theorem period (h : r.Alike inv r') (he : inv e) : r'.period e = r.period e := by
  rw [EffectRef.period, EffectRef.period, h.effect? he]

theorem evalIncrease (h : r.Alike inv r') (he : inv e) (measure : Increase) (p : Periodic) :
    FloatTerm.evalIncrease e measure r' p = FloatTerm.evalIncrease e measure r p := by
  rw [FloatTerm.evalIncrease, FloatTerm.evalIncrease, Cell.combatant?, Cell.combatant?,
    h.target e he, h.caster, h.spell]

end EffectRef.Alike

namespace Node.AlikeWhere

variable {n n' : Node}

theorem refl (n : Node) : n.AlikeWhere inv n := ⟨rfl, fun _ _ => rfl⟩

theorem test {t t' : Test} (h : t.Alike inv t') : (Node.test t).AlikeWhere inv (.test t') :=
  ⟨rfl, fun e he => congrArg Value.bool (h e he)⟩

/-- Nodes that answer yes or no, the same wherever `inv` holds. -/
theorem of_answers {p p' : Encounter → Bool}
    (h : ∀ e, n.eval e = .bool (p e)) (h' : ∀ e, n'.eval e = .bool (p' e))
    (hp : ∀ e, inv e → p' e = p e) : n.AlikeWhere inv n' := by
  refine ⟨?_, fun e he => ?_⟩
  · rw [← n.kind_eval (.new {} 0), ← n'.kind_eval (.new {} 0), h, h']
    rfl
  · rw [h, h', hp e he]

end Node.AlikeWhere

end Alike

/-! ### Related results -/

namespace Checked

variable {α α' β β' : Type} {R : α → α' → Prop} {Q : β → β' → Prop}

/-- Both have a result and the results are related, or neither has one. -/
def Related (R : α → α' → Prop) (c : Checked α) (c' : Checked α') : Prop :=
  Option.Rel R c.result c'.result

namespace Related

variable {c : Checked α} {c' : Checked α'} {f : α → Checked β} {f' : α' → Checked β'}

theorem refl {R : α → α → Prop} (hR : ∀ a, R a a) (c : Checked α) : c.Related R c := by
  unfold Related
  cases c.result with
  | none => exact .none
  | some a => exact .some (hR a)

theorem pure {a : α} {a' : α'} (h : R a a') : (Checked.pure a).Related R (Checked.pure a') :=
  .some h

theorem isSome (h : c.Related R c') : c'.result.isSome = c.result.isSome := by
  unfold Related at h
  generalize c.result = found at h
  generalize c'.result = found' at h
  cases h <;> rfl

/-- Where both have a result or neither has, the results are all there is to relate. -/
theorem of_isSome (hboth : c'.result.isSome = true ↔ c.result.isSome = true)
    (h : ∀ a a', c.result = some a → c'.result = some a' → R a a') : c.Related R c' := by
  unfold Related
  cases hc : c.result with
  | none =>
    rw [hc] at hboth
    rw [Option.not_isSome_iff_eq_none.mp fun hsome => Bool.false_ne_true (hboth.mp hsome)]
    exact .none
  | some a =>
    rw [hc] at hboth
    obtain ⟨a', hc'⟩ := Option.isSome_iff_exists.mp (hboth.mpr rfl)
    rw [hc']
    exact .some (h a a' hc hc')

theorem bind (hc : c.Related R c') (hf : ∀ a a', R a a' → (f a).Related Q (f' a')) :
    (c >>= f).Related Q (c' >>= f') := by
  unfold Related at hc ⊢
  rw [result_bind, result_bind]
  generalize c.result = found at hc
  generalize c'.result = found' at hc
  cases hc with
  | none => exact .none
  | some h => exact hf _ _ h

end Related

end Checked

/-! ### Compiling -/

namespace Scope

variable {inv : Encounter → Prop} {s : Scope}

open Checked (Related answer)

/-- Whatever the catalog makes of a form, it makes of both results. -/
theorem related_catalogued {made made' : Checked Node} (form : Form)
    (h : made.Related (Node.AlikeWhere inv) made') :
    (s.catalogued form made).Related (Node.AlikeWhere inv) (s.catalogued form made') := by
  unfold catalogued
  split
  · exact .none
  · exact .none
  · split
    · exact h
    · exact .refl .refl _

/-- Both nodes are tests that are alike, or neither is a test. -/
theorem related_asTest {n n' : Node} (h : n.AlikeWhere inv n') :
    (asTest n).Related (Test.Alike inv) (asTest n') := by
  obtain ⟨hkind, heval⟩ := h
  -- Nodes of different kinds are ruled out.
  cases n <;> cases n' <;> cases hkind
  case test.test.refl t t' => exact .some fun e he => Value.bool.inj (heval e he)
  all_goals exact .none

theorem related_comparison (op : Comparison) {l l' r r' : Node} (hl : l.AlikeWhere inv l')
    (hr : r.AlikeWhere inv r') :
    (comparison op l r).Related (Node.AlikeWhere inv) (comparison op l' r') := by
  refine .of_isSome ?_ fun n n' hn hn' => ?_
  · rw [isSome_comparison, isSome_comparison, hl.kind, hr.kind]
  · refine .of_answers (eval_comparison hn) (eval_comparison hn') fun e he => ?_
    rw [hl.eval e he, hr.eval e he]

theorem related_compileTest {x y : Expr}
    (h : (s.compile x).Related (Node.AlikeWhere inv) (s.compile y)) :
    (s.compileTest x).Related (Test.Alike inv) (s.compileTest y) :=
  h.bind fun _ _ => related_asTest

section Operands

variable {α : Type} {operands : List α} {g g' : α → Checked Test}
  (h : ∀ y ∈ operands, (g y).Related (Test.Alike inv) (g' y))

include h

/-- The answers are the same wherever `inv` holds.  An operand without a result answers no both
    times. -/
theorem map_answer_eq {e : Encounter} (he : inv e) :
    (operands.map g').map (·.answer e) = (operands.map g).map (·.answer e) := by
  rw [List.map_map, List.map_map]
  refine List.map_congr_left fun y hy => ?_
  have hy := h y hy
  unfold Related at hy
  simp only [Function.comp_apply, answer]
  generalize (g y).result = found at hy
  generalize (g' y).result = found' at hy
  cases hy with
  | none => rfl
  | some halike => exact halike e he

theorem related_conjunction :
    (conjunction (operands.map g)).Related (Node.AlikeWhere inv)
      (conjunction (operands.map g')) := by
  refine .of_isSome ?_ fun n n' hn hn' => ?_
  · rw [isSome_conjunction, isSome_conjunction, List.forall_mem_map, List.forall_mem_map]
    refine and_congr (by simp) (forall₂_congr fun y hy => ?_)
    rw [(h y hy).isSome]
  · refine .of_answers (eval_conjunction hn) (eval_conjunction hn') fun e he => ?_
    have hall := congrArg (List.all · id) (map_answer_eq h he)
    simpa only [List.all_map, Function.id_comp] using hall

theorem related_disjunction :
    (disjunction (operands.map g)).Related (Node.AlikeWhere inv)
      (disjunction (operands.map g')) := by
  refine .of_isSome ?_ fun n n' hn hn' => ?_
  · simp only [isSome_disjunction, List.mem_map, exists_exists_and_eq_and]
    refine exists_congr fun y => and_congr_right fun hy => ?_
    rw [(h y hy).isSome]
  · refine .of_answers (eval_disjunction hn) (eval_disjunction hn') fun e he => ?_
    have hany := congrArg (List.any · id) (map_answer_eq h he)
    simpa only [List.any_map, Function.id_comp] using hany

end Operands

/-! ### Retargeted expressions -/

/-- Written as `f` has it, each target gives a cell that is alike, or still none. -/
def Retargets (s : Scope) (inv : Encounter → Prop) (f : TargetRef → TargetRef) : Prop :=
  ∀ target, (s.cell target).Related (Cell.Alike inv) (s.cell (f target))

section Retargeted

variable {f : TargetRef → TargetRef} (hf : s.Retargets inv f)

include hf

theorem related_effect (id : SpellId) (target : TargetRef) :
    (s.effect id target).Related (EffectRef.Alike inv) (s.effect id (f target)) :=
  .bind (.refl (fun _ => rfl) (s.periodic id)) fun _ _ _ =>
    .bind (hf target) fun _ _ halike => .pure ⟨rfl, rfl, halike⟩

/-- A question about targets, or one that has nothing to do with them, reads the same. -/
theorem related_compile_leaf {x : Expr} (hx : x.IsLeaf) :
    (s.compile x).Related (Node.AlikeWhere inv) (s.compile (x.retarget f)) := by
  cases x with
  | all operands | any operands => exact hx.elim
  | not operand => exact hx.elim
  | compare op lhs rhs => exact hx.elim
  | effectActive id target =>
    refine related_catalogued _ (.bind (related_effect hf id target) fun r r' halike => .pure ?_)
    exact .test fun e he => halike.isActive he
  | effectRemaining id target =>
    refine related_catalogued _ (.bind (related_effect hf id target) fun r r' halike => .pure ?_)
    exact ⟨rfl, fun e he => congrArg Value.time (halike.remaining he)⟩
  | effectPeriod id target =>
    refine related_catalogued _ (.bind (related_effect hf id target) fun r r' halike => .pure ?_)
    exact ⟨rfl, fun e he => congrArg Value.time (halike.period he)⟩
  | effectIncrease measure id target =>
    refine related_catalogued _ (.bind (.refl (fun _ => rfl) _) fun p p' hp => ?_)
    obtain rfl : p = p' := hp
    refine .bind (hf target) fun cell cell' halike => .pure ⟨rfl, fun e he => ?_⟩
    have heffect : EffectRef.Alike inv ⟨s.caster, id, cell⟩ ⟨s.caster, id, cell'⟩ :=
      ⟨rfl, rfl, halike⟩
    exact congrArg Value.float (heffect.evalIncrease he measure p)
  | _ => exact .refl .refl _

/-- Written in either way an expression compiles or does not, to nodes that read the same wherever
    `inv` holds. -/
theorem related_compile (x : Expr) :
    (s.compile x).Related (Node.AlikeWhere inv) (s.compile (x.retarget f)) := by
  induction x using Expr.treeInduction with
  | all operands ih =>
    rw [Expr.retarget, Expr.retargetEach_eq, compile, compile, compileTests_eq, compileTests_eq,
      List.map_map]
    exact related_catalogued _ (related_conjunction fun y hy => related_compileTest (ih y hy))
  | any operands ih =>
    rw [Expr.retarget, Expr.retargetEach_eq, compile, compile, compileTests_eq, compileTests_eq,
      List.map_map]
    exact related_catalogued _ (related_disjunction fun y hy => related_compileTest (ih y hy))
  | not operand ih =>
    refine related_catalogued _ ((related_compileTest ih).bind fun t t' halike => .pure ?_)
    exact .test fun e he => congrArg (!·) (halike e he)
  | compare op lhs rhs ihl ihr =>
    exact related_catalogued _
      (ihl.bind fun l l' hl => ihr.bind fun r r' hr => related_comparison op hl hr)
  | leaf x hx => exact related_compile_leaf hf hx

end Retargeted

end Scope

end ActionPriority
