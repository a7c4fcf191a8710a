import ActionPriority.PriorityList.Rotation
import ActionPriority.Proofs.Condition.Compiling
import ActionPriority.Proofs.Encounter.Steering

/-! # What Compiling Reads

    A list is compiled with the whole encounter at hand.  But all that is ever looked up in it is
    the roster and, of the caster, the label, the spells and whether it has a rune bar.

    * Two scopes have what is read in common (`Scope.Shares`) if they are of one caster and one
      catalog, if the caster has the same profile in both encounters or is missing from both, and
      if the rosters are the same.  Everything else may differ.
    * Then each look-up finds the same in both, and fails with the same warning
      (`Shares.cell`, `Shares.spell` and so on).
    * So each rule does too, and by induction over the expression everything compiles to the same
      node with the same warnings (`Shares.compile`).
    * What is made of conditions follows: actions, entries with their messages, and lists
      (`Rotation.compile_congr`).
-/

namespace ActionPriority

namespace Scope

/-- Operands compile to the same tests in two scopes, if each of them compiles to the same. -/
theorem compileTests_congr {s s' : Scope} {operands : List Expr}
    (heach : ∀ y ∈ operands, s'.compile y = s.compile y) :
    s'.compileTests operands = s.compileTests operands := by
  rw [compileTests_eq, compileTests_eq]
  refine List.map_congr_left fun y hy => ?_
  rw [compileTest, compileTest, heach y hy]

/-- What compiling reads is the same in both scopes. -/
structure Shares (s s' : Scope) : Prop where
  caster : s'.caster = s.caster
  catalog : s'.catalog = s.catalog
  profile : s'.caster?.map Combatant.profile = s.caster?.map Combatant.profile
  roster : s'.roster = s.roster

namespace Shares

variable {s s' : Scope} (h : s.Shares s')

include h

/-! ### The caster -/

/-- What is read off the profile of the caster is the same. -/
theorem map_caster? {α : Type} (f : Combatant → α) (g : Combatant.Profile → α)
    (hf : ∀ c, f c = g c.profile) : s'.caster?.map f = s.caster?.map f := by
  have hread : f = g ∘ Combatant.profile := funext hf
  rw [hread, ← Option.map_map, ← Option.map_map, h.profile]

theorem label : s'.label = s.label := by
  unfold Scope.label
  rw [h.map_caster? (·.label) (·.label) fun _ => rfl, h.caster]

theorem spells : s'.spells = s.spells := by
  unfold Scope.spells
  rw [h.map_caster? (·.spells) (·.spells) fun _ => rfl]

theorem usesRunes : s'.usesRunes = s.usesRunes := by
  have hread : ∀ t : Scope, t.usesRunes = (t.caster?.map (·.runes.isSome)).getD false := by
    intro t
    unfold Scope.usesRunes
    cases t.caster? <;> rfl
  rw [hread, hread, h.map_caster? (·.runes.isSome) (·.usesRunes) fun _ => rfl]

/-! ### Look-ups -/

theorem cell (target : TargetRef) : s'.cell target = s.cell target := by
  cases target with
  | caster | currentTarget =>
    unfold Scope.cell
    rw [h.caster]
  | place n =>
    unfold Scope.cell
    rw [h.roster]

theorem spell (id : SpellId) : s'.spell id = s.spell id := by
  unfold Scope.spell
  rw [h.label, h.spells]

theorem periodic (id : SpellId) : s'.periodic id = s.periodic id := by
  unfold Scope.periodic
  rw [h.spell]

theorem effect (id : SpellId) (target : TargetRef) : s'.effect id target = s.effect id target := by
  unfold Scope.effect
  rw [h.periodic, h.cell, h.caster]

theorem spread (id : SpellId) : s'.spread id = s.spread id := by
  unfold Scope.spread
  rw [h.spell, h.roster, h.caster]

theorem runeUser : s'.runeUser = s.runeUser := by
  unfold Scope.runeUser
  rw [h.usesRunes, h.label, h.caster]

/-! ### Expressions -/

theorem catalogued (form : Form) (made : Checked Node) :
    s'.catalogued form made = s.catalogued form made := by
  unfold Scope.catalogued
  rw [h.catalog]

/-- A leaf looks up what it names, and nothing else. -/
theorem compile_leaf {x : Expr} (hx : x.IsLeaf) : s'.compile x = s.compile x := by
  cases x with
  | all operands | any operands => exact hx.elim
  | not operand => exact hx.elim
  | compare op lhs rhs => exact hx.elim
  -- A constant and the questions about the clock and the targets at large name nothing.
  | const value => rw [Scope.compile, Scope.compile, h.catalogued]
  | currentTime | remainingTime | targetCount =>
    rw [Scope.compile, Scope.compile, h.catalogued]
  | effectActive id target | effectRemaining id target | effectPeriod id target =>
    rw [Scope.compile, Scope.compile, h.catalogued, h.effect]
  | effectActiveOnAll id | effectLowestRemaining id =>
    rw [Scope.compile, Scope.compile, h.catalogued, h.spread]
  -- An increase notes the effect itself, as the caster knows it.
  | effectIncrease measure id target =>
    rw [Scope.compile, Scope.compile, h.catalogued, h.periodic, h.cell, h.caster]
  | runeCount type | naturalRuneCount type | runeCooldown type | nextRuneCooldown type =>
    rw [Scope.compile, Scope.compile, h.catalogued, h.runeUser]
  | slotActive n | slotDeath n | slotCooldown n =>
    rw [Scope.compile, Scope.compile, h.catalogued, h.runeUser]
  | fullRuneCooldown base =>
    rw [Scope.compile, Scope.compile, h.catalogued, h.runeUser]

/-- Every expression compiles to the same node, with the same warnings. -/
theorem compile (x : Expr) : s'.compile x = s.compile x := by
  induction x using Expr.treeInduction with
  | all operands ih => rw [Scope.compile, Scope.compile, h.catalogued, compileTests_congr ih]
  | any operands ih => rw [Scope.compile, Scope.compile, h.catalogued, compileTests_congr ih]
  | not operand ih => rw [Scope.compile, Scope.compile, h.catalogued, ih]
  | compare op lhs rhs ihl ihr => rw [Scope.compile, Scope.compile, h.catalogued, ihl, ihr]
  | leaf x hx => exact h.compile_leaf hx

/-! ### Entries -/

theorem compileAction (a : ActionSpec) : s'.compileAction a = s.compileAction a := by
  cases a with
  | cast id target =>
    rw [Scope.compileAction, Scope.compileAction, h.spell, h.cell, h.caster]
  | wait seconds => rfl

theorem compileCondition (condition : Option Expr) :
    s'.compileCondition condition = s.compileCondition condition := by
  cases condition with
  | none => rfl
  | some x =>
    rw [Scope.compileCondition, Scope.compileCondition, compileTest, compileTest, h.compile]

theorem compileEntry (spec : EntrySpec) : s'.compileEntry spec = s.compileEntry spec := by
  unfold Scope.compileEntry
  rw [h.compileAction, h.compileCondition]

theorem entryMessages (spec : EntrySpec) : s'.entryMessages spec = s.entryMessages spec := by
  unfold Scope.entryMessages
  rw [h.compileEntry]

end Shares

end Scope

/-! ### Lists -/

/-- In two encounters that have the same roster, and in which the caster has the same profile or
    is missing from both, a list compiles to the same entries with the same messages. -/
theorem Rotation.compile_congr {e e' : Encounter} {caster : CombatantId}
    (hprofile : (e'.combatant? caster).map Combatant.profile =
      (e.combatant? caster).map Combatant.profile)
    (hroster : e'.roster = e.roster) (list : PriorityList) (catalog : Catalog) :
    compile list e' caster catalog = compile list e caster catalog := by
  have hshares : (Scope.of e caster catalog).Shares (.of e' caster catalog) :=
    ⟨rfl, rfl, hprofile, hroster⟩
  unfold compile
  simp only [hshares.compileEntry, funext hshares.entryMessages]
  -- Only whether the caster is there has not been settled.
  cases hthis : e.combatant? caster with
  | none =>
    rw [hthis, Option.map_none, Option.map_eq_none_iff] at hprofile
    rw [hprofile]
  | some c =>
    rw [hthis, Option.map_some] at hprofile
    obtain ⟨c', hthat, _⟩ := Option.map_eq_some_iff.mp hprofile
    rw [hthat]

end ActionPriority
