import ActionPriority.Proofs.Condition.Compiling
import ActionPriority.Proofs.Time.Lengths

/-! # Well-Formed Expressions

    Which expressions make sense for a caster is told by rules that follow the tree
    (`WellFormed`).  They speak of the encounter and of kinds, and not of compiling:

    * the operands of logic are of the boolean kind; a conjunction needs all of them, a
      disjunction one of them to be well-formed;
    * the sides of a comparison are of one kind, or an integer and a float;
    * a question about an effect asks for a spell that the caster knows and that has an effect,
      and for a target that is in the roster; a question about runes asks for a rune bar.

    The kind of an expression is told by its form (`Expr.kind`).  With the standard catalog
    exactly the well-formed expressions compile, to nodes of their kind
    (`compiles_iff_wellFormed`).
-/

namespace ActionPriority

/-! ### Kinds -/

/-- The kind of values that a constant stands for. -/
def Literal.kind : Literal → ValueKind
  | .bool _ => .bool
  | .int _ => .int
  | .float _ => .float
  | .seconds _ => .time

/-- The kind of values that an expression stands for if it makes sense. -/
def Expr.kind : Expr → ValueKind
  | .const value => value.kind
  | .all _ | .any _ | .not _ | .compare _ _ _ => .bool
  | .effectActive _ _ | .effectActiveOnAll _ | .slotActive _ | .slotDeath _ => .bool
  | .targetCount | .runeCount _ | .naturalRuneCount _ => .int
  | .effectIncrease _ _ _ => .float
  | .currentTime | .remainingTime => .time
  | .effectRemaining _ _ | .effectLowestRemaining _ | .effectPeriod _ _ => .time
  | .runeCooldown _ | .nextRuneCooldown _ | .slotCooldown _ | .fullRuneCooldown _ => .time

/-- Values of the two kinds can be compared.  An integer meets a float as a float. -/
def ValueKind.Comparable (a b : ValueKind) : Prop :=
  a = b ∨ a = .int ∧ b = .float ∨ a = .float ∧ b = .int

/-! ### Rules -/

/-- A constant stands for a value.  Seconds have to be a length of time. -/
def Literal.Valid : Literal → Prop
  | .bool _ => True
  | .int _ => True
  | .float _ => True
  | .seconds value => Time.IsLength value

namespace Encounter

/-- The caster knows the spell. -/
def Knows (e : Encounter) (caster : CombatantId) (id : SpellId) (spell : Spell) : Prop :=
  ∃ c, e.combatant? caster = some c ∧ c.spell? id = some spell

/-- The caster knows the spell, and the spell has a periodic effect. -/
def KnowsEffect (e : Encounter) (caster : CombatantId) (id : SpellId) : Prop :=
  ∃ spell, e.Knows caster id spell ∧ spell.periodic.isSome = true

/-- The caster is there, and has a rune bar. -/
def UsesRunes (e : Encounter) (caster : CombatantId) : Prop :=
  ∃ c, e.combatant? caster = some c ∧ c.runes.isSome = true

/-- If a place of the roster is asked for, there is one. -/
def HasPlace (e : Encounter) : TargetRef → Prop
  | .caster => True
  | .currentTarget => True
  | .place n => n < e.roster.length

end Encounter

/-- Slots are counted from one to six. -/
def IsSlot (n : UInt8) : Prop := 1 ≤ n.toNat ∧ n.toNat ≤ 6

/-- The expression makes sense for the caster as the encounter stands. -/
inductive WellFormed (e : Encounter) (caster : CombatantId) : Expr → Prop where
  | const {value : Literal} : value.Valid → WellFormed e caster (.const value)
  | all {operands : List Expr} : operands ≠ [] → (∀ x ∈ operands, WellFormed e caster x) →
      (∀ x ∈ operands, x.kind = .bool) → WellFormed e caster (.all operands)
  | any {operands : List Expr} {x : Expr} : x ∈ operands → WellFormed e caster x →
      x.kind = .bool → WellFormed e caster (.any operands)
  | not {operand : Expr} : WellFormed e caster operand → operand.kind = .bool →
      WellFormed e caster (.not operand)
  | compare {op : Comparison} {lhs rhs : Expr} : WellFormed e caster lhs →
      WellFormed e caster rhs → lhs.kind.Comparable rhs.kind →
      WellFormed e caster (.compare op lhs rhs)
  | currentTime : WellFormed e caster .currentTime
  | remainingTime : WellFormed e caster .remainingTime
  | targetCount : WellFormed e caster .targetCount
  | effectActive {id : SpellId} {target : TargetRef} : e.KnowsEffect caster id →
      e.HasPlace target → WellFormed e caster (.effectActive id target)
  | effectActiveOnAll {id : SpellId} : e.KnowsEffect caster id → e.roster ≠ [] →
      WellFormed e caster (.effectActiveOnAll id)
  | effectRemaining {id : SpellId} {target : TargetRef} : e.KnowsEffect caster id →
      e.HasPlace target → WellFormed e caster (.effectRemaining id target)
  | effectLowestRemaining {id : SpellId} : e.KnowsEffect caster id → e.roster ≠ [] →
      WellFormed e caster (.effectLowestRemaining id)
  | effectPeriod {id : SpellId} {target : TargetRef} : e.KnowsEffect caster id →
      e.HasPlace target → WellFormed e caster (.effectPeriod id target)
  | effectIncrease {measure : Increase} {id : SpellId} {target : TargetRef} :
      e.KnowsEffect caster id → e.HasPlace target →
      WellFormed e caster (.effectIncrease measure id target)
  | runeCount {type : RuneType} : e.UsesRunes caster → WellFormed e caster (.runeCount type)
  | naturalRuneCount {type : RuneType} : e.UsesRunes caster →
      WellFormed e caster (.naturalRuneCount type)
  | slotActive {n : UInt8} : e.UsesRunes caster → IsSlot n → WellFormed e caster (.slotActive n)
  | slotDeath {n : UInt8} : e.UsesRunes caster → IsSlot n → WellFormed e caster (.slotDeath n)
  | runeCooldown {type : RuneType} : e.UsesRunes caster →
      WellFormed e caster (.runeCooldown type)
  | nextRuneCooldown {type : RuneType} : e.UsesRunes caster →
      WellFormed e caster (.nextRuneCooldown type)
  | slotCooldown {n : UInt8} : e.UsesRunes caster → IsSlot n →
      WellFormed e caster (.slotCooldown n)
  | fullRuneCooldown {base : Bool} : e.UsesRunes caster →
      WellFormed e caster (.fullRuneCooldown base)

/-! ### The kind of a node -/

namespace Checked

variable {α : Type} {kind : ValueKind}

/-- If there is a node, it is of that kind. -/
def Gives (kind : ValueKind) (c : Checked Node) : Prop := ∀ n, c.result = some n → n.kind = kind

theorem Gives.made {n : Node} (h : n.kind = kind) : (Checked.pure n).Gives kind := by
  intro n' hn'
  cases hn'
  exact h

theorem Gives.failed {c : Checked Node} (h : c.result = none) : c.Gives kind := by
  intro n hn
  rw [h] at hn
  cases hn

theorem Gives.bind {c : Checked α} {f : α → Checked Node} (hf : ∀ a, (f a).Gives kind) :
    (c >>= f).Gives kind := by
  intro n hn
  rw [result_bind] at hn
  obtain ⟨a, _, ha⟩ := Option.bind_eq_some_iff.mp hn
  exact hf a n ha

end Checked

namespace Scope

open Checked (Gives)

variable {s : Scope} {kind : ValueKind}

theorem gives_literal (value : Literal) : (literal value).Gives value.kind := by
  cases value with
  | seconds value =>
    rw [literal]
    split
    · exact .made rfl
    · exact .failed rfl
  | _ => exact .made rfl

theorem gives_comparison (op : Comparison) (l r : Node) : (comparison op l r).Gives .bool := by
  unfold comparison
  split
  -- Only the last clause has no comparison.
  case h_7 => exact .failed rfl
  all_goals exact .made rfl

theorem gives_conjunction (operands : List (Checked Test)) :
    (conjunction operands).Gives .bool := by
  unfold conjunction
  split
  · exact .failed rfl
  · intro n hn
    obtain ⟨tests, _, rfl⟩ := Option.map_eq_some_iff.mp hn
    rfl

theorem gives_disjunction (operands : List (Checked Test)) :
    (disjunction operands).Gives .bool := by
  unfold disjunction
  split
  · exact .failed rfl
  · intro n hn
    cases hn
    rfl

/-- An expression compiles to a node of its kind, if at all. -/
theorem gives_compile (hs : s.catalog = .standard) (x : Expr) : (s.compile x).Gives x.kind := by
  cases x with
  | const value =>
    rw [compile, catalogued_standard hs]
    exact gives_literal value
  | all operands =>
    rw [compile, catalogued_standard hs]
    exact gives_conjunction _
  | any operands =>
    rw [compile, catalogued_standard hs]
    exact gives_disjunction _
  | compare op lhs rhs =>
    rw [compile, catalogued_standard hs]
    exact .bind fun l => .bind fun r => gives_comparison op l r
  | currentTime | remainingTime | targetCount =>
    rw [compile, catalogued_standard hs]
    exact .made rfl
  | effectIncrease measure id target =>
    rw [compile, catalogued_standard hs]
    exact .bind fun _ => .bind fun _ => .made rfl
  | slotActive n | slotDeath n | slotCooldown n =>
    rw [compile, catalogued_standard hs]
    exact .bind fun _ => .bind fun _ => .made rfl
  | _ =>
    rw [compile, catalogued_standard hs]
    exact .bind fun _ => .made rfl

/-! ### Results of the rules -/

theorem isSome_asTest (n : Node) : (asTest n).result.isSome = true ↔ n.kind = .bool := by
  cases n with
  | test t => exact iff_of_true rfl rfl
  | _ => exact iff_of_false nofun nofun

theorem isSome_conjunction (operands : List (Checked Test)) :
    (conjunction operands).result.isSome = true ↔
      operands ≠ [] ∧ ∀ c ∈ operands, c.result.isSome = true := by
  unfold conjunction
  split
  · next hempty =>
    exact iff_of_false nofun fun h => h.1 (List.isEmpty_iff.mp hempty)
  · next hsome =>
    rw [Option.isSome_map, isSome_mapM]
    exact (and_iff_right fun hnil => hsome (List.isEmpty_iff.mpr hnil)).symm

theorem isSome_disjunction (operands : List (Checked Test)) :
    (disjunction operands).result.isSome = true ↔ ∃ c ∈ operands, c.result.isSome = true := by
  unfold disjunction
  split
  · next hnone =>
    refine iff_of_false nofun ?_
    rintro ⟨c, hc, hresult⟩
    rw [List.filterMap_eq_nil_iff.mp hnone c hc] at hresult
    cases hresult
  · next hsome =>
    refine iff_of_true rfl ?_
    obtain ⟨t, ht⟩ := List.exists_mem_of_ne_nil _ hsome
    obtain ⟨c, hc, hresult⟩ := List.mem_filterMap.mp ht
    exact ⟨c, hc, Option.isSome_of_mem hresult⟩

theorem isSome_comparison (op : Comparison) (l r : Node) :
    (comparison op l r).result.isSome = true ↔ l.kind.Comparable r.kind := by
  cases l <;> cases r <;> simp [comparison, ValueKind.Comparable, Node.kind, Checked.fail]

section Standard

variable (hs : s.catalog = .standard)

include hs

/-- An expression compiles to a test if it compiles, and is of the boolean kind. -/
theorem isSome_compileTest (x : Expr) :
    (s.compileTest x).result.isSome = true ↔
      (s.compile x).result.isSome = true ∧ x.kind = .bool := by
  refine Checked.isSome_bind fun n hn => ?_
  rw [isSome_asTest, gives_compile hs x n hn]

theorem isSome_compile_all (operands : List Expr) :
    (s.compile (.all operands)).result.isSome = true ↔
      operands ≠ [] ∧ ∀ x ∈ operands, (s.compileTest x).result.isSome = true := by
  rw [compile_all hs, isSome_conjunction, List.forall_mem_map, Ne, List.map_eq_nil_iff]

theorem isSome_compile_any (operands : List Expr) :
    (s.compile (.any operands)).result.isSome = true ↔
      ∃ x ∈ operands, (s.compileTest x).result.isSome = true := by
  rw [compile_any hs, isSome_disjunction]
  constructor
  · rintro ⟨c, hc, hresult⟩
    obtain ⟨x, hx, rfl⟩ := List.mem_map.mp hc
    exact ⟨x, hx, hresult⟩
  · rintro ⟨x, hx, hresult⟩
    exact ⟨_, List.mem_map_of_mem hx, hresult⟩

theorem isSome_compile_not (operand : Expr) :
    (s.compile (.not operand)).result.isSome = true ↔
      (s.compileTest operand).result.isSome = true := by
  rw [compile_not hs]
  exact Checked.isSome_map

/-- A comparison compiles if both its sides do, and their kinds can be compared. -/
theorem isSome_compile_compare (op : Comparison) (lhs rhs : Expr) :
    (s.compile (.compare op lhs rhs)).result.isSome = true ↔
      (s.compile lhs).result.isSome = true ∧ (s.compile rhs).result.isSome = true ∧
        lhs.kind.Comparable rhs.kind := by
  rw [compile_compare hs]
  refine Checked.isSome_bind fun l hl => Checked.isSome_bind fun r hr => ?_
  rw [isSome_comparison, gives_compile hs lhs l hl, gives_compile hs rhs r hr]

end Standard

/-! ### Results of the look-ups -/

section LookUps

variable {e : Encounter} {caster : CombatantId} {catalog : Catalog}

theorem result_spell {id : SpellId} {spell : Spell} :
    ((of e caster catalog).spell id).result = some spell ↔ e.Knows caster id spell := by
  unfold Scope.spell Scope.spells Scope.caster? Encounter.Knows
  rw [Checked.result_ofOption]
  cases e.combatant? caster with
  | none => exact iff_of_false nofun nofun
  | some c => exact ⟨fun h => ⟨c, rfl, h⟩, fun ⟨_, hc, h⟩ => Option.some.inj hc ▸ h⟩

theorem isSome_periodic {id : SpellId} :
    ((of e caster catalog).periodic id).result.isSome = true ↔ e.KnowsEffect caster id := by
  refine Checked.isSome_bind_iff.trans (exists_congr fun spell => and_congr result_spell ?_)
  rw [Checked.result_ofOption]

theorem isSome_cell {target : TargetRef} :
    ((of e caster catalog).cell target).result.isSome = true ↔ e.HasPlace target := by
  cases target with
  | place n =>
    refine Checked.isSome_map.trans ?_
    rw [Checked.result_ofOption]
    show e.roster[n]?.isSome = true ↔ n < e.roster.length
    simp
  | _ => exact iff_of_true rfl trivial

theorem isSome_effect {id : SpellId} {target : TargetRef} :
    ((of e caster catalog).effect id target).result.isSome = true ↔
      e.KnowsEffect caster id ∧ e.HasPlace target :=
  (Checked.isSome_bind fun _ _ => Checked.isSome_map).trans (and_congr isSome_periodic isSome_cell)

theorem isSome_spread {id : SpellId} :
    ((of e caster catalog).spread id).result.isSome = true ↔
      e.KnowsEffect caster id ∧ e.roster ≠ [] := by
  have hthen : ∀ spell : Spell,
      (if spell.periodic.isNone || e.roster.isEmpty then Checked.fail (.noEffects id)
        else (pure ⟨caster, id, e.roster⟩ : Checked Spread)).result.isSome = true ↔
          spell.periodic.isSome = true ∧ e.roster ≠ [] := by
    intro spell
    cases spell.periodic <;> cases e.roster <;> simp [Checked.fail]
  refine Checked.isSome_bind_iff.trans ?_
  refine (exists_congr fun spell => and_congr result_spell (hthen spell)).trans ?_
  simp only [← and_assoc, exists_and_right]
  rfl

theorem isSome_runeUser :
    (of e caster catalog).runeUser.result.isSome = true ↔ e.UsesRunes caster := by
  have huses : (of e caster catalog).usesRunes = true ↔ e.UsesRunes caster := by
    unfold Scope.usesRunes Scope.caster? Encounter.UsesRunes
    cases e.combatant? caster with
    | none => exact iff_of_false nofun nofun
    | some c => exact ⟨fun h => ⟨c, rfl, h⟩, fun ⟨_, hc, h⟩ => Option.some.inj hc ▸ h⟩
  rw [← huses]
  unfold runeUser
  split
  · next h => exact iff_of_true rfl h
  · next h => exact iff_of_false nofun h

theorem isSome_slot {n : UInt8} : (slot n).result.isSome = true ↔ IsSlot n := by
  unfold slot
  split
  · next h => exact iff_of_true rfl h
  · next h => exact iff_of_false nofun h

theorem isSome_literal {value : Literal} :
    (literal value).result.isSome = true ↔ value.Valid := by
  cases value with
  | seconds value =>
    rw [literal, Literal.Valid, ← Time.exists_ofSeconds_iff]
    cases Time.ofSeconds value with
    | ok t => exact iff_of_true rfl ⟨t, rfl⟩
    | error cause =>
      refine iff_of_false Bool.false_ne_true ?_
      rintro ⟨t, ht⟩
      cases ht
  | _ => exact iff_of_true rfl trivial

/-- The leaves that compile are the well-formed ones. -/
theorem isSome_compile_leaf {x : Expr} (hx : x.IsLeaf) :
    ((of e caster .standard).compile x).result.isSome = true ↔ WellFormed e caster x := by
  have hs : (of e caster .standard).catalog = .standard := rfl
  cases x with
  | all operands | any operands => exact hx.elim
  | not operand => exact hx.elim
  | compare op lhs rhs => exact hx.elim
  | const value =>
    rw [compile, catalogued_standard hs, isSome_literal]
    refine ⟨.const, ?_⟩
    intro h
    cases h with
    | const h => exact h
  | currentTime =>
    rw [compile, catalogued_standard hs]
    exact iff_of_true rfl .currentTime
  | remainingTime =>
    rw [compile, catalogued_standard hs]
    exact iff_of_true rfl .remainingTime
  | targetCount =>
    rw [compile, catalogued_standard hs]
    exact iff_of_true rfl .targetCount
  | effectActive id target =>
    rw [compile, catalogued_standard hs, Checked.isSome_map, isSome_effect]
    refine ⟨fun h => .effectActive h.1 h.2, ?_⟩
    intro h
    cases h with
    | effectActive hspell hplace => exact ⟨hspell, hplace⟩
  | effectActiveOnAll id =>
    rw [compile, catalogued_standard hs, Checked.isSome_map, isSome_spread]
    refine ⟨fun h => .effectActiveOnAll h.1 h.2, ?_⟩
    intro h
    cases h with
    | effectActiveOnAll hspell hroster => exact ⟨hspell, hroster⟩
  | effectRemaining id target =>
    rw [compile, catalogued_standard hs, Checked.isSome_map, isSome_effect]
    refine ⟨fun h => .effectRemaining h.1 h.2, ?_⟩
    intro h
    cases h with
    | effectRemaining hspell hplace => exact ⟨hspell, hplace⟩
  | effectLowestRemaining id =>
    rw [compile, catalogued_standard hs, Checked.isSome_map, isSome_spread]
    refine ⟨fun h => .effectLowestRemaining h.1 h.2, ?_⟩
    intro h
    cases h with
    | effectLowestRemaining hspell hroster => exact ⟨hspell, hroster⟩
  | effectPeriod id target =>
    rw [compile, catalogued_standard hs, Checked.isSome_map, isSome_effect]
    refine ⟨fun h => .effectPeriod h.1 h.2, ?_⟩
    intro h
    cases h with
    | effectPeriod hspell hplace => exact ⟨hspell, hplace⟩
  | effectIncrease measure id target =>
    rw [compile, catalogued_standard hs, Checked.isSome_bind fun _ _ => Checked.isSome_map,
      isSome_periodic, isSome_cell]
    refine ⟨fun h => .effectIncrease h.1 h.2, ?_⟩
    intro h
    cases h with
    | effectIncrease hspell hplace => exact ⟨hspell, hplace⟩
  | runeCount type =>
    rw [compile, catalogued_standard hs, Checked.isSome_map, isSome_runeUser]
    refine ⟨.runeCount, ?_⟩
    intro h
    cases h with
    | runeCount huses => exact huses
  | naturalRuneCount type =>
    rw [compile, catalogued_standard hs, Checked.isSome_map, isSome_runeUser]
    refine ⟨.naturalRuneCount, ?_⟩
    intro h
    cases h with
    | naturalRuneCount huses => exact huses
  | slotActive n =>
    rw [compile, catalogued_standard hs, Checked.isSome_bind fun _ _ => Checked.isSome_map,
      isSome_runeUser, isSome_slot]
    refine ⟨fun h => .slotActive h.1 h.2, ?_⟩
    intro h
    cases h with
    | slotActive huses hslot => exact ⟨huses, hslot⟩
  | slotDeath n =>
    rw [compile, catalogued_standard hs, Checked.isSome_bind fun _ _ => Checked.isSome_map,
      isSome_runeUser, isSome_slot]
    refine ⟨fun h => .slotDeath h.1 h.2, ?_⟩
    intro h
    cases h with
    | slotDeath huses hslot => exact ⟨huses, hslot⟩
  | runeCooldown type =>
    rw [compile, catalogued_standard hs, Checked.isSome_map, isSome_runeUser]
    refine ⟨.runeCooldown, ?_⟩
    intro h
    cases h with
    | runeCooldown huses => exact huses
  | nextRuneCooldown type =>
    rw [compile, catalogued_standard hs, Checked.isSome_map, isSome_runeUser]
    refine ⟨.nextRuneCooldown, ?_⟩
    intro h
    cases h with
    | nextRuneCooldown huses => exact huses
  | slotCooldown n =>
    rw [compile, catalogued_standard hs, Checked.isSome_bind fun _ _ => Checked.isSome_map,
      isSome_runeUser, isSome_slot]
    refine ⟨fun h => .slotCooldown h.1 h.2, ?_⟩
    intro h
    cases h with
    | slotCooldown huses hslot => exact ⟨huses, hslot⟩
  | fullRuneCooldown base =>
    rw [compile, catalogued_standard hs, Checked.isSome_map, isSome_runeUser]
    refine ⟨.fullRuneCooldown, ?_⟩
    intro h
    cases h with
    | fullRuneCooldown huses => exact huses

/-- The expressions that compile are the well-formed ones. -/
theorem isSome_compile_iff (x : Expr) :
    ((of e caster .standard).compile x).result.isSome = true ↔ WellFormed e caster x := by
  have hs : (of e caster .standard).catalog = .standard := rfl
  induction x using Expr.treeInduction with
  | all operands ih =>
    rw [isSome_compile_all hs]
    constructor
    · rintro ⟨hne, hall⟩
      have heach := fun y hy => (isSome_compileTest hs y).mp (hall y hy)
      exact .all hne (fun y hy => (ih y hy).mp (heach y hy).1) fun y hy => (heach y hy).2
    · intro h
      cases h with
      | all hne hwell hkind =>
        refine ⟨hne, fun y hy => ?_⟩
        exact (isSome_compileTest hs y).mpr ⟨(ih y hy).mpr (hwell y hy), hkind y hy⟩
  | any operands ih =>
    rw [isSome_compile_any hs]
    constructor
    · rintro ⟨y, hy, hresult⟩
      obtain ⟨hcompiles, hkind⟩ := (isSome_compileTest hs y).mp hresult
      exact .any hy ((ih y hy).mp hcompiles) hkind
    · intro h
      cases h with
      | any hy hwell hkind =>
        exact ⟨_, hy, (isSome_compileTest hs _).mpr ⟨(ih _ hy).mpr hwell, hkind⟩⟩
  | not operand ih =>
    rw [isSome_compile_not hs, isSome_compileTest hs]
    refine ⟨fun h => .not (ih.mp h.1) h.2, ?_⟩
    intro h
    cases h with
    | not hwell hkind => exact ⟨ih.mpr hwell, hkind⟩
  | compare op lhs rhs ihl ihr =>
    rw [isSome_compile_compare hs]
    refine ⟨fun h => .compare (ihl.mp h.1) (ihr.mp h.2.1) h.2.2, ?_⟩
    intro h
    cases h with
    | compare hl hr hkinds => exact ⟨ihl.mpr hl, ihr.mpr hr, hkinds⟩
  | leaf x hx => exact isSome_compile_leaf hx

end LookUps

end Scope

/-- Whether an expression is well-formed is found out by compiling it. -/
instance (e : Encounter) (caster : CombatantId) : DecidablePred (WellFormed e caster) := fun x =>
  decidable_of_iff _ (Scope.isSome_compile_iff x)

/-- With the standard catalog exactly the well-formed expressions compile, to nodes of their kind.
    On the way every expression meets the rule of its own form, so that none is turned away for
    being of another form. -/
theorem compiles_iff_wellFormed (e : Encounter) (caster : CombatantId) (x : Expr) :
    let s := Scope.of e caster .standard
    ((s.compile x).result.isSome = true ↔ WellFormed e caster x) ∧
      (∀ n, (s.compile x).result = some n → n.kind = x.kind) ∧
      s.catalog.find? x.form.name = some (.rule x.form) ∧
      ∀ made, s.catalogued x.form made = made := by
  intro s
  refine ⟨Scope.isSome_compile_iff x, Scope.gives_compile rfl x, Catalog.standard_find? x.form, ?_⟩
  intro made
  exact Scope.catalogued_standard rfl x.form made

/-- A disjunction makes do with one operand, even for somebody without runes. -/
example : WellFormed (.new {} 0) ⟨0⟩ (.any [.runeCount .death, .not (.const (.bool true))]) := by
  decide

/-- A conjunction does not. -/
example : ¬ WellFormed (.new {} 0) ⟨0⟩ (.all [.runeCount .death, .not (.const (.bool true))]) := by
  decide

end ActionPriority
