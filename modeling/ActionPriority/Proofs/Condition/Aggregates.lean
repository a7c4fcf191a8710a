import ActionPriority.Proofs.Condition.Compiling
import ActionPriority.Proofs.Encounter.Activity

/-! # Effects on All Targets

    Two conditions ask about the effects of a spell on all targets at once: whether they are all
    active, and what is the least time that one of them has left.  The targets are those of the
    roster at the time of compiling; who of them is present is looked up at every question.

    * `Scope.Makes.readsAll` and `Scope.Makes.readsLowest` say what the conditions read
      by what there is to be read on each target that is present.  The least of some times is
      told by what holds of it, not by a computation (`Lowest`), and there is only one
      (`Lowest.eq`).
    * So whatever is not on a target that is present makes no difference, and nor does the order
      of the roster (`Scope.ReadsAll.eval_eq`, `Scope.ReadsLowest.eval_eq`).
-/

namespace ActionPriority

/-! ### The least of some times -/

/-- The time is the least that is read on a target, and the last instant if there is none. -/
structure Lowest (targets : CombatantId → Prop) (read : CombatantId → Time) (t : Time) : Prop where
  le : ∀ id, targets id → t ≤ read id
  attained : (∃ id, targets id) → ∃ id, targets id ∧ t = read id
  none : (∀ id, ¬ targets id) → t = Time.never

/-- There is one least time, which only depends on the targets and on what is read there. -/
theorem Lowest.eq {targets targets' : CombatantId → Prop} {read read' : CombatantId → Time}
    {t t' : Time} (h : Lowest targets read t) (h' : Lowest targets' read' t')
    (hsame : ∀ id, targets' id ↔ targets id) (hread : ∀ id, targets id → read' id = read id) :
    t' = t := by
  by_cases hsome : ∃ id, targets id
  · have hsome' : ∃ id, targets' id := by
      obtain ⟨id, hid⟩ := hsome
      exact ⟨id, (hsame id).mpr hid⟩
    -- Each of the two is read on a target, where the other is no greater.
    obtain ⟨id, hid, ht⟩ := h.attained hsome
    obtain ⟨id', hid', ht'⟩ := h'.attained hsome'
    have hle := h.le id' ((hsame id').mp hid')
    have hle' := h'.le id ((hsame id).mpr hid)
    rw [hread id hid, ← ht] at hle'
    rw [← hread id' ((hsame id').mp hid'), ← ht'] at hle
    exact Time.ext (Nat.le_antisymm hle' hle)
  · have hnone : ∀ id, ¬ targets id := fun id hid => hsome ⟨id, hid⟩
    rw [h.none hnone, h'.none fun id hid => hnone id ((hsame id).mp hid)]

/-! ### One target -/

namespace Encounter

/-- Is there such a combatant, and is it present? -/
def isEnabled (e : Encounter) (id : CombatantId) : Bool := (e.combatant? id).any (·.enabled)

/-- The time that the caster's effect of a spell has left on a target. -/
def remainingOn (e : Encounter) (caster : CombatantId) (spell : SpellId) (id : CombatantId) :
    Time :=
  (TimeTerm.effectRemaining ⟨caster, spell, .fixed id⟩).eval e

variable {e : Encounter}

theorem Reachable.resolve_fixed (h : e.Reachable) (id : CombatantId) :
    (Cell.fixed id).resolve e = (e.combatant? id).map fun _ => id := by
  show (e.combatant? id).map Combatant.id = _
  cases hc : e.combatant? id with
  | none => rfl
  | some c => exact congrArg some (h.id_eq hc)

theorem Reachable.isTargetEnabled_fixed (h : e.Reachable) (caster : CombatantId) (spell : SpellId)
    (id : CombatantId) :
    EffectRef.isTargetEnabled ⟨caster, spell, .fixed id⟩ e = e.isEnabled id := by
  unfold EffectRef.isTargetEnabled Cell.combatant? isEnabled
  rw [h.resolve_fixed]
  cases hc : e.combatant? id with
  | none => rfl
  | some c => rw [Option.map_some, Option.bind_some, hc]

/-- On a target that is present a reference finds the caster's effect on it. -/
theorem Reachable.effect?_fixed (h : e.Reachable) (caster : CombatantId) (spell : SpellId)
    {id : CombatantId} (hid : e.isEnabled id = true) :
    EffectRef.effect? ⟨caster, spell, .fixed id⟩ e = e.effect? caster spell id := by
  obtain ⟨c, hc, _⟩ := (Option.any_eq_true ..).mp hid
  unfold EffectRef.effect?
  rw [h.resolve_fixed, hc]
  rfl

theorem Reachable.isActive_fixed (h : e.Reachable) (caster : CombatantId) (spell : SpellId)
    {id : CombatantId} (hid : e.isEnabled id = true) :
    EffectRef.isActive ⟨caster, spell, .fixed id⟩ e = e.isRunning caster spell id := by
  rw [EffectRef.isActive, h.effect?_fixed caster spell hid, isRunning_eq_any]

theorem Reachable.remainingOn_eq (h : e.Reachable) (caster : CombatantId) (spell : SpellId)
    {id : CombatantId} (hid : e.isEnabled id = true) :
    e.remainingOn caster spell id =
      ((e.effect? caster spell id).map (·.remaining e.clock)).getD Time.zero := by
  rw [← h.effect?_fixed caster spell hid]
  rfl

end Encounter

/-! ### All targets -/

namespace Spread

variable {e : Encounter}

theorem mem_enabledRefs (h : e.Reachable) (s : Spread) {r : EffectRef} :
    r ∈ s.enabledRefs e ↔
      ∃ id ∈ s.targets, e.isEnabled id = true ∧ r = ⟨s.caster, s.spell, .fixed id⟩ := by
  unfold enabledRefs refs
  rw [List.mem_filter, List.mem_map]
  constructor
  · rintro ⟨⟨id, hid, rfl⟩, hpresent⟩
    rw [h.isTargetEnabled_fixed] at hpresent
    exact ⟨id, hid, hpresent, rfl⟩
  · rintro ⟨id, hid, hpresent, rfl⟩
    refine ⟨⟨id, hid, rfl⟩, ?_⟩
    rw [h.isTargetEnabled_fixed]
    exact hpresent

/-- Some target that is present is without the effect. -/
def Misses (s : Spread) (e : Encounter) : Prop :=
  ∃ id ∈ s.targets, e.isEnabled id = true ∧ e.isRunning s.caster s.spell id = false

theorem isActiveOnAll_eq_false_iff (h : e.Reachable) (s : Spread) :
    s.isActiveOnAll e = false ↔ s.Misses e := by
  unfold isActiveOnAll
  rw [List.all_eq_false]
  constructor
  · rintro ⟨r, hr, hinactive⟩
    obtain ⟨id, hid, hpresent, rfl⟩ := (s.mem_enabledRefs h).mp hr
    rw [h.isActive_fixed _ _ hpresent, Bool.not_eq_true] at hinactive
    exact ⟨id, hid, hpresent, hinactive⟩
  · rintro ⟨id, hid, hpresent, hinactive⟩
    refine ⟨_, (s.mem_enabledRefs h).mpr ⟨id, hid, hpresent, rfl⟩, ?_⟩
    rw [h.isActive_fixed _ _ hpresent, hinactive]
    exact Bool.false_ne_true

/-- One effect that is not active leaves nothing of the least time. -/
theorem leastRemaining_of_inactive {refs : List EffectRef}
    (h : ∃ r ∈ refs, r.isActive e = false) (best : Time) :
    leastRemaining e refs best = Time.zero := by
  induction refs generalizing best with
  | nil =>
    obtain ⟨r, hr, _⟩ := h
    cases hr
  | cons r rest ih =>
    rw [leastRemaining]
    split
    · next hactive =>
      obtain ⟨r', hr', hinactive⟩ := h
      rcases List.mem_cons.mp hr' with rfl | hr'
      · rw [hinactive] at hactive
        cases hactive
      · exact ih ⟨r', hr', hinactive⟩ _
    · rfl

/-- Of effects that are all active it is the least time left, and `best` if that is less. -/
theorem leastRemaining_of_active {refs : List EffectRef} (h : ∀ r ∈ refs, r.isActive e = true)
    (best : Time) :
    leastRemaining e refs best ≤ best ∧
      (∀ r ∈ refs, leastRemaining e refs best ≤ r.remaining e) ∧
      (leastRemaining e refs best = best ∨
        ∃ r ∈ refs, leastRemaining e refs best = r.remaining e) := by
  induction refs generalizing best with
  | nil => exact ⟨Nat.le_refl _, nofun, Or.inl rfl⟩
  | cons r rest ih =>
    have hmin : min best (r.remaining e) = best ∨ min best (r.remaining e) = r.remaining e := by
      show (if best ≤ r.remaining e then best else r.remaining e) = best ∨ _
      split
      · exact Or.inl rfl
      · next hless => exact Or.inr (if_neg hless)
    rw [leastRemaining, if_pos (h r List.mem_cons_self)]
    obtain ⟨hbest, hrest, hfrom⟩ :=
      ih (fun r' hr' => h r' (List.mem_cons_of_mem _ hr')) (min best (r.remaining e))
    generalize leastRemaining e rest (min best (r.remaining e)) = least at *
    rw [Time.le_def, Time.nanos_min] at hbest
    refine ⟨?_, ?_, ?_⟩
    · rw [Time.le_def]
      omega
    · intro r' hr'
      rcases List.mem_cons.mp hr' with rfl | hr'
      · rw [Time.le_def]
        omega
      · exact hrest r' hr'
    · rcases hfrom with hleast | ⟨r', hr', hleast⟩
      · rcases hmin with hmin | hmin
        · exact Or.inl (hleast.trans hmin)
        · exact Or.inr ⟨r, List.mem_cons_self, hleast.trans hmin⟩
      · exact Or.inr ⟨r', List.mem_cons_of_mem _ hr', hleast⟩

/-- If no target misses the effect, the least time is read on one of them. -/
theorem lowest_lowestRemaining (h : e.Reachable) (s : Spread) (hall : ¬ s.Misses e) :
    Lowest (fun id => id ∈ s.targets ∧ e.isEnabled id = true)
      (e.remainingOn s.caster s.spell) (s.lowestRemaining e) := by
  have hactive : ∀ r ∈ s.enabledRefs e, r.isActive e = true := by
    intro r hr
    obtain ⟨id, hid, hpresent, rfl⟩ := (s.mem_enabledRefs h).mp hr
    rw [h.isActive_fixed _ _ hpresent]
    by_contra hinactive
    exact hall ⟨id, hid, hpresent, Bool.not_eq_true _ ▸ hinactive⟩
  obtain ⟨_, hle, hfrom⟩ := leastRemaining_of_active hactive Time.never
  have hle : ∀ id, id ∈ s.targets ∧ e.isEnabled id = true →
      s.lowestRemaining e ≤ e.remainingOn s.caster s.spell id :=
    fun id ⟨hid, hpresent⟩ => hle _ ((s.mem_enabledRefs h).mpr ⟨id, hid, hpresent, rfl⟩)
  refine ⟨hle, ?_, ?_⟩
  · rintro ⟨id, hid⟩
    rcases hfrom with hnever | ⟨r, hr, hleast⟩
    · -- Even if the least time is the last instant it is read on a target.
      refine ⟨id, hid, Time.ext (Nat.le_antisymm (hle id hid) ?_)⟩
      have hlast := (e.remainingOn s.caster s.spell id).nanos_le
      rw [lowestRemaining, hnever]
      exact hlast
    · obtain ⟨id', hid', hpresent, rfl⟩ := (s.mem_enabledRefs h).mp hr
      exact ⟨id', ⟨hid', hpresent⟩, hleast⟩
  · intro hnone
    rcases hfrom with hnever | ⟨r, hr, _⟩
    · exact hnever
    · obtain ⟨id, hid, hpresent, _⟩ := (s.mem_enabledRefs h).mp hr
      exact absurd ⟨hid, hpresent⟩ (hnone id)

end Spread

/-! ### Compiled conditions -/

namespace Scope

variable {s : Scope} {spell : SpellId} {n : Node}

/-- The effects of the spell on the targets of the roster. -/
def spreadOf (s : Scope) (spell : SpellId) : Spread := ⟨s.caster, spell, s.roster⟩

theorem eq_spreadOf {spread : Spread} (h : (s.spread spell).result = some spread) :
    spread = s.spreadOf spell := by
  rw [Scope.spread, Checked.result_bind] at h
  obtain ⟨definition, _, h⟩ := Option.bind_eq_some_iff.mp h
  split at h
  · cases h
  · cases h
    rfl

theorem eq_of_spread {f : Spread → Node}
    (h : (s.spread spell >>= fun spread => pure (f spread)).result = some n) :
    n = f (s.spreadOf spell) := by
  rw [Checked.result_bind] at h
  obtain ⟨spread, hspread, hmade⟩ := Option.bind_eq_some_iff.mp h
  cases hmade
  rw [eq_spreadOf hspread]

theorem Makes.eq_activeOnAll (h : s.Makes (.effectActiveOnAll spell) n) :
    n = .test (.activeOnAll (s.spreadOf spell)) := by
  obtain ⟨(hrule : s.catalog.HasRule .effectActiveOnAll), hmade⟩ := h
  rw [compile, catalogued_of_hasRule hrule] at hmade
  exact eq_of_spread hmade

theorem Makes.eq_lowestRemaining (h : s.Makes (.effectLowestRemaining spell) n) :
    n = .time (.lowestRemaining (s.spreadOf spell)) := by
  obtain ⟨(hrule : s.catalog.HasRule .effectLowestRemaining), hmade⟩ := h
  rw [compile, catalogued_of_hasRule hrule] at hmade
  exact eq_of_spread hmade

/-- The effect on one target, told by its place in the roster. -/
theorem eq_of_effect_place {k : Nat} {r : EffectRef}
    (h : (s.effect spell (.place k)).result = some r) :
    ∃ id, s.roster[k]? = some id ∧ r = ⟨s.caster, spell, .fixed id⟩ := by
  rw [Scope.effect, Checked.result_bind] at h
  obtain ⟨p, _, h⟩ := Option.bind_eq_some_iff.mp h
  rw [Checked.result_bind] at h
  obtain ⟨cell, hcell, h⟩ := Option.bind_eq_some_iff.mp h
  cases h
  have hplace : (Checked.ofOption (.noTarget k) s.roster[k]? >>= fun id =>
      pure (Cell.fixed id)).result = some cell := hcell
  rw [Checked.result_bind, Checked.result_ofOption] at hplace
  obtain ⟨id, hid, hfixed⟩ := Option.bind_eq_some_iff.mp hplace
  cases hfixed
  exact ⟨id, hid, rfl⟩

theorem Makes.eq_remaining_place {k : Nat}
    (h : s.Makes (.effectRemaining spell (.place k)) n) :
    ∃ id, s.roster[k]? = some id ∧ ∀ e, n.eval e = .time (e.remainingOn s.caster spell id) := by
  obtain ⟨(hrule : s.catalog.HasRule .effectRemaining), hmade⟩ := h
  rw [compile, catalogued_of_hasRule hrule, Checked.result_bind] at hmade
  obtain ⟨r, hr, hmade⟩ := Option.bind_eq_some_iff.mp hmade
  obtain ⟨id, hid, rfl⟩ := eq_of_effect_place hr
  cases hmade
  exact ⟨id, hid, fun _ => rfl⟩

/-- Where the condition on the least time left compiles, so does the one on the time left on each
    target, if the catalog has its rule. -/
theorem exists_makes_remaining_place (hs : s.catalog.HasRule .effectRemaining)
    (h : s.Makes (.effectLowestRemaining spell) n) {k : Nat} {id : CombatantId}
    (hid : s.roster[k]? = some id) :
    ∃ m, s.Makes (.effectRemaining spell (.place k)) m ∧
      ∀ e, m.eval e = .time (e.remainingOn s.caster spell id) := by
  obtain ⟨(hrule : s.catalog.HasRule .effectLowestRemaining), hmade⟩ := h
  rw [compile, catalogued_of_hasRule hrule, Checked.result_bind] at hmade
  obtain ⟨spread, hspread, _⟩ := Option.bind_eq_some_iff.mp hmade
  rw [Scope.spread, Checked.result_bind] at hspread
  obtain ⟨definition, hknown, hmade⟩ := Option.bind_eq_some_iff.mp hspread
  cases hperiodic : definition.periodic with
  | none =>
    rw [hperiodic] at hmade
    cases hmade
  | some p =>
    have hp : (s.periodic spell).result = some p := by
      rw [Scope.periodic, Checked.result_bind, hknown, Option.bind_some, hperiodic]
      rfl
    have hcell : (s.cell (.place k)).result = some (.fixed id) := by
      show (Checked.ofOption (.noTarget k) s.roster[k]? >>= fun id =>
        pure (Cell.fixed id)).result = _
      rw [Checked.result_bind, Checked.result_ofOption, hid]
      rfl
    refine ⟨.time (.effectRemaining ⟨s.caster, spell, .fixed id⟩), ⟨hs, ?_⟩, fun _ => rfl⟩
    rw [compile, catalogued_of_hasRule hs, Checked.result_bind, Scope.effect, Checked.result_bind,
      hp, Option.bind_some, Checked.result_bind, hcell]
    rfl

/-! ### What they read -/

/-- Some target of the roster is present and has no active effect of this caster and spell. -/
def Misses (s : Scope) (spell : SpellId) (e : Encounter) : Prop := (s.spreadOf spell).Misses e

/-- The node reads whether the effect is active on every target of the roster that is present. -/
structure ReadsAll (s : Scope) (spell : SpellId) (n : Node) (e : Encounter) : Prop where
  no : s.Misses spell e → n.eval e = .bool false
  yes : ¬ s.Misses spell e → n.eval e = .bool true

/-- The node reads the least time that the effect has left on a target of the roster that is
    present, and no time if it is missing on one of them. -/
structure ReadsLowest (s : Scope) (spell : SpellId) (n : Node) (e : Encounter) : Prop where
  zero : s.Misses spell e → n.eval e = .time Time.zero
  lowest : ¬ s.Misses spell e → ∃ t, n.eval e = .time t ∧
    Lowest (fun id => id ∈ s.roster ∧ e.isEnabled id = true) (e.remainingOn s.caster spell) t

/-- Two states agree on who of the roster is present, and on the caster's effects of the spell on
    those who are. -/
structure Agrees (s : Scope) (spell : SpellId) (e e' : Encounter) : Prop where
  clock : e'.clock = e.clock
  enabled : ∀ id ∈ s.roster, e'.isEnabled id = e.isEnabled id
  effects : ∀ id ∈ s.roster, e.isEnabled id = true →
    e'.effect? s.caster spell id = e.effect? s.caster spell id

section Reads

variable {e e' : Encounter}

theorem Makes.readsAll (h : s.Makes (.effectActiveOnAll spell) n) (hreachable : e.Reachable) :
    s.ReadsAll spell n e := by
  obtain rfl := h.eq_activeOnAll
  have hiff := (s.spreadOf spell).isActiveOnAll_eq_false_iff hreachable
  constructor
  · intro hmisses
    exact congrArg Value.bool (hiff.mpr hmisses)
  · intro hall
    exact congrArg Value.bool (Bool.not_eq_false _ ▸ mt hiff.mp hall)

theorem Makes.readsLowest (h : s.Makes (.effectLowestRemaining spell) n)
    (hreachable : e.Reachable) : s.ReadsLowest spell n e := by
  obtain rfl := h.eq_lowestRemaining
  constructor
  · rintro ⟨id, hid, hpresent, hinactive⟩
    refine congrArg Value.time (Spread.leastRemaining_of_inactive ⟨_,
      ((s.spreadOf spell).mem_enabledRefs hreachable).mpr ⟨id, hid, hpresent, rfl⟩, ?_⟩ _)
    rw [hreachable.isActive_fixed _ _ hpresent]
    exact hinactive
  · intro hall
    exact ⟨_, rfl, (s.spreadOf spell).lowest_lowestRemaining hreachable hall⟩

variable {s' : Scope} {n' : Node}

/-- The scopes are of the same caster, with the same targets in whatever order. -/
structure SameTargets (s s' : Scope) : Prop where
  caster : s'.caster = s.caster
  roster : ∀ id, id ∈ s'.roster ↔ id ∈ s.roster

theorem misses_iff (h : s.SameTargets s') (hagree : s.Agrees spell e e') :
    s'.Misses spell e' ↔ s.Misses spell e := by
  have hrunning : ∀ id ∈ s.roster, e.isEnabled id = true →
      e'.isRunning s'.caster spell id = e.isRunning s.caster spell id := by
    intro id hid hpresent
    rw [Encounter.isRunning_eq_any, Encounter.isRunning_eq_any, h.caster,
      hagree.effects id hid hpresent]
  constructor
  · rintro ⟨id, hid, hpresent, hinactive⟩
    have hid := (h.roster id).mp hid
    have hpresent := (hagree.enabled id hid).symm.trans hpresent
    exact ⟨id, hid, hpresent, (hrunning id hid hpresent).symm.trans hinactive⟩
  · rintro ⟨id, hid, hpresent, hinactive⟩
    exact ⟨id, (h.roster id).mpr hid, (hagree.enabled id hid).trans hpresent,
      (hrunning id hid hpresent).trans hinactive⟩

theorem ReadsAll.eval_eq (hn : s.ReadsAll spell n e) (hn' : s'.ReadsAll spell n' e')
    (h : s.SameTargets s') (hagree : s.Agrees spell e e') : n'.eval e' = n.eval e := by
  by_cases hmisses : s.Misses spell e
  · rw [hn.no hmisses, hn'.no ((misses_iff h hagree).mpr hmisses)]
  · rw [hn.yes hmisses, hn'.yes (mt (misses_iff h hagree).mp hmisses)]

theorem ReadsLowest.eval_eq (hn : s.ReadsLowest spell n e) (hn' : s'.ReadsLowest spell n' e')
    (h : s.SameTargets s') (hagree : s.Agrees spell e e') (hreachable : e.Reachable)
    (hreachable' : e'.Reachable) : n'.eval e' = n.eval e := by
  by_cases hmisses : s.Misses spell e
  · rw [hn.zero hmisses, hn'.zero ((misses_iff h hagree).mpr hmisses)]
  · obtain ⟨t, ht, hlowest⟩ := hn.lowest hmisses
    obtain ⟨t', ht', hlowest'⟩ := hn'.lowest (mt (misses_iff h hagree).mp hmisses)
    have hsame : ∀ id, (id ∈ s'.roster ∧ e'.isEnabled id = true) ↔
        (id ∈ s.roster ∧ e.isEnabled id = true) := by
      intro id
      rw [h.roster id]
      exact and_congr_right fun hid => by rw [hagree.enabled id hid]
    rw [ht, ht', hlowest.eq hlowest' hsame]
    -- The same effects read the same at the same instant.
    rintro id ⟨hid, hpresent⟩
    rw [hreachable.remainingOn_eq _ _ hpresent,
      hreachable'.remainingOn_eq _ _ ((hagree.enabled id hid).trans hpresent), h.caster,
      hagree.effects id hid hpresent, hagree.clock]

end Reads

/-- The two conditions on all targets read what there is to be read on the targets of the roster
    that are present, one by one, as the condition on the time left does for a single target; and
    nothing else matters to them. -/
theorem aggregates_by_target (s : Scope) (spell : SpellId) :
    (∀ n e, s.Makes (.effectActiveOnAll spell) n → e.Reachable → s.ReadsAll spell n e) ∧
    (∀ n e, s.Makes (.effectLowestRemaining spell) n → e.Reachable → s.ReadsLowest spell n e) ∧
    (∀ k n, s.Makes (.effectRemaining spell (.place k)) n →
      ∃ id, s.roster[k]? = some id ∧ ∀ e, n.eval e = .time (e.remainingOn s.caster spell id)) ∧
    (∀ k id n, s.catalog.HasRule .effectRemaining → s.roster[k]? = some id →
      s.Makes (.effectLowestRemaining spell) n →
        ∃ m, s.Makes (.effectRemaining spell (.place k)) m ∧
          ∀ e, m.eval e = .time (e.remainingOn s.caster spell id)) ∧
    ∀ s' e e', s.SameTargets s' → s.Agrees spell e e' → e.Reachable → e'.Reachable →
      (∀ n n', s.Makes (.effectActiveOnAll spell) n → s'.Makes (.effectActiveOnAll spell) n' →
        n'.eval e' = n.eval e) ∧
      ∀ n n', s.Makes (.effectLowestRemaining spell) n →
        s'.Makes (.effectLowestRemaining spell) n' → n'.eval e' = n.eval e := by
  refine ⟨fun n e => Makes.readsAll, fun n e => Makes.readsLowest,
    fun k n => Makes.eq_remaining_place,
    fun k id n hs hid hn => exists_makes_remaining_place hs hn hid, ?_⟩
  intro s' e e' h hagree hreachable hreachable'
  constructor
  · intro n n' hn hn'
    exact (hn.readsAll hreachable).eval_eq (hn'.readsAll hreachable') h hagree
  · intro n n' hn hn'
    exact (hn.readsLowest hreachable).eval_eq (hn'.readsLowest hreachable') h hagree hreachable
      hreachable'

end Scope

/-- A knight that knows the plague, and three dummies, the last of which is out of the fight. -/
def Encounter.melee : Encounter :=
  (new {} 1).run [.addTarget "First" {}, .addTarget "Second" {}, .addTarget "Absent" {},
    .addPlayer "Knight" {}, .learn ⟨3⟩ plague, .setEnabled ⟨2⟩ false]

/-- One after the other, the knight has put the plague on the two dummies that are present. -/
def Encounter.infected : Encounter :=
  melee.run [.cast ⟨3⟩ plague.id ⟨0⟩, .advanceTo (Time.ofWholeSeconds 2), .cast ⟨3⟩ plague.id ⟨1⟩]

namespace Scope

/-- The plague is active on both dummies that are present, and has four seconds left on the first
    and six on the second.  Another target joins, on which there is no plague, and that is all the
    same.  But when the third dummy is back, there is no plague on one of the roster. -/
theorem aggregates_by_target_plague :
    let s := Scope.of Encounter.melee ⟨3⟩ .standard
    let e := Encounter.infected
    let e' := e.perform (.addTarget "Late" {})
    let back := e'.perform (.setEnabled ⟨2⟩ true)
    e.Reachable ∧ s.Agrees Encounter.plague.id e e' ∧
      (∃ n, s.Makes (.effectActiveOnAll Encounter.plague.id) n ∧
        n.eval e = .bool true ∧ n.eval e' = .bool true ∧ n.eval back = .bool false) ∧
      ∃ n, s.Makes (.effectLowestRemaining Encounter.plague.id) n ∧
        n.eval e = .time (Time.ofWholeSeconds 4) ∧ n.eval e' = .time (Time.ofWholeSeconds 4) ∧
          n.eval back = .time Time.zero := by
  intro s e e' back
  have hreachable : e.Reachable := ((Encounter.Reachable.new {} 1).run _).run _
  have hreachable' : e'.Reachable := hreachable.perform _
  have hroster : ∀ id ∈ s.roster, id = ⟨0⟩ ∨ id = ⟨1⟩ ∨ id = ⟨2⟩ := by decide
  have hagree : s.Agrees Encounter.plague.id e e' := by
    refine ⟨by decide +kernel, by decide +kernel, ?_⟩
    intro id hid _
    obtain rfl | rfl | rfl := hroster id hid <;> decide +kernel
  have hall : s.Makes (.effectActiveOnAll Encounter.plague.id)
      (.test (.activeOnAll (s.spreadOf Encounter.plague.id))) := ⟨rfl, rfl⟩
  have hlowest : s.Makes (.effectLowestRemaining Encounter.plague.id)
      (.time (.lowestRemaining (s.spreadOf Encounter.plague.id))) := ⟨rfl, rfl⟩
  have hhits : ¬ s.Misses Encounter.plague.id e := by
    rintro ⟨id, hid, hpresent, hinactive⟩
    obtain rfl | rfl | rfl := hroster id hid
    · exact absurd hinactive (by decide +kernel)
    · exact absurd hinactive (by decide +kernel)
    · exact absurd hpresent (by decide +kernel)
  have hmisses : s.Misses Encounter.plague.id back :=
    ⟨⟨2⟩, by decide, by decide +kernel, by decide +kernel⟩
  obtain ⟨hreadsAll, hreadsLowest, _, _, hsame⟩ := aggregates_by_target s Encounter.plague.id
  obtain ⟨hsameAll, hsameLowest⟩ := hsame s e e' ⟨rfl, fun _ => Iff.rfl⟩ hagree hreachable
    hreachable'
  have hyes := (hreadsAll _ e hall hreachable).yes hhits
  have hno := (hreadsAll _ back hall (hreachable'.perform _)).no hmisses
  obtain ⟨t, ht, hleast⟩ := (hreadsLowest _ e hlowest hreachable).lowest hhits
  have hzero := (hreadsLowest _ back hlowest (hreachable'.perform _)).zero hmisses
  -- The time is read on one of the two, and is not more than what is left on the first.
  have hfour : t = Time.ofWholeSeconds 4 := by
    have hfirst : e.remainingOn s.caster Encounter.plague.id ⟨0⟩ = Time.ofWholeSeconds 4 := by
      decide +kernel
    have hsecond : e.remainingOn s.caster Encounter.plague.id ⟨1⟩ = Time.ofWholeSeconds 6 := by
      decide +kernel
    have hle := hleast.le ⟨0⟩ ⟨by decide, by decide +kernel⟩
    obtain ⟨id, ⟨hid, hpresent⟩, hread⟩ := hleast.attained ⟨⟨0⟩, by decide, by decide +kernel⟩
    obtain rfl | rfl | rfl := hroster id hid
    · exact hread.trans hfirst
    · rw [hread, hfirst] at hle
      exact absurd (hsecond ▸ hle) (by decide)
    · exact absurd hpresent (by decide +kernel)
  rw [hfour] at ht
  exact ⟨hreachable, hagree, ⟨_, hall, hyes, (hsameAll _ _ hall hall).trans hyes, hno⟩, _, hlowest,
    ht, (hsameLowest _ _ hlowest hlowest).trans ht, hzero⟩

end Scope

end ActionPriority
