import ActionPriority.Encounter.Casting

/-! # Conditions of a Cast

    Checking a cast goes from one obstacle to the next.  `checkCast_eq_ok_iff` lists all that
    has to be true for none of them to come up; only the two cooldowns and the runes among it
    have to do with the clock.
-/

namespace ActionPriority

namespace Encounter

/-! ### No obstacle -/

theorem find_eq_ok_iff {e : Encounter} {id : CombatantId} {c : Combatant} :
    e.find id = .ok c ↔ e.combatant? id = some c := by
  unfold find
  cases e.combatant? id with
  | none => exact ⟨nofun, nofun⟩
  | some c' =>
    constructor
    · intro h
      cases h
      rfl
    · intro h
      cases h
      rfl

theorem findSpell_eq_ok_iff {c : Combatant} {caster : CombatantId} {spell : SpellId}
    {definition : Spell} :
    findSpell c caster spell = .ok definition ↔ c.spell? spell = some definition := by
  unfold findSpell
  cases c.spell? spell with
  | none => exact ⟨nofun, nofun⟩
  | some d =>
    constructor
    · intro h
      cases h
      rfl
    · intro h
      cases h
      rfl

/-- The runes for a spell are there if it costs none, or if a bar can pay for it. -/
theorem checkRunes_eq_ok_iff {e : Encounter} {c : Combatant} {caster : CombatantId}
    {definition : Spell} :
    e.checkRunes c caster definition = .ok () ↔
      definition.cost.isFree = true ∨
        ∃ bar, c.runes = some bar ∧ bar.afford definition.cost e.clock = .ok () := by
  unfold checkRunes
  split
  · next hfree => exact ⟨fun _ => Or.inl hfree, fun _ => rfl⟩
  · next hfree =>
    cases hrunes : c.runes with
    | none =>
      constructor
      · intro h
        cases h
      · rintro (h | ⟨bar, h, _⟩)
        · exact absurd h hfree
        · cases h
    | some bar =>
      dsimp only
      constructor
      · intro h
        refine Or.inr ⟨bar, rfl, ?_⟩
        cases hafford : bar.afford definition.cost e.clock with
        | ok u => rfl
        | error shortage =>
          rw [hafford] at h
          cases h
      · rintro (h | ⟨bar', h, hafford⟩)
        · exact absurd h hfree
        · cases h
          rw [hafford]
          rfl

/-- What has to be true for `c` to cast the spell on `aimed`. -/
structure Castable (e : Encounter) (spell : SpellId) (c : Combatant) (definition : Spell)
    (aimed : Combatant) : Prop where
  known : c.spell? spell = some definition
  targetable : aimed.isTargetable = true
  cooldown : c.cooldownReadyAt spell ≤ e.clock
  globalCooldown : definition.onGlobalCooldown = true → c.globalReadyAt ≤ e.clock
  runes : definition.cost.isFree = true ∨
    ∃ bar, c.runes = some bar ∧ bar.afford definition.cost e.clock = .ok ()

/-- Once everyone and everything has been found, the obstacles come in this order. -/
theorem checkCast_of_found {e : Encounter} {caster : CombatantId} {spell : SpellId}
    {target : CombatantId} {c : Combatant} {definition : Spell} {aimed : Combatant}
    (hc : e.find caster = .ok c) (hdefinition : findSpell c caster spell = .ok definition)
    (haimed : e.find target = .ok aimed) :
    e.checkCast caster spell target =
      if !aimed.isTargetable then .error (.invalidTarget target)
      else if e.clock < c.cooldownReadyAt spell then
        .error (.onCooldown spell (e.clock.till (c.cooldownReadyAt spell)))
      else if definition.onGlobalCooldown && e.clock < c.globalReadyAt then
        .error (.globalCooldown (e.clock.till c.globalReadyAt))
      else e.checkRunes c caster definition := by
  simp only [checkCast, hc, hdefinition, haimed, bind, Except.bind, throw, throwThe,
    MonadExceptOf.throw]

theorem checkCast_eq_ok_iff {e : Encounter} {caster : CombatantId} {spell : SpellId}
    {target : CombatantId} :
    e.checkCast caster spell target = .ok () ↔
      ∃ c definition aimed, e.combatant? caster = some c ∧ e.combatant? target = some aimed ∧
        e.Castable spell c definition aimed := by
  constructor
  · intro h
    cases hc : e.find caster with
    | error cause =>
      rw [checkCast, hc] at h
      cases h
    | ok c =>
    cases hdefinition : findSpell c caster spell with
    | error cause =>
      simp only [checkCast, hc, hdefinition, bind, Except.bind] at h
      cases h
    | ok definition =>
    cases haimed : e.find target with
    | error cause =>
      simp only [checkCast, hc, hdefinition, haimed, bind, Except.bind] at h
      cases h
    | ok aimed =>
    rw [checkCast_of_found hc hdefinition haimed] at h
    split at h
    · cases h
    next htargetable =>
    split at h
    · cases h
    next hcooldown =>
    split at h
    · cases h
    next hglobal =>
    refine ⟨c, definition, aimed, find_eq_ok_iff.mp hc, find_eq_ok_iff.mp haimed, ?_⟩
    refine ⟨findSpell_eq_ok_iff.mp hdefinition, by simpa using htargetable, ?_, ?_,
      checkRunes_eq_ok_iff.mp h⟩
    · simp only [Time.lt_def, Time.le_def] at *
      omega
    · intro hon
      simp only [hon, Bool.true_and, decide_eq_true_eq, Time.lt_def] at hglobal
      rw [Time.le_def]
      omega
  · rintro ⟨c, definition, aimed, hc, haimed, h⟩
    rw [checkCast_of_found (find_eq_ok_iff.mpr hc) (findSpell_eq_ok_iff.mpr h.known)
      (find_eq_ok_iff.mpr haimed)]
    have hcooldown : ¬ e.clock < c.cooldownReadyAt spell := Nat.not_lt.mpr h.cooldown
    have hglobal : ¬ (definition.onGlobalCooldown && decide (e.clock < c.globalReadyAt)) = true := by
      rw [Bool.and_eq_true, decide_eq_true_eq]
      exact fun hand => Nat.not_lt.mpr (h.globalCooldown hand.1) hand.2
    rw [h.targetable, if_neg hcooldown, if_neg hglobal]
    exact checkRunes_eq_ok_iff.mpr h.runes

theorem isOk_checkCast_iff {e : Encounter} {caster : CombatantId} {spell : SpellId}
    {target : CombatantId} :
    (e.checkCast caster spell target).isOk = true ↔ e.checkCast caster spell target = .ok () := by
  cases e.checkCast caster spell target with
  | error cause => exact ⟨nofun, nofun⟩
  | ok u => exact ⟨fun _ => rfl, fun _ => rfl⟩

/-! ### What a cast changes -/

theorem afterHit_combatants (e : Encounter) (amount critChance : Float) :
    (e.afterHit amount critChance).combatants = e.combatants := by
  unfold afterHit
  split <;> rfl

theorem land_combatants (e : Encounter) (c : Combatant) (definition : Spell)
    (runes : Option RuneBar) (caster target : CombatantId) (targetStats : Stats) :
    (e.land c definition runes caster target targetStats).combatants =
      (e.modify caster fun c => e.afterCast c definition runes target targetStats).combatants :=
  afterHit_combatants ..

end Encounter

end ActionPriority
