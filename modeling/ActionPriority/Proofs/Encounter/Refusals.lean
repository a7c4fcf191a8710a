import ActionPriority.Proofs.Encounter.Footprint

/-! # Refusals for Good

    A cast may be refused because something that it is about does not exist: there is nobody of
    that identity, the caster has not learned the spell, or the spell costs runes and the caster
    has no rune bar (`Encounter.Missing`).  These are the obstacles of severity
    `Severity.validation`.

    What is missing does not come by itself.  Steering an encounter makes nobody join and nobody
    learn, and gives nobody a rune bar (`SameProfiles.run`), so that it is missing for good
    (`Missing.run`).  The obstacle that is named may change meanwhile, since another one may come
    before it.  The cast is refused all the same (`refused_for_good`).
-/

namespace ActionPriority

namespace Encounter

/-- Something that the cast is about does not exist. -/
inductive Missing (e : Encounter) (caster : CombatantId) (spell : SpellId)
    (target : CombatantId) : Prop where
  | caster : e.combatant? caster = none → Missing e caster spell target
  | target : e.combatant? target = none → Missing e caster spell target
  | spell {c : Combatant} : e.combatant? caster = some c → c.spell? spell = none →
      Missing e caster spell target
  | runeBar {c : Combatant} {definition : Spell} : e.combatant? caster = some c →
      c.spell? spell = some definition → definition.cost.isFree = false → c.runes = none →
      Missing e caster spell target

section Missing

variable {e e' : Encounter} {caster target : CombatantId} {spell : SpellId} {cause : CastError}

/-! ### Obstacles of this severity -/

theorem combatant?_of_find_error {id : CombatantId} (h : e.find id = .error cause) :
    e.combatant? id = none := by
  unfold find at h
  cases hc : e.combatant? id with
  | none => rfl
  | some c =>
    rw [hc] at h
    cases h

theorem spell?_of_findSpell_error {c : Combatant} (h : findSpell c caster spell = .error cause) :
    c.spell? spell = none := by
  unfold findSpell at h
  cases hdefinition : c.spell? spell with
  | none => rfl
  | some definition =>
    rw [hdefinition] at h
    cases h

/-- Of the obstacles with runes, only that there is no bar is of this severity: runes that fall
    short come back. -/
theorem runes_of_checkRunes_error {c : Combatant} {definition : Spell}
    (h : e.checkRunes c caster definition = .error cause) (hseverity : cause.severity = .validation) :
    definition.cost.isFree = false ∧ c.runes = none := by
  unfold checkRunes at h
  split at h
  · cases h
  next hcost =>
  refine ⟨Bool.not_eq_true _ ▸ hcost, ?_⟩
  cases hruns : c.runes with
  | none => rfl
  | some bar =>
    rw [hruns] at h
    dsimp only at h
    cases hafford : bar.afford definition.cost e.clock with
    | ok passed =>
      rw [hafford] at h
      cases h
    | error shortage =>
      rw [hafford] at h
      cases h
      cases hseverity

/-- An obstacle of this severity says that something is missing. -/
theorem missing_of_checkCast (h : e.checkCast caster spell target = .error cause)
    (hseverity : cause.severity = .validation) : e.Missing caster spell target := by
  cases hc : e.find caster with
  | error unknown => exact .caster (combatant?_of_find_error hc)
  | ok c =>
  cases hdefinition : findSpell c caster spell with
  | error unknown =>
    exact .spell (find_eq_ok_iff.mp hc) (spell?_of_findSpell_error hdefinition)
  | ok definition =>
  cases haimed : e.find target with
  | error unknown => exact .target (combatant?_of_find_error haimed)
  | ok aimed =>
  -- Everybody and everything is there, and waiting helps against all but one of the obstacles.
  rw [checkCast_of_found hc hdefinition haimed] at h
  split at h
  · cases h
    cases hseverity
  split at h
  · cases h
    cases hseverity
  split at h
  · cases h
    cases hseverity
  obtain ⟨hcost, hnone⟩ := runes_of_checkRunes_error h hseverity
  exact .runeBar (find_eq_ok_iff.mp hc) (findSpell_eq_ok_iff.mp hdefinition) hcost hnone

namespace Missing

/-- Nothing is cast with something missing. -/
theorem not_checkCast (h : e.Missing caster spell target) :
    e.checkCast caster spell target ≠ .ok () := by
  intro hpasses
  obtain ⟨c, definition, aimed, hc, haimed, hcastable⟩ := checkCast_eq_ok_iff.mp hpasses
  cases h with
  | caster hnone =>
    rw [hnone] at hc
    cases hc
  | target hnone =>
    rw [hnone] at haimed
    cases haimed
  | spell hc' hnone =>
    rw [hc] at hc'
    cases hc'
    rw [hcastable.known] at hnone
    cases hnone
  | runeBar hc' hdefinition hcost hnone =>
    rw [hc] at hc'
    cases hc'
    rw [hcastable.known] at hdefinition
    cases hdefinition
    rcases hcastable.runes with hfree | ⟨bar, hbar, _⟩
    · rw [hcost] at hfree
      cases hfree
    · rw [hnone] at hbar
      cases hbar

theorem exists_refusal (h : e.Missing caster spell target) :
    ∃ cause, e.checkCast caster spell target = .error cause ∧
      e.cast caster spell target = .error cause := by
  cases hcheck : e.checkCast caster spell target with
  | ok passed => exact absurd hcheck h.not_checkCast
  | error cause => exact ⟨cause, rfl, cast_of_check_error hcheck⟩

/-! ### Missing for good -/

theorem combatant?_of_sameProfiles (h : e.SameProfiles e') {id : CombatantId}
    (hnone : e.combatant? id = none) : e'.combatant? id = none := by
  have hprofile := h.combatant? id
  rw [hnone, Option.map_none, Option.map_eq_none_iff] at hprofile
  exact hprofile

/-- Whoever is there is found again, knowing the same spells, and with a rune bar only if there
    was one before. -/
theorem exists_of_sameProfiles (h : e.SameProfiles e') {id : CombatantId} {c : Combatant}
    (hc : e.combatant? id = some c) :
    ∃ c', e'.combatant? id = some c' ∧ c'.spells = c.spells ∧
      (c.runes = none → c'.runes = none) := by
  have hprofile := h.combatant? id
  rw [hc, Option.map_some] at hprofile
  obtain ⟨c', hc', hsame⟩ := Option.map_eq_some_iff.mp hprofile
  have hspells : c'.spells = c.spells := congrArg Combatant.Profile.spells hsame
  have hruns : c'.runes.isSome = c.runes.isSome := congrArg Combatant.Profile.usesRunes hsame
  refine ⟨c', hc', hspells, ?_⟩
  intro hnone
  rw [hnone, Option.isSome_none, Option.isSome_eq_false_iff, Option.isNone_iff_eq_none] at hruns
  exact hruns

/-- What is missing depends on profiles alone. -/
theorem of_sameProfiles (h : e.Missing caster spell target) (hsame : e.SameProfiles e') :
    e'.Missing caster spell target := by
  cases h with
  | caster hnone => exact .caster (combatant?_of_sameProfiles hsame hnone)
  | target hnone => exact .target (combatant?_of_sameProfiles hsame hnone)
  | spell hc hnone =>
    obtain ⟨c', hc', hspells, _⟩ := exists_of_sameProfiles hsame hc
    refine .spell hc' ?_
    rw [Combatant.spell?, hspells]
    exact hnone
  | runeBar hc hdefinition hcost hnone =>
    obtain ⟨c', hc', hspells, hruns⟩ := exists_of_sameProfiles hsame hc
    refine .runeBar hc' ?_ hcost (hruns hnone)
    rw [Combatant.spell?, hspells]
    exact hdefinition

/-- It stays missing, however the encounter is steered. -/
theorem run (h : e.Missing caster spell target) {ops : List Op} (hops : ∀ op ∈ ops, op.Steers) :
    (e.run ops).Missing caster spell target :=
  h.of_sameProfiles (.run hops)

end Missing

end Missing

/-- A cast that is refused with an obstacle of severity `validation` is refused for good.  As long
    as the encounter is only steered, and nobody joins, learns a spell or is given or deprived of
    a rune bar, the check always names some obstacle, and the cast fails with it. -/
theorem refused_for_good {e : Encounter} {caster target : CombatantId} {spell : SpellId}
    {cause : CastError} (hcheck : e.checkCast caster spell target = .error cause)
    (hseverity : cause.severity = .validation) {ops : List Op} (hops : ∀ op ∈ ops, op.Steers) :
    ∃ later, (e.run ops).checkCast caster spell target = .error later ∧
      (e.run ops).cast caster spell target = .error later :=
  ((missing_of_checkCast hcheck hseverity).run hops).exists_refusal

/-- A knight without a rune bar has learned to touch.  Once the dummy has left, that is the
    obstacle that is named, and it would be gone when the dummy comes back.  The cast fails all
    the same. -/
theorem refused_for_good_icyTouch :
    (duel.run [.learn ⟨1⟩ icyTouch]).checkCast ⟨1⟩ icyTouch.id ⟨0⟩ =
        .error (.noRuneBar ⟨1⟩ icyTouch.id) ∧
      ((duel.run [.learn ⟨1⟩ icyTouch]).run [.setEnabled ⟨0⟩ false]).cast ⟨1⟩ icyTouch.id ⟨0⟩ =
        .error (.invalidTarget ⟨0⟩) ∧
      (CastError.invalidTarget ⟨0⟩).severity = .recoverable := by
  have hcheck : (duel.run [.learn ⟨1⟩ icyTouch]).checkCast ⟨1⟩ icyTouch.id ⟨0⟩ =
      .error (.noRuneBar ⟨1⟩ icyTouch.id) := by decide +kernel
  have hmasked : ((duel.run [.learn ⟨1⟩ icyTouch]).run [.setEnabled ⟨0⟩ false]).checkCast ⟨1⟩
      icyTouch.id ⟨0⟩ = .error (.invalidTarget ⟨0⟩) := by decide +kernel
  have hsteers : ∀ op ∈ [Op.setEnabled ⟨0⟩ false], op.Steers := by
    intro op hop
    cases List.mem_singleton.mp hop
    trivial
  obtain ⟨later, hlater, hcast⟩ := refused_for_good hcheck rfl hsteers
  rw [hmasked] at hlater
  cases hlater
  exact ⟨hcheck, hcast, rfl⟩

end Encounter

end ActionPriority
