import ActionPriority.Proofs.Encounter.Footprint
import ActionPriority.Proofs.Encounter.Lifetime

/-! # Casts that Commute

    Some casts do nothing but apply an effect: they cost no runes, are not on the global cooldown,
    and hit for nothing.  Two of them at one instant may be done in either order.

    * What such a cast leaves is the caster marked with cooldown and effect, and one more cast
      counted (`Applies.cast_eq`).  No dice are drawn.
    * It is no obstacle to another such cast, and does not change what that leaves, unless both
      wait for the same cooldown (`Applies.cast_applied`).
    * Marks under different keys of the tables do not see each other (`marked_comm`), and two
      under the same key are the same mark, so that the order of the casts is not to be seen
      (`Applies.comm`).
-/

namespace ActionPriority

/-- Values of different keys may be set in either order. -/
theorem Table.insert_comm {κ α : Type} [Ord κ] [Std.TransOrd κ] [Std.LawfulEqOrd κ]
    [DecidableEq κ] {k k' : κ} (h : k ≠ k') (t : Table κ α) (v v' : α) :
    (t.insert k v).insert k' v' = (t.insert k' v').insert k v := by
  apply Table.eq_of_find?
  intro key
  simp only [find?_insert]
  by_cases hkey : key = k
  · have hkey' : key ≠ k' := by rwa [hkey]
    rw [if_pos hkey, if_neg hkey', if_pos hkey]
  · rw [if_neg hkey, if_neg hkey]

namespace Encounter

/-! ### Marks -/

/-- A combatant that has cast a spell without paying runes. -/
def marked (e : Encounter) (definition : Spell) (target : CombatantId) (targetStats : Stats)
    (c : Combatant) : Combatant :=
  e.afterCast c definition c.runes target targetStats

/-- The encounter after a cast that has only marked its caster. -/
def applied (e : Encounter) (caster : CombatantId) (definition : Spell) (target : CombatantId)
    (targetStats : Stats) : Encounter :=
  { e.modify caster (e.marked definition target targetStats) with casts := e.casts + 1 }

/-- A cast that is accepted, of a spell that does nothing but apply its effect: it costs no runes,
    is not on the global cooldown, and hits for nothing.  The caster is `c`, and the target is
    `aimed`. -/
structure Applies (e : Encounter) (caster : CombatantId) (spell : SpellId) (target : CombatantId)
    (c : Combatant) (definition : Spell) (aimed : Combatant) : Prop where
  casting : e.combatant? caster = some c
  known : c.spell? spell = some definition
  aiming : e.combatant? target = some aimed
  accepted : ∃ after, e.cast caster spell target = .ok after
  free : definition.cost.isFree = true
  offGlobalCooldown : definition.onGlobalCooldown = false
  harmless : ¬ Damage.modified definition.directDamage c.stats aimed.stats > 0.0

/-- Two casts, one of each definition, do not wait for the same cooldown. -/
def Independent (caster caster' : CombatantId) (definition definition' : Spell) : Prop :=
  caster ≠ caster' ∨ definition.id ≠ definition'.id ∨
    definition.cooldown = Time.zero ∧ definition'.cooldown = Time.zero

section Marks

variable {e : Encounter} {caster caster' target target' : CombatantId} {spell spell' : SpellId}
  {c c' aimed aimed' : Combatant} {definition definition' : Spell}

theorem Independent.symm (h : Independent caster caster' definition definition') :
    Independent caster' caster definition' definition :=
  h.imp Ne.symm (Or.imp Ne.symm And.symm)

/-- If caster and spell are the same, so is what has been found for them. -/
theorem Applies.same (h : e.Applies caster spell target c definition aimed)
    (h' : e.Applies caster spell target' c' definition' aimed') :
    c = c' ∧ definition = definition' := by
  obtain rfl : c = c' := Option.some.inj (h.casting.symm.trans h'.casting)
  exact ⟨rfl, Option.some.inj (h.known.symm.trans h'.known)⟩

theorem Applies.castable (h : e.Applies caster spell target c definition aimed) :
    e.Castable spell c definition aimed := by
  obtain ⟨c₁, definition₁, aimed₁, hc, haimed, hcastable⟩ :=
    checkCast_eq_ok_iff.mp (exists_cast_eq_ok_iff.mp h.accepted)
  rw [h.casting] at hc
  rw [h.aiming] at haimed
  cases hc
  cases haimed
  have hknown := hcastable.known
  rw [h.known] at hknown
  cases hknown
  exact hcastable

/-- All that it leaves is the mark. -/
theorem Applies.cast_eq (h : e.Applies caster spell target c definition aimed) :
    e.cast caster spell target = .ok (e.applied caster definition target aimed.stats) := by
  obtain ⟨after, hcast⟩ := h.accepted
  obtain ⟨runes, hpay, hland⟩ := cast_eq_land hcast h.casting h.known h.aiming
  obtain rfl := payRunes_of_isFree h.free hpay
  have hmodify : (e.modify caster fun c' =>
      e.afterCast c' definition c.runes target aimed.stats) =
        e.modify caster (e.marked definition target aimed.stats) := by
    unfold modify
    rw [modify_congr_of_eq h.casting]
    rfl
  -- A hit for nothing is not rolled, so the dice and the damage are as before.
  rw [hcast, hland]
  unfold land afterHit applied
  dsimp only
  rw [if_neg h.harmless, hmodify]
  rfl

/-- A mark is seen by nothing that decides about another cast, cooldowns apart. -/
theorem combatant?_applied (hc' : e.combatant? caster' = some c') (targetStats : Stats) :
    ∃ after, (e.applied caster definition target targetStats).combatant? caster' = some after ∧
      after.spells = c'.spells ∧ after.stats = c'.stats ∧
      after.isTargetable = c'.isTargetable ∧
      (∀ spell', caster ≠ caster' ∨ definition.id ≠ spell' ∨ definition.cooldown = Time.zero →
        after.cooldownReadyAt spell' = c'.cooldownReadyAt spell') := by
  refine ⟨_, combatant?_modify_of_some hc' caster _, ?_⟩
  by_cases hcaster : caster = caster'
  · rw [if_pos hcaster]
    refine ⟨rfl, rfl, rfl, ?_⟩
    intro spell' hother
    -- Only the spell of the mark has been put on cooldown, and `spell'` is another one.
    unfold marked
    rw [cooldownReadyAt_afterCast, if_neg]
    rintro ⟨hcooldown, rfl⟩
    simp [hcaster, hcooldown] at hother
  · rw [if_neg hcaster]
    exact ⟨rfl, rfl, rfl, fun _ _ => rfl⟩

/-- After one cast that only applies an effect the other still can be done, and leaves the mark
    that it would have left before. -/
theorem Applies.cast_applied (h : e.Applies caster' spell' target' c' definition' aimed')
    (hindependent : Independent caster caster' definition definition') (target : CombatantId)
    (targetStats : Stats) :
    (e.applied caster definition target targetStats).cast caster' spell' target' =
      .ok ((e.applied caster definition target targetStats).applied caster' definition' target'
        aimed'.stats) := by
  obtain ⟨c, hc, hspells, hstats, _, hcooldown⟩ := combatant?_applied h.casting targetStats
  obtain ⟨aimed, haimed, _, haimedStats, htargetable, _⟩ :=
    combatant?_applied h.aiming targetStats
  have hid := Combatant.spell?_id h.known
  have hother : caster ≠ caster' ∨ definition.id ≠ spell' ∨ definition.cooldown = Time.zero := by
    rw [← hid]
    exact hindependent.imp_right (Or.imp_right And.left)
  have hknown : c.spell? spell' = some definition' := by
    rw [Combatant.spell?, hspells]
    exact h.known
  have hcastable : (e.applied caster definition target targetStats).Castable spell' c
      definition' aimed :=
    { known := hknown
      targetable := htargetable.trans h.castable.targetable
      cooldown := by
        rw [hcooldown spell' hother]
        exact h.castable.cooldown
      globalCooldown := by
        intro hon
        rw [h.offGlobalCooldown] at hon
        cases hon
      runes := Or.inl h.free }
  have haccepted := exists_cast_eq_ok_iff.mpr
    (checkCast_eq_ok_iff.mpr ⟨c, definition', aimed, hc, haimed, hcastable⟩)
  have happlies : (e.applied caster definition target targetStats).Applies caster' spell' target'
      c definition' aimed := by
    refine ⟨hc, hknown, haimed, haccepted, h.free, h.offGlobalCooldown, ?_⟩
    rw [hstats, haimedStats]
    exact h.harmless
  rw [happlies.cast_eq, haimedStats]

/-! ### Order -/

/-- The marks of different effects can be left in either order, if the cooldowns differ, too, or
    there are none. -/
theorem marked_comm (hoff : definition.onGlobalCooldown = false)
    (hoff' : definition'.onGlobalCooldown = false)
    (hkey : (⟨definition.id, target⟩ : EffectKey) ≠ ⟨definition'.id, target'⟩)
    (hcooldown : definition.id ≠ definition'.id ∨
      definition.cooldown = Time.zero ∧ definition'.cooldown = Time.zero)
    (s s' : Stats) (c : Combatant) :
    e.marked definition' target' s' (e.marked definition target s c) =
      e.marked definition target s (e.marked definition' target' s' c) := by
  have hcooldowns : (e.marked definition' target' s' (e.marked definition target s c)).cooldowns =
      (e.marked definition target s (e.marked definition' target' s' c)).cooldowns := by
    unfold marked afterCast
    by_cases hnone : definition.cooldown = Time.zero
    · simp only [hnone, if_true]
    · by_cases hnone' : definition'.cooldown = Time.zero
      · simp only [hnone', if_true]
      · have hid : definition.id ≠ definition'.id := by simpa [hnone] using hcooldown
        simp only [hnone, hnone', if_false]
        exact Table.insert_comm hid ..
  have heffects : (e.marked definition' target' s' (e.marked definition target s c)).effects =
      (e.marked definition target s (e.marked definition' target' s' c)).effects := by
    unfold marked afterCast
    cases definition.periodic with
    | none => rfl
    | some p =>
      cases definition'.periodic with
      | none => rfl
      | some p' => exact Table.insert_comm hkey ..
  -- Nothing else is changed, as the global cooldown does not start.
  unfold marked afterCast at *
  simp only [hoff, hoff'] at *
  simp only [hcooldowns, heffects]

/-- Nor does it matter for the encounter. -/
theorem applied_comm (hoff : definition.onGlobalCooldown = false)
    (hoff' : definition'.onGlobalCooldown = false)
    (hindependent : caster ≠ caster' ∨
      (⟨definition.id, target⟩ : EffectKey) ≠ ⟨definition'.id, target'⟩ ∧
        (definition.id ≠ definition'.id ∨
          definition.cooldown = Time.zero ∧ definition'.cooldown = Time.zero))
    (s s' : Stats) :
    (e.applied caster definition target s).applied caster' definition' target' s' =
      (e.applied caster' definition' target' s').applied caster definition target s := by
  -- A mark depends on the clock and the settings only, and these stay.
  have hcombatants : (e.combatants.modify caster.index (e.marked definition target s)).modify
        caster'.index (e.marked definition' target' s') =
      (e.combatants.modify caster'.index (e.marked definition' target' s')).modify
        caster.index (e.marked definition target s) := by
    by_cases hcaster : caster = caster'
    · obtain ⟨hkey, hcooldown⟩ := hindependent.resolve_left fun hne => hne hcaster
      rw [hcaster, List.modify_modify_eq, List.modify_modify_eq]
      congr 1
      funext c
      exact marked_comm hoff hoff' hkey hcooldown s s' c
    · have hindex : caster.index ≠ caster'.index := by
        intro he
        exact hcaster (congrArg CombatantId.mk he)
      exact List.modify_modify_ne _ _ _ hindex
  exact congrArg (fun combatants => { e with combatants, casts := e.casts + 1 + 1 }) hcombatants

/-- Two casts that only apply effects leave the same marks in either order. -/
theorem Applies.comm (h : e.Applies caster spell target c definition aimed)
    (h' : e.Applies caster' spell' target' c' definition' aimed')
    (hindependent : Independent caster caster' definition definition') :
    (e.applied caster definition target aimed.stats).applied caster' definition' target'
        aimed'.stats =
      (e.applied caster' definition' target' aimed'.stats).applied caster definition target
        aimed.stats := by
  have hid := Combatant.spell?_id h.known
  have hid' := Combatant.spell?_id h'.known
  by_cases hcaster : caster = caster'
  · by_cases hkey : (⟨definition.id, target⟩ : EffectKey) = ⟨definition'.id, target'⟩
    · -- Then it is one cast, done twice.
      injection hkey with hspell htarget
      rw [hid, hid'] at hspell
      subst hcaster hspell htarget
      obtain ⟨rfl, rfl⟩ := h.same h'
      obtain rfl : aimed = aimed' := Option.some.inj (h.aiming.symm.trans h'.aiming)
      rfl
    · have hcooldown := hindependent.resolve_left fun hne => hne hcaster
      exact applied_comm h.offGlobalCooldown h'.offGlobalCooldown (Or.inr ⟨hkey, hcooldown⟩) _ _
  · exact applied_comm h.offGlobalCooldown h'.offGlobalCooldown (Or.inl hcaster) _ _

end Marks

/-- Two casts at one instant that only apply effects, by different casters or of different spells
    or of a spell without a cooldown, can be done in either order.  The state is the same, and so
    are all later ones, with the same ticks in the same order. -/
theorem casts_commute {e : Encounter} {caster caster' target target' : CombatantId}
    {spell spell' : SpellId} {c c' aimed aimed' : Combatant} {definition definition' : Spell}
    (h : e.Applies caster spell target c definition aimed)
    (h' : e.Applies caster' spell' target' c' definition' aimed')
    (hdifferent : (caster, spell) ≠ (caster', spell') ∨ definition.cooldown = Time.zero) :
    ∃ first second both,
      e.cast caster spell target = .ok first ∧ first.cast caster' spell' target' = .ok both ∧
      e.cast caster' spell' target' = .ok second ∧ second.cast caster spell target = .ok both ∧
      ∀ later,
        e.run (.cast caster spell target :: .cast caster' spell' target' :: later) =
          e.run (.cast caster' spell' target' :: .cast caster spell target :: later) ∧
        e.log (.cast caster spell target :: .cast caster' spell' target' :: later) =
          e.log (.cast caster' spell' target' :: .cast caster spell target :: later) := by
  have hindependent : Independent caster caster' definition definition' := by
    by_cases hsame : (caster, spell) = (caster', spell')
    · have hnone := hdifferent.resolve_left fun hne => hne hsame
      cases hsame
      obtain ⟨_, rfl⟩ := h.same h'
      exact Or.inr (Or.inr ⟨hnone, hnone⟩)
    · have hid := Combatant.spell?_id h.known
      have hid' := Combatant.spell?_id h'.known
      unfold Independent
      by_cases hcaster : caster = caster'
      · refine Or.inr (Or.inl ?_)
        intro hspell
        exact hsame (by rw [hcaster, ← hid, ← hid', hspell])
      · exact Or.inl hcaster
  have hfirst := h.cast_eq
  have hsecond := h'.cast_eq
  have hthen := h'.cast_applied hindependent target aimed.stats
  have hthen' := h.cast_applied hindependent.symm target' aimed'.stats
  rw [← h.comm h' hindependent] at hthen'
  refine ⟨_, _, _, hfirst, hthen, hsecond, hthen', ?_⟩
  intro later
  constructor
  · rw [run_cons, run_cons, perform_of_cast hfirst, perform_of_cast hthen]
    rw [run_cons, run_cons, perform_of_cast hsecond, perform_of_cast hthen']
  · -- Nothing ticks while spells are cast.
    simp only [log, firingsOf, perform_of_cast hfirst, perform_of_cast hthen,
      perform_of_cast hsecond, perform_of_cast hthen']

/-- The plague, off the global cooldown, with a cooldown of its own. -/
def swiftPlague : Spell :=
  { plague with onGlobalCooldown := false, cooldown := Time.ofWholeSeconds 20 }

/-- A weaker effect that ticks at the same instants. -/
def fever : Spell where
  id := ⟨55095⟩
  label := "Frost Fever"
  onGlobalCooldown := false
  periodic := some { plagueEffect with tickDamage := 80.0 }

/-- The knight of the duel has learned both. -/
def feverDuel : Encounter := duel.run [.learn ⟨1⟩ swiftPlague, .learn ⟨1⟩ fever]

/-- Whichever is cast first, both tick three times, and in the same order. -/
theorem casts_commute_fever :
    let plagueFirst : List Op := [.cast ⟨1⟩ swiftPlague.id ⟨0⟩, .cast ⟨1⟩ fever.id ⟨0⟩,
      .advanceTo (Time.ofWholeSeconds 6)]
    let feverFirst : List Op := [.cast ⟨1⟩ fever.id ⟨0⟩, .cast ⟨1⟩ swiftPlague.id ⟨0⟩,
      .advanceTo (Time.ofWholeSeconds 6)]
    feverDuel.run plagueFirst = feverDuel.run feverFirst ∧
      feverDuel.log plagueFirst = feverDuel.log feverFirst ∧
      (feverDuel.run feverFirst).casts = 2 ∧ (feverDuel.run feverFirst).dice.drawn = 6 := by
  intro plagueFirst feverFirst
  have hnothing : ¬ Damage.modified 0.0 { : Stats } { : Stats } > 0.0 := by decide +kernel
  have hplague : feverDuel.checkCast ⟨1⟩ swiftPlague.id ⟨0⟩ = .ok () := by decide +kernel
  have hfever : feverDuel.checkCast ⟨1⟩ fever.id ⟨0⟩ = .ok () := by decide +kernel
  have happlies : feverDuel.Applies ⟨1⟩ swiftPlague.id ⟨0⟩ _ swiftPlague _ :=
    ⟨rfl, rfl, rfl, ⟨_, cast_eq_perform hplague⟩, by decide, rfl, hnothing⟩
  have happlies' : feverDuel.Applies ⟨1⟩ fever.id ⟨0⟩ _ fever _ :=
    ⟨rfl, rfl, rfl, ⟨_, cast_eq_perform hfever⟩, by decide, rfl, hnothing⟩
  obtain ⟨_, _, _, _, _, _, _, hsame⟩ := casts_commute happlies happlies' (Or.inl (by decide))
  obtain ⟨hrun, hlog⟩ := hsame [.advanceTo (Time.ofWholeSeconds 6)]
  exact ⟨hrun, hlog, by decide +kernel, by decide +kernel⟩

end Encounter

end ActionPriority
