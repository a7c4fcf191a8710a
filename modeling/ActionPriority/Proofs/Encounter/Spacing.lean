import ActionPriority.Proofs.Encounter.Atomicity
import ActionPriority.Proofs.Encounter.Steps

/-! # Spacing of Casts

    A cast notes when its spell is ready again, and when the global cooldown is over.  Later
    casts overwrite both, and a spell may be learned anew with another cooldown in between, or
    with none.

    What is noted never gets earlier (`Becomes.readyNoSooner`): a cast that overwrites an
    instant has waited for it, and notes one that is no earlier than now.  By induction over
    a run the same holds of any number of operations (`readyNoSooner_run`), so two casts lie as
    far apart as the first of them has asked for, however many others come in between
    (`casts_spaced`).
-/

namespace ActionPriority

/-- Nothing that `after` has to wait for is ready any sooner than for `c`. -/
structure Combatant.ReadyNoSooner (c after : Combatant) : Prop where
  spells : ∀ spell, c.cooldownReadyAt spell ≤ after.cooldownReadyAt spell
  globalCooldown : c.globalReadyAt ≤ after.globalReadyAt

namespace Combatant.ReadyNoSooner

variable {c c' c'' : Combatant}

theorem of_eq (hcooldowns : c'.cooldowns = c.cooldowns)
    (hglobal : c'.globalReadyAt = c.globalReadyAt) : c.ReadyNoSooner c' where
  spells := by
    intro spell
    rw [cooldownReadyAt, cooldownReadyAt, hcooldowns]
    exact Nat.le_refl _
  globalCooldown := Nat.le_of_eq (congrArg Time.nanos hglobal.symm)

theorem refl (c : Combatant) : c.ReadyNoSooner c := of_eq rfl rfl

theorem trans (h : c.ReadyNoSooner c') (h' : c'.ReadyNoSooner c'') : c.ReadyNoSooner c'' where
  spells := fun spell => Nat.le_trans (h.spells spell) (h'.spells spell)
  globalCooldown := Nat.le_trans h.globalCooldown h'.globalCooldown

end Combatant.ReadyNoSooner

namespace Encounter

variable {e : Encounter} {caster : CombatantId} {spell : SpellId}

/-! ### What a cast notes -/

theorem cooldownReadyAt_afterCast (e : Encounter) (c : Combatant) (definition : Spell)
    (runes : Option RuneBar) (target : CombatantId) (targetStats : Stats) (spell : SpellId) :
    (e.afterCast c definition runes target targetStats).cooldownReadyAt spell =
      if definition.cooldown ≠ Time.zero ∧ spell = definition.id then
        e.clock + definition.cooldown
      else c.cooldownReadyAt spell := by
  unfold afterCast Combatant.cooldownReadyAt
  by_cases hcooldown : definition.cooldown = Time.zero
  · simp only [hcooldown, if_true, ne_eq, not_true_eq_false, false_and, if_false]
  · by_cases hspell : spell = definition.id
    · simp only [hcooldown, hspell, ne_eq, not_false_eq_true, and_self, if_true, if_false,
        Table.find?_insert, Option.getD_some]
    · simp only [hcooldown, hspell, ne_eq, not_false_eq_true, and_false, if_false,
        Table.find?_insert]

theorem le_add (now length : Time) : now ≤ now + length := by
  have hlast := now.nanos_le
  rw [Time.le_def, Time.nanos_add]
  omega

/-- Who casts a spell could cast it. -/
theorem castable_of_cast {after : Encounter} {target : CombatantId} {c : Combatant}
    {definition : Spell} (hcast : e.cast caster spell target = .ok after)
    (hc : e.combatant? caster = some c) (hdefinition : c.spell? spell = some definition) :
    ∃ aimed, e.Castable spell c definition aimed := by
  obtain ⟨c', definition', aimed, hc', _, hcastable⟩ :=
    checkCast_eq_ok_iff.mp (exists_cast_eq_ok_iff.mp ⟨after, hcast⟩)
  rw [hc] at hc'
  cases hc'
  have hsame := hcastable.known
  rw [hdefinition] at hsame
  cases hsame
  exact ⟨aimed, hcastable⟩

/-- What a cast overwrites has passed, and what it notes has not. -/
theorem Castable.readyNoSooner {c aimed : Combatant} {definition : Spell}
    (h : e.Castable spell c definition aimed) (runes : Option RuneBar) (target : CombatantId)
    (targetStats : Stats) :
    c.ReadyNoSooner (e.afterCast c definition runes target targetStats) where
  spells := by
    intro other
    rw [cooldownReadyAt_afterCast]
    split
    · next hnoted =>
      have hpassed := h.cooldown
      rw [← Combatant.spell?_id h.known, ← hnoted.2] at hpassed
      exact Nat.le_trans hpassed (le_add ..)
    · exact Nat.le_refl _
  globalCooldown := by
    unfold afterCast
    dsimp only
    split
    · next hon => exact Nat.le_trans (h.globalCooldown hon) (le_add ..)
    · exact Nat.le_refl _

/-! ### What is noted never gets earlier -/

/-- Whatever becomes of somebody, nothing they wait for gets ready any sooner. -/
theorem Becomes.readyNoSooner {c after : Combatant} {op : Op} (h : e.Becomes caster c op after)
    (hc : e.combatant? caster = some c) : c.ReadyNoSooner after := by
  cases h with
  | enters _ =>
    split
    · exact .of_eq rfl rfl
    · exact .refl c
  | leaves _ =>
    unfold Combatant.endEffectsOn
    split
    · exact .of_eq rfl rfl
    · exact .of_eq rfl rfl
  | casts hcast hdefinition _ =>
    obtain ⟨_, hcastable⟩ := castable_of_cast hcast hc hdefinition
    exact hcastable.readyNoSooner ..
  | _ => exact .of_eq rfl rfl

theorem readyNoSooner_run {c : Combatant} (hc : e.combatant? caster = some c) (ops : List Op) :
    ∃ after, (e.run ops).combatant? caster = some after ∧ c.ReadyNoSooner after := by
  induction ops generalizing e c with
  | nil => exact ⟨c, hc, .refl c⟩
  | cons op rest ih =>
    obtain ⟨next, hnext, hbecomes⟩ := combatant?_perform hc op
    obtain ⟨after, hafter, hlater⟩ := ih hnext
    exact ⟨after, hafter, (hbecomes.readyNoSooner hc).trans hlater⟩

/-! ### Casts in a run -/

/-- The caster casts the spell, which it knows by the definition. -/
structure Casts (e after : Encounter) (caster : CombatantId) (spell : SpellId)
    (definition : Spell) : Prop where
  cast : ∃ target, e.cast caster spell target = .ok after
  known : ∃ c, e.combatant? caster = some c ∧ c.spell? spell = some definition

/-- The cooldowns that a cast starts are noted with its caster. -/
theorem Casts.noted {after : Encounter} {definition : Spell}
    (h : e.Casts after caster spell definition) :
    ∃ c, after.combatant? caster = some c ∧
      (definition.cooldown ≠ Time.zero →
        c.cooldownReadyAt spell = e.clock + definition.cooldown) ∧
      (definition.onGlobalCooldown = true →
        c.globalReadyAt = e.clock + e.settings.globalCooldown) := by
  obtain ⟨target, hcast⟩ := h.cast
  obtain ⟨c, hc, hdefinition⟩ := h.known
  obtain ⟨aimed, c', definition', runes, _, hc', hdefinition', _, hland⟩ := cast_eq_ok hcast
  rw [find_eq_ok_iff, hc] at hc'
  cases hc'
  rw [findSpell_eq_ok_iff, hdefinition] at hdefinition'
  cases hdefinition'
  have hthis : after.combatant? caster =
      some (e.afterCast c definition runes target aimed.stats) := by
    rw [hland]
    show (e.land c definition runes caster target aimed.stats).combatants[caster.index]? = _
    rw [land_combatants]
    refine (combatant?_modify_of_some hc caster _).trans ?_
    rw [if_pos rfl]
  refine ⟨_, hthis, ?_, ?_⟩
  · intro hcooldown
    rw [cooldownReadyAt_afterCast, if_pos ⟨hcooldown, (Combatant.spell?_id hdefinition).symm⟩]
  · intro hon
    unfold afterCast
    exact if_pos hon

/-- A length that is over by some instant before the last one fits in before it. -/
theorem add_le_of_le {now length t : Time} (h : now + length ≤ t) (ht : t < Time.never) :
    now.nanos + length.nanos ≤ t.nanos := by
  simp only [Time.le_def, Time.lt_def, Time.nanos_add, Time.nanos_never] at h ht
  omega

/-- In an encounter that ends before the last instant, two casts by the same caster lie at least
    the cooldown apart that the spell had at the first of them, if both are of that spell, and
    at least the global cooldown apart if both are on it.  It does not matter what is done in
    between. -/
theorem casts_spaced {begun after : Encounter} {spell' : SpellId} {first second : Spell}
    {ops : List Op} (h : e.Reachable) (hends : e.settings.duration < Time.never)
    (hfirst : e.Casts begun caster spell first)
    (hsecond : (begun.run ops).Casts after caster spell' second) :
    (spell' = spell →
      e.clock.nanos + first.cooldown.nanos ≤ (begun.run ops).clock.nanos) ∧
    (first.onGlobalCooldown = true → second.onGlobalCooldown = true →
      e.clock.nanos + e.settings.globalCooldown.nanos ≤ (begun.run ops).clock.nanos) := by
  obtain ⟨target, hcast⟩ := hfirst.cast
  obtain ⟨target', hcast'⟩ := hsecond.cast
  obtain ⟨c, hc, hcooldown, hglobal⟩ := hfirst.noted
  -- Whatever the first cast has noted is noted at the second one, or something later.
  obtain ⟨c', hc', hlater⟩ := readyNoSooner_run hc ops
  obtain ⟨c'', hc'', hdefinition⟩ := hsecond.known
  rw [hc'] at hc''
  cases hc''
  obtain ⟨_, hcastable⟩ := castable_of_cast hcast' hc' hdefinition
  have hlast : (begun.run ops).clock < Time.never := by
    have hbegun := h.perform (.cast caster spell target)
    rw [perform_of_cast hcast] at hbegun
    refine (hbegun.run ops).clock_lt_never ?_
    rw [settings_run, cast_settings hcast]
    exact hends
  refine ⟨?_, ?_⟩
  · rintro rfl
    by_cases hzero : first.cooldown = Time.zero
    · -- Without a cooldown it is enough that the clock does not go back.
      have hclock := begun.clock_le_run ops
      rw [cast_clock hcast] at hclock
      rw [hzero]
      exact hclock
    · refine add_le_of_le ?_ hlast
      rw [← hcooldown hzero]
      exact Nat.le_trans (hlater.spells _) hcastable.cooldown
  · intro hon hon'
    refine add_le_of_le ?_ hlast
    rw [← hglobal hon]
    exact Nat.le_trans hlater.globalCooldown (hcastable.globalCooldown hon')

/-- A spell with a cooldown of six seconds. -/
def strike : Spell where
  id := ⟨49020⟩
  label := "Strike"
  cooldown := Time.ofWholeSeconds 6

/-- The knight of the duel has learned the strike, too. -/
def strikeDuel : Encounter := duel.perform (.learn ⟨1⟩ strike)

theorem cast_eq_perform {target : CombatantId} (h : e.checkCast caster spell target = .ok ()) :
    e.cast caster spell target = .ok (e.perform (.cast caster spell target)) := by
  obtain ⟨after, hcast⟩ := exists_cast_eq_ok_iff.mpr h
  rw [perform_of_cast hcast]
  exact hcast

/-- After a strike six seconds pass before the next, though the strike has been learned anew
    without a cooldown, and the plague is cast in between. -/
theorem casts_spaced_strike :
    let ops : List Op := [.learn ⟨1⟩ { strike with cooldown := Time.zero },
      .advanceTo (Time.ofWholeSeconds 2), .cast ⟨1⟩ plague.id ⟨0⟩,
      .advanceTo (Time.ofWholeSeconds 7)]
    ∃ begun after second, strikeDuel.Reachable ∧ strikeDuel.settings.duration < Time.never ∧
      strikeDuel.Casts begun ⟨1⟩ strike.id strike ∧
      (begun.run ops).Casts after ⟨1⟩ strike.id second ∧ second.cooldown = Time.zero ∧
      strikeDuel.clock.nanos + strike.cooldown.nanos ≤ (begun.run ops).clock.nanos := by
  intro ops
  have hreachable : strikeDuel.Reachable := ((Reachable.new {} 1).run _).perform _
  have hends : strikeDuel.settings.duration < Time.never := by decide
  have hpasses : strikeDuel.checkCast ⟨1⟩ strike.id ⟨0⟩ = .ok () := by decide
  have hagain : ((strikeDuel.perform (.cast ⟨1⟩ strike.id ⟨0⟩)).run ops).checkCast
      ⟨1⟩ strike.id ⟨0⟩ = .ok () := by decide +kernel
  have hanew : ((((strikeDuel.perform (.cast ⟨1⟩ strike.id ⟨0⟩)).run ops).combatant? ⟨1⟩).bind
      (·.spell? strike.id)).map (·.cooldown) = some Time.zero := by decide +kernel
  obtain ⟨second, hknown, hcooldown⟩ := Option.map_eq_some_iff.mp hanew
  have hfirst : strikeDuel.Casts _ ⟨1⟩ strike.id strike :=
    ⟨⟨⟨0⟩, cast_eq_perform hpasses⟩, _, rfl, rfl⟩
  have hsecond := Casts.mk ⟨⟨0⟩, cast_eq_perform hagain⟩ (Option.bind_eq_some_iff.mp hknown)
  obtain ⟨hspaced, _⟩ := casts_spaced hreachable hends hfirst hsecond
  exact ⟨_, _, second, hreachable, hends, hfirst, hsecond, hcooldown, hspaced rfl⟩

end Encounter

end ActionPriority
