import ActionPriority.Proofs.Encounter.Spacing
import ActionPriority.Proofs.Encounter.Steering

/-! # The Footprint of a Cast

    A cast writes to seven parts of the state, each under a condition of its own.  Its footprint
    lists them, part by part, and says that everything else is as before.

    * `Encounter.CasterFootprint` is what becomes of the caster, and `Encounter.Footprint` what
      becomes of the whole encounter.  Tables are told by their answers, one key at a time, and
      the count of casts both in its 32 bits and as a number.
    * A cast that succeeds leaves this footprint (`footprint_land`).
    * The footprint leaves nothing open: there is one state only that it fits
      (`Footprint.eq`), since a table is told by its answers (`Table.eq_of_find?`).
-/

namespace ActionPriority

/-! ### Tables by their answers -/

section Table

variable {κ α : Type} [Ord κ] [Std.TransOrd κ] [Std.LawfulEqOrd κ]

theorem Table.mem_entries_iff {t : Table κ α} {k : κ} {v : α} :
    (k, v) ∈ t.entries ↔ t.find? k = some v :=
  ⟨find?_of_mem, mem_of_find?⟩

/-- Two tables that answer alike are the same: both have their entries in order. -/
theorem Table.eq_of_find? {s t : Table κ α} (h : ∀ k, s.find? k = t.find? k) : s = t := by
  have hmem : ∀ x, x ∈ s.entries ↔ x ∈ t.entries := by
    rintro ⟨k, v⟩
    rw [mem_entries_iff, mem_entries_iff, h k]
  have hperm : s.entries.Perm t.entries :=
    (List.perm_ext_iff_of_nodup s.nodup_entries t.nodup_entries).mpr hmem
  apply Table.ext
  refine hperm.eq_of_pairwise ?_ s.sorted t.sorted
  intro a b _ _ hab hba
  exact absurd hba (Std.OrientedCmp.not_lt_of_lt hab)

end Table

namespace Encounter

/-! ### The footprint -/

/-- What becomes of a caster `c` when it has cast the spell `definition` on `target`. -/
structure CasterFootprint (e : Encounter) (definition : Spell) (target : CombatantId)
    (targetStats : Stats) (c after : Combatant) : Prop where
  id : after.id = c.id
  label : after.label = c.label
  role : after.role = c.role
  stats : after.stats = c.stats
  enabled : after.enabled = c.enabled
  spells : after.spells = c.spells
  aim : after.aim = c.aim
  /-- It has paid the runes of the spell, if it has runes at all. -/
  runes : c.runes = none ∧ after.runes = none ∨
    ∃ bar paid, c.runes = some bar ∧ bar.spend definition.cost e.clock = .ok paid ∧
      after.runes = some paid
  free : definition.cost.isFree = true → after.runes = c.runes
  /-- The spell is on cooldown, if it has one.  All others stand as they did. -/
  cooldowns : ∀ spell, after.cooldowns.find? spell =
    if spell = definition.id ∧ definition.cooldown ≠ Time.zero then
      some (e.clock + definition.cooldown)
    else c.cooldowns.find? spell
  globalReadyAt : after.globalReadyAt =
    if definition.onGlobalCooldown then e.clock + e.settings.globalCooldown
    else c.globalReadyAt
  /-- The effect of the spell on the target starts anew, if the spell has one. -/
  fresh : ∀ p, definition.periodic = some p → after.effect? definition.id target =
    some (.applied e.clock p.ticks (Snapshot.take p c.stats targetStats))
  unapplied : definition.periodic = none →
    after.effect? definition.id target = c.effect? definition.id target
  /-- All other effects stand as they did. -/
  effects : ∀ spell aimed, ¬ (spell = definition.id ∧ aimed = target) →
    after.effect? spell aimed = c.effect? spell aimed

/-- What becomes of an encounter when `c`, who is found as `caster`, has cast the spell
    `definition` on `aimed`, who is found as `target`. -/
structure Footprint (e : Encounter) (caster : CombatantId) (definition : Spell)
    (target : CombatantId) (c aimed : Combatant) (after : Encounter) : Prop where
  clock : after.clock = e.clock
  settings : after.settings = e.settings
  roster : after.roster = e.roster
  whoCasts : ∃ c', after.combatant? caster = some c' ∧
    e.CasterFootprint definition target aimed.stats c c'
  /-- Nobody else has changed, joined or left. -/
  others : ∀ id, id ≠ caster → after.combatant? id = e.combatant? id
  /-- The cast is counted, in 32 bits. -/
  casts : after.casts = e.casts + 1
  /-- So the count grows by one, as long as there is a next number. -/
  counted : e.casts.toNat + 1 < UInt32.size → after.casts.toNat = e.casts.toNat + 1
  /-- After the last one it starts over. -/
  recounted : e.casts.toNat + 1 = UInt32.size → after.casts = 0
  /-- If the hit is worth anything, it takes one draw and counts as rolled. -/
  rolled : Damage.modified definition.directDamage c.stats aimed.stats > 0.0 →
    after.dice = e.dice.draw.2 ∧ after.dice.drawn = e.dice.drawn + 1 ∧
      after.damage = e.damage + (Damage.roll e.dice
        (Damage.modified definition.directDamage c.stats aimed.stats) c.stats.critChance).1
  /-- Otherwise nothing is drawn. -/
  unrolled : ¬ Damage.modified definition.directDamage c.stats aimed.stats > 0.0 →
    after.dice = e.dice ∧ after.damage = e.damage

/-! ### A cast leaves it -/

section Leaves

variable {e : Encounter} {caster target : CombatantId} {c aimed : Combatant} {definition : Spell}
  {runes : Option RuneBar}

/-- A cast has found whom and what there is to be found. -/
theorem cast_eq_land {spell : SpellId} {after : Encounter}
    (h : e.cast caster spell target = .ok after) (hc : e.combatant? caster = some c)
    (hdefinition : c.spell? spell = some definition) (haimed : e.combatant? target = some aimed) :
    ∃ runes, e.payRunes c definition = .ok runes ∧
      after = e.land c definition runes caster target aimed.stats := by
  obtain ⟨aimed', c', definition', runes, haimed', hc', hdefinition', hpay, hland⟩ := cast_eq_ok h
  rw [find_eq_ok_iff, haimed] at haimed'
  rw [find_eq_ok_iff, hc] at hc'
  cases haimed'
  cases hc'
  rw [findSpell_eq_ok_iff, hdefinition] at hdefinition'
  cases hdefinition'
  exact ⟨runes, hpay, hland⟩

/-- Whoever pays for a spell of no cost is left with the same runes. -/
theorem payRunes_of_isFree (hfree : definition.cost.isFree = true)
    (hpay : e.payRunes c definition = .ok runes) : runes = c.runes := by
  unfold payRunes at hpay
  cases hbar : c.runes with
  | none =>
    rw [hbar] at hpay
    cases hpay
    rfl
  | some bar =>
    have hneed : ∀ rune, definition.cost.need rune = 0 := by
      intro rune
      have hall : ∀ rune ∈ BaseRune.all, definition.cost.need rune = 0 := by
        simpa [RuneCost.isFree] using hfree
      exact hall rune rune.mem_all
    have hspend : bar.spend definition.cost e.clock = .ok bar := by
      rw [RuneBar.spend, afford_of_isFree hfree]
      simp [RuneBar.payAll, BaseRune.all, hneed, RuneBar.pay]
    rw [hbar] at hpay
    simp only [hspend] at hpay
    cases hpay
    rfl

/-- What is paid is what the bar spends on the cost. -/
theorem payRunes_eq_ok (hpay : e.payRunes c definition = .ok runes) :
    c.runes = none ∧ runes = none ∨
      ∃ bar paid, c.runes = some bar ∧ bar.spend definition.cost e.clock = .ok paid ∧
        runes = some paid := by
  unfold payRunes at hpay
  cases hbar : c.runes with
  | none =>
    rw [hbar] at hpay
    cases hpay
    exact Or.inl ⟨rfl, rfl⟩
  | some bar =>
    right
    rw [hbar] at hpay
    dsimp only at hpay
    cases hspend : bar.spend definition.cost e.clock with
    | error shortage =>
      rw [hspend] at hpay
      cases hpay
    | ok paid =>
      rw [hspend] at hpay
      cases hpay
      exact ⟨bar, paid, rfl, hspend, rfl⟩

/-- What the caster looks like once the spell has landed. -/
theorem casterFootprint_afterCast (hpay : e.payRunes c definition = .ok runes)
    (target : CombatantId) (targetStats : Stats) :
    e.CasterFootprint definition target targetStats c
      (e.afterCast c definition runes target targetStats) where
  id := rfl
  label := rfl
  role := rfl
  stats := rfl
  enabled := rfl
  spells := rfl
  aim := rfl
  runes := payRunes_eq_ok hpay
  free := fun hfree => payRunes_of_isFree hfree hpay
  cooldowns := by
    intro spell
    unfold afterCast
    by_cases hcooldown : definition.cooldown = Time.zero
    · simp [hcooldown]
    · simp [hcooldown, Table.find?_insert]
  globalReadyAt := rfl
  fresh := by
    intro p hp
    rw [effect?_afterCast, hp]
    simp
  unapplied := by
    intro hnone
    rw [effect?_afterCast, hnone]
  effects := by
    intro spell other hother
    rw [effect?_afterCast]
    cases definition.periodic with
    | none => rfl
    | some p => exact if_neg hother

theorem land_casts (e : Encounter) (c : Combatant) (definition : Spell)
    (runes : Option RuneBar) (caster target : CombatantId) (targetStats : Stats) :
    (e.land c definition runes caster target targetStats).casts = e.casts + 1 := by
  unfold land afterHit
  dsimp only
  split <;> rfl

/-- What the encounter looks like then. -/
theorem footprint_land (hc : e.combatant? caster = some c)
    (hpay : e.payRunes c definition = .ok runes) (target : CombatantId) (aimed : Combatant) :
    e.Footprint caster definition target c aimed
      (e.land c definition runes caster target aimed.stats) := by
  -- The hit changes nobody, so that everybody is as after the change of the caster.
  have hfind : ∀ id, (e.land c definition runes caster target aimed.stats).combatant? id =
      (e.modify caster fun c =>
        e.afterCast c definition runes target aimed.stats).combatant? id := by
    intro id
    rw [combatant?, land_combatants]
    rfl
  exact
    { clock := afterHit_clock ..
      settings := afterHit_settings ..
      roster := land_roster ..
      whoCasts := by
        refine ⟨_, ?_, casterFootprint_afterCast hpay target aimed.stats⟩
        rw [hfind, combatant?_modify_of_some hc, if_pos rfl]
      others := by
        intro id hid
        rw [hfind]
        cases hother : e.combatant? id with
        | none => rw [combatant?_modify, hother, Option.map_none]
        | some c' => rw [combatant?_modify_of_some hother, if_neg (Ne.symm hid)]
      casts := land_casts ..
      counted := by
        intro hroom
        rw [land_casts, UInt32.toNat_add]
        exact Nat.mod_eq_of_lt hroom
      recounted := by
        intro hlast
        rw [land_casts, ← UInt32.toNat_inj, UInt32.toNat_add]
        show (e.casts.toNat + 1) % UInt32.size = 0
        rw [hlast, Nat.mod_self]
      rolled := by
        intro hhit
        unfold land afterHit
        dsimp only
        rw [if_pos hhit]
        exact ⟨rfl, rfl, rfl⟩
      unrolled := by
        intro hmiss
        unfold land afterHit
        dsimp only
        rw [if_neg hmiss]
        exact ⟨rfl, rfl⟩ }

end Leaves

/-! ### Nothing else fits -/

section Unique

variable {e after after' : Encounter} {caster target : CombatantId} {c aimed : Combatant}
  {definition : Spell}

theorem CasterFootprint.eq {targetStats : Stats} {c₁ c₂ : Combatant}
    (h : e.CasterFootprint definition target targetStats c c₁)
    (h' : e.CasterFootprint definition target targetStats c c₂) : c₁ = c₂ := by
  have hrunes : c₁.runes = c₂.runes := by
    rcases h.runes with ⟨hnone, h₁⟩ | ⟨bar, paid, hbar, hspend, h₁⟩
    · rcases h'.runes with ⟨_, h₂⟩ | ⟨bar', _, hbar', _⟩
      · rw [h₁, h₂]
      · rw [hnone] at hbar'
        cases hbar'
    · rcases h'.runes with ⟨hnone, _⟩ | ⟨bar', paid', hbar', hspend', h₂⟩
      · rw [hnone] at hbar
        cases hbar
      · rw [hbar] at hbar'
        cases hbar'
        rw [hspend] at hspend'
        cases hspend'
        rw [h₁, h₂]
  have hcooldowns : c₁.cooldowns = c₂.cooldowns := by
    apply Table.eq_of_find?
    intro spell
    rw [h.cooldowns, h'.cooldowns]
  have heffects : c₁.effects = c₂.effects := by
    apply Table.eq_of_find?
    rintro ⟨spell, other⟩
    show c₁.effect? spell other = c₂.effect? spell other
    -- The effect that the cast is about is fresh, or the spell has none.
    by_cases hthis : spell = definition.id ∧ other = target
    · obtain ⟨rfl, rfl⟩ := hthis
      cases hperiodic : definition.periodic with
      | none => rw [h.unapplied hperiodic, h'.unapplied hperiodic]
      | some p => rw [h.fresh p hperiodic, h'.fresh p hperiodic]
    · rw [h.effects _ _ hthis, h'.effects _ _ hthis]
  have hglobal := h.globalReadyAt.trans h'.globalReadyAt.symm
  have hid := h.id.trans h'.id.symm
  have hlabel := h.label.trans h'.label.symm
  have hrole := h.role.trans h'.role.symm
  have hstats := h.stats.trans h'.stats.symm
  have henabled := h.enabled.trans h'.enabled.symm
  have hspells := h.spells.trans h'.spells.symm
  have haim := h.aim.trans h'.aim.symm
  cases c₁
  cases c₂
  simp_all only

/-- Where everybody is found alike, the same combatants have joined. -/
theorem combatants_eq_of_forall (h : ∀ id, after.combatant? id = after'.combatant? id) :
    after.combatants = after'.combatants :=
  List.ext_getElem? fun i => h ⟨i⟩

theorem Footprint.eq (h : e.Footprint caster definition target c aimed after)
    (h' : e.Footprint caster definition target c aimed after') : after = after' := by
  have hcombatants : after.combatants = after'.combatants := by
    apply combatants_eq_of_forall
    intro id
    by_cases hid : id = caster
    · obtain ⟨c₁, hc₁, hfoot₁⟩ := h.whoCasts
      obtain ⟨c₂, hc₂, hfoot₂⟩ := h'.whoCasts
      rw [hid, hc₁, hc₂, hfoot₁.eq hfoot₂]
    · rw [h.others id hid, h'.others id hid]
  have hhit : after.dice = after'.dice ∧ after.damage = after'.damage := by
    by_cases hhit : Damage.modified definition.directDamage c.stats aimed.stats > 0.0
    · obtain ⟨hdice, _, hdamage⟩ := h.rolled hhit
      obtain ⟨hdice', _, hdamage'⟩ := h'.rolled hhit
      exact ⟨hdice.trans hdice'.symm, hdamage.trans hdamage'.symm⟩
    · obtain ⟨hdice, hdamage⟩ := h.unrolled hhit
      obtain ⟨hdice', hdamage'⟩ := h'.unrolled hhit
      exact ⟨hdice.trans hdice'.symm, hdamage.trans hdamage'.symm⟩
  obtain ⟨hdice, hdamage⟩ := hhit
  have hclock := h.clock.trans h'.clock.symm
  have hsettings := h.settings.trans h'.settings.symm
  have hroster := h.roster.trans h'.roster.symm
  have hcasts := h.casts.trans h'.casts.symm
  cases after
  cases after'
  simp_all only

end Unique

/-- A cast that succeeds leaves its footprint, and nothing but its footprint: caster, spell and
    target have been found, and of all states there is one that the footprint fits. -/
theorem cast_leaves_footprint {e after : Encounter} {caster target : CombatantId}
    {spell : SpellId} (h : e.cast caster spell target = .ok after) :
    ∃ c definition aimed, e.combatant? caster = some c ∧ c.spell? spell = some definition ∧
      definition.id = spell ∧ e.combatant? target = some aimed ∧
      ∀ other, e.Footprint caster definition target c aimed other ↔ other = after := by
  obtain ⟨aimed, c, definition, runes, haimed, hc, hdefinition, hpay, rfl⟩ := cast_eq_ok h
  rw [find_eq_ok_iff] at haimed hc
  rw [findSpell_eq_ok_iff] at hdefinition
  have hfoot := footprint_land hc hpay target aimed
  refine ⟨c, definition, aimed, hc, hdefinition, Combatant.spell?_id hdefinition, haimed, ?_⟩
  intro other
  constructor
  · intro hother
    exact hother.eq hfoot
  · rintro rfl
    exact hfoot

/-- A spell that hits for a Frost rune, and applies an effect. -/
def icyTouch : Spell where
  id := ⟨45477⟩
  label := "Icy Touch"
  cooldown := Time.ofWholeSeconds 8
  cost := { frost := 1 }
  directDamage := 100.0
  periodic := some plagueEffect

/-- The knight of the duel has runes, and has learned to touch. -/
def icyDuel : Encounter :=
  duel.run [.setRunes ⟨1⟩ (some (RuneBar.new (Time.ofWholeSeconds 10))), .learn ⟨1⟩ icyTouch]

/-- The touch takes one draw and starts both cooldowns.  The dummy is as it was, and so is the
    plague that the knight could have cast. -/
theorem cast_leaves_footprint_icyTouch :
    ∃ after c', icyDuel.cast ⟨1⟩ icyTouch.id ⟨0⟩ = .ok after ∧
      after.combatant? ⟨1⟩ = some c' ∧
      c'.cooldowns.find? icyTouch.id = some (Time.ofWholeSeconds 8) ∧
      c'.cooldowns.find? plague.id = none ∧
      c'.globalReadyAt = Time.ofMillis 1500 ∧
      (c'.effect? icyTouch.id ⟨0⟩).isSome ∧ c'.effect? plague.id ⟨0⟩ = none ∧
      after.combatant? ⟨0⟩ = icyDuel.combatant? ⟨0⟩ ∧
      after.casts = 1 ∧ after.dice.drawn = 1 := by
  have hpasses : icyDuel.checkCast ⟨1⟩ icyTouch.id ⟨0⟩ = .ok () := by decide +kernel
  have hcast := cast_eq_perform hpasses
  obtain ⟨c, definition, aimed, hc, hdefinition, _, haimed, hfits⟩ := cast_leaves_footprint hcast
  cases hc
  cases hdefinition
  cases haimed
  have hfoot := (hfits _).mpr rfl
  obtain ⟨c', hc', hcaster⟩ := hfoot.whoCasts
  have hhit : Damage.modified icyTouch.directDamage { : Stats } { : Stats } > 0.0 := by
    decide +kernel
  obtain ⟨_, hdrawn, _⟩ := hfoot.rolled hhit
  have hplague : ¬ (plague.id = icyTouch.id ∧ (⟨0⟩ : CombatantId) = ⟨0⟩) := by decide
  refine ⟨_, c', hcast, hc', ?_, ?_, ?_, ?_, ?_, hfoot.others ⟨0⟩ (by decide), hfoot.casts, ?_⟩
  · rw [hcaster.cooldowns, if_pos (by decide)]
    rfl
  · rw [hcaster.cooldowns, if_neg (by decide)]
    rfl
  · exact hcaster.globalReadyAt
  · rw [hcaster.fresh plagueEffect rfl]
    rfl
  · rw [hcaster.effects _ _ hplague]
    rfl
  · rw [hdrawn]
    rfl

end Encounter

end ActionPriority
