import ActionPriority.Proofs.Encounter.Reachable
import ActionPriority.Proofs.Encounter.Ticks

/-! # One Effect

    This module follows a single effect, that of one caster's spell on one target, through
    everything that can be done to an encounter.

    * Advancing makes it tick at all of its instants that are due, and at no other
      (`effect?_advanceTo`).  The ticks that fire are its own due ones among those of others
      (`firings_filter_isOf`).
    * Nothing else makes it tick.  An operation other than advancing leaves it as it is, unless
      the operation applies it anew or disables its target (`effect?_perform_of_quiet`).
-/

namespace ActionPriority

namespace Encounter

/-! ### One effect while ticks fire -/

section OneEffect

variable {e : Encounter} {caster target : CombatantId} {spell : SpellId} {f : Effect}

/-- Is this a tick of the effect that a caster has under a key? -/
def Tick.isOf (owner : Nat) (key : EffectKey) (t : Tick) : Bool :=
  decide (t.owner = owner ∧ t.key = key)

theorem Tick.isOf_iff {owner : Nat} {key : EffectKey} {t : Tick} :
    t.isOf owner key = true ↔ t.owner = owner ∧ t.key = key := decide_eq_true_iff

theorem PendingTick.isOf_tick_iff {owner : Nat} {key : EffectKey} {p : PendingTick} :
    p.tick.isOf owner key = true ↔ p.owner = owner ∧ p.key = key := Tick.isOf_iff

theorem combatant?_modify (e : Encounter) (id caster : CombatantId) (g : Combatant → Combatant) :
    (e.modify id g).combatant? caster =
      (e.combatant? caster).map fun c => if id.index = caster.index then g c else c := by
  refine (List.getElem?_modify ..).trans ?_
  unfold combatant?
  cases e.combatants[caster.index]? with
  | none => rfl
  | some c => split <;> rfl

theorem effect?_eq_some :
    e.effect? caster spell target = some f ↔
      ∃ c, e.combatants[caster.index]? = some c ∧ (⟨spell, target⟩, f) ∈ c.effects.entries := by
  constructor
  · intro h
    obtain ⟨c, hc, hf⟩ := Option.bind_eq_some_iff.mp h
    exact ⟨c, hc, Table.mem_of_find? hf⟩
  · rintro ⟨c, hc, hf⟩
    exact Option.bind_eq_some_iff.mpr ⟨c, hc, Table.find?_of_mem hf⟩

/-- A pending tick under the key of an effect is its next one. -/
theorem effect_of_pending {p : PendingTick} (h : e.effect? caster spell target = some f)
    (hp : p ∈ e.pending) (howner : p.owner = caster.index) (hkey : p.key = ⟨spell, target⟩) :
    p.effect = f ∧ ∃ s, f.schedule = some s ∧ p.due = s.nextTick := by
  obtain ⟨c, hc, hf⟩ := effect?_eq_some.mp h
  obtain ⟨c', s, hc', hp, hs, hdue⟩ := mem_pending hp
  rw [howner, hc] at hc'
  cases hc'
  rw [hkey] at hp
  obtain rfl := Table.eq_of_mem hp hf
  exact ⟨rfl, s, hs, hdue⟩

/-- A tick moves its own effect on, and no other. -/
theorem effect?_fire (h : e.effect? caster spell target = some f) (p : PendingTick) :
    (e.fire p).effect? caster spell target =
      some (if p.tick.isOf caster.index ⟨spell, target⟩ then f.tick else f) := by
  obtain ⟨c, hc, hf⟩ := Option.bind_eq_some_iff.mp h
  have hfind : c.effects.find? ⟨spell, target⟩ = some f := hf
  -- Firing changes the owner of the tick, and of that only the effect under the key.
  have hthis : (e.fire p).combatant? caster =
      some (if p.owner = caster.index then c.adjustEffect p.key Effect.tick else c) := by
    have hmodify := combatant?_modify e ⟨p.owner⟩ caster (·.adjustEffect p.key Effect.tick)
    rw [hc] at hmodify
    exact hmodify
  have hadjust : (c.adjustEffect p.key Effect.tick).effect? spell target =
      some (if ⟨spell, target⟩ = p.key then f.tick else f) := by
    refine (Table.find?_mapValues ..).trans ?_
    rw [hfind]
    rfl
  rw [effect?, hthis, Option.bind_some]
  simp only [PendingTick.isOf_tick_iff]
  by_cases howner : p.owner = caster.index
  · rw [if_pos howner, hadjust]
    by_cases hkey : p.key = ⟨spell, target⟩
    · rw [if_pos hkey.symm, if_pos ⟨howner, hkey⟩]
    · -- It is another effect of the same caster that ticks.
      have hother : ¬ (p.owner = caster.index ∧ p.key = ⟨spell, target⟩) := by
        intro h
        exact hkey h.2
      rw [if_neg (Ne.symm hkey), if_neg hother]
  · -- It is somebody else's effect that ticks.
    have hother : ¬ (p.owner = caster.index ∧ p.key = ⟨spell, target⟩) := by
      intro h
      exact howner h.1
    rw [if_neg howner, if_neg hother]
    exact hf

/-- The ticks of one effect that fire are those that it has due. -/
theorem firings_filter_isOf (h : e.effect? caster spell target = some f) (limit : Time) :
    (e.firings limit).filter (Tick.isOf caster.index ⟨spell, target⟩) =
      (f.due limit).map fun due => ⟨caster.index, ⟨spell, target⟩, f.snapshot, due⟩ := by
  fun_induction firings e limit generalizing f with
  | case1 e hnone =>
    -- Nothing is due, and so nothing of this effect is.
    obtain ⟨c, hc, hf⟩ := effect?_eq_some.mp h
    have hlater := nextDue?_eq_none.mp hnone c (List.mem_of_getElem? hc) f
      (List.mem_map.mpr ⟨_, hf, rfl⟩)
    rw [Effect.due_eq_nil hlater]
    rfl
  | case2 e p hsome ih =>
    have hfire := effect?_fire h p
    by_cases hof : p.tick.isOf caster.index ⟨spell, target⟩ = true
    · -- The tick is the next one of this effect, which has the others still due.
      obtain ⟨howner, hkey⟩ := PendingTick.isOf_tick_iff.mp hof
      obtain ⟨rfl, s, hs, hdue⟩ := effect_of_pending h (nextDue?_mem hsome) howner hkey
      rw [if_pos hof] at hfire
      rw [List.filter_cons, if_pos hof, ih hfire,
        Effect.due_of_nextTick_le hs (hdue ▸ nextDue?_le hsome), List.map_cons, ← hdue, ← hkey,
        ← howner]
      rfl
    · -- The tick is that of another effect, and leaves this one alone.
      rw [if_neg hof] at hfire
      rw [List.filter_cons, if_neg hof, ih hfire]

/-- Advancing makes the effect tick at all instants up to the limit. -/
theorem effect?_advanceTo (h : e.effect? caster spell target = some f) (t : Time) :
    (e.advanceTo t).effect? caster spell target = some (f.through (min t e.endTime)) := by
  obtain ⟨c, hc, hf⟩ := Option.bind_eq_some_iff.mp h
  have hc : e.combatants[caster.index]? = some c := hc
  have hthis : (e.advanceTo t).combatant? caster = some (c.through (min t e.endTime)) := by
    have hall : (e.advanceTo t).combatants = e.combatants.map (·.through (min t e.endTime)) :=
      e.combatants_fireUntil _
    rw [combatant?, hall, List.getElem?_map, hc]
    rfl
  have hfind : c.effects.find? ⟨spell, target⟩ = some f := hf
  rw [effect?, hthis, Option.bind_some]
  refine (Table.find?_mapValues ..).trans ?_
  rw [hfind]
  rfl

/-! ### One effect while other things happen -/

/-- Changing anything but effects leaves the effect alone. -/
theorem effect?_modify {g : Combatant → Combatant} (hg : ∀ c, (g c).effects = c.effects)
    (id : CombatantId) :
    (e.modify id g).effect? caster spell target = e.effect? caster spell target := by
  rw [effect?, effect?, combatant?_modify]
  cases e.combatant? caster with
  | none => rfl
  | some c =>
    rw [Option.map_some, Option.bind_some, Option.bind_some, Combatant.effect?, Combatant.effect?]
    split
    · rw [hg]
    · rfl

/-- Only combatants have effects. -/
theorem effect?_congr {e e' : Encounter} (h : e'.combatants = e.combatants) :
    e'.effect? caster spell target = e.effect? caster spell target := by
  rw [effect?, effect?, combatant?, combatant?, h]

theorem effect?_addPlayer (h : e.effect? caster spell target = some f) (label : String)
    (stats : Stats) : (e.addPlayer label stats).effect? caster spell target = some f := by
  obtain ⟨c, hc, hf⟩ := effect?_eq_some.mp h
  refine effect?_eq_some.mpr ⟨c, ?_, hf⟩
  rw [addPlayer, List.getElem?_append_left (List.getElem?_eq_some_iff.mp hc).1, hc]

theorem effect?_addTarget {after : Encounter} {label : String} {stats : Stats}
    (h : e.effect? caster spell target = some f) (hadd : e.addTarget label stats = .ok after) :
    after.effect? caster spell target = some f := by
  obtain ⟨c, hc, hf⟩ := effect?_eq_some.mp h
  unfold addTarget at hadd
  split at hadd
  · cases hadd
    have heffects : (takeAim e.nextId c).effects = c.effects := by
      unfold takeAim
      split <;> rfl
    refine effect?_eq_some.mpr ⟨takeAim e.nextId c, ?_, heffects ▸ hf⟩
    rw [List.getElem?_map, List.getElem?_append_left (List.getElem?_eq_some_iff.mp hc).1, hc]
    rfl
  · cases hadd

theorem effect?_endEffectsOn {c : Combatant} {id : CombatantId} (hne : target ≠ id)
    (h : c.effect? spell target = some f) :
    (c.endEffectsOn id).effect? spell target = some f := by
  have hfind : c.effects.find? ⟨spell, target⟩ = some f := h
  refine (Table.find?_mapValues ..).trans ?_
  rw [hfind, Option.map_some, if_neg hne]

/-- Disabling a target ends effects on that target alone. -/
theorem effect?_setEnabled {after : Encounter} {id : CombatantId} {enabled : Bool}
    (h : e.effect? caster spell target = some f) (hon : id = target → enabled = true)
    (hset : e.setEnabled? id enabled = some after) :
    after.effect? caster spell target = some f := by
  have hmodify : (e.modify id fun c => { c with enabled }).effect? caster spell target = some f :=
    (effect?_modify (g := fun c => { c with enabled }) (fun _ => rfl) id).trans h
  obtain rfl := setEnabled?_eq_some hset
  dsimp only
  split
  · exact hmodify
  · next hdisabled =>
    have hne : target ≠ id := by
      intro he
      exact hdisabled (hon he.symm)
    obtain ⟨c, hc, hf⟩ := Option.bind_eq_some_iff.mp hmodify
    refine Option.bind_eq_some_iff.mpr ⟨c.endEffectsOn id, ?_, effect?_endEffectsOn hne hf⟩
    have hc : (e.modify id fun c => { c with enabled }).combatants[caster.index]? = some c := hc
    rw [combatant?, List.getElem?_map, hc]
    rfl

/-- What a combatant has after its cast: the effect it has applied, and those from before. -/
theorem effect?_afterCast (e : Encounter) (c : Combatant) (definition : Spell)
    (runes : Option RuneBar) (aimed : CombatantId) (targetStats : Stats) :
    (e.afterCast c definition runes aimed targetStats).effect? spell target =
      match definition.periodic with
      | none => c.effect? spell target
      | some p =>
        if spell = definition.id ∧ target = aimed then
          some (.applied e.clock p.ticks (Snapshot.take p c.stats targetStats))
        else c.effect? spell target := by
  unfold afterCast Combatant.effect?
  cases definition.periodic with
  | none => rfl
  | some p => simp only [Table.find?_insert, EffectKey.mk.injEq]

theorem effect?_land (e : Encounter) (c : Combatant) (definition : Spell)
    (runes : Option RuneBar) (owner aimed : CombatantId) (targetStats : Stats) :
    (e.land c definition runes owner aimed targetStats).effect? caster spell target =
      (e.combatant? caster).bind fun c =>
        if owner.index = caster.index then
          (e.afterCast c definition runes aimed targetStats).effect? spell target
        else c.effect? spell target := by
  rw [effect?_congr (land_combatants ..), effect?, combatant?_modify]
  cases e.combatant? caster with
  | none => rfl
  | some c =>
    rw [Option.map_some, Option.bind_some, Option.bind_some]
    split <;> rfl

end OneEffect

/-! ### What disturbs an effect -/

/-- The operation applies the effect anew: it is a cast of the spell on the target by the
    caster, the spell has a periodic effect, and the cast succeeds. -/
def Reapplies (e : Encounter) (caster : CombatantId) (spell : SpellId) (target : CombatantId) :
    Op → Prop
  | .cast owner cast aimed =>
    owner = caster ∧ cast = spell ∧ aimed = target ∧
      (∃ after, e.cast caster spell target = .ok after) ∧
      ∃ c definition, e.combatant? caster = some c ∧ c.spell? spell = some definition ∧
        definition.periodic.isSome = true
  | _ => False

/-- The operation disables the combatant: it asks for that, and is not refused. -/
def Disables (e : Encounter) (target : CombatantId) : Op → Prop
  | .setEnabled id enabled =>
    id = target ∧ enabled = false ∧ (e.setEnabled? target false).isSome = true
  | _ => False

/-- The operation neither applies the effect anew nor disables its target. -/
def Spares (e : Encounter) (caster : CombatantId) (spell : SpellId) (target : CombatantId)
    (op : Op) : Prop :=
  ¬ e.Reapplies caster spell target op ∧ ¬ e.Disables target op

section Spared

variable {e : Encounter} {caster target : CombatantId} {spell : SpellId} {f : Effect}

/-- A cast that does not apply the effect anew leaves it alone. -/
theorem effect?_cast {after : Encounter} {owner aimed : CombatantId} {cast : SpellId}
    (h : e.effect? caster spell target = some f)
    (hspares : ¬ e.Reapplies caster spell target (.cast owner cast aimed))
    (hcast : e.cast owner cast aimed = .ok after) :
    after.effect? caster spell target = some f := by
  obtain ⟨aimedAt, c, definition, runes, _, hc, hdefinition, _, hland⟩ := cast_eq_ok hcast
  obtain ⟨c', hc', hf⟩ := Option.bind_eq_some_iff.mp h
  have hid : definition.id = cast := Combatant.spell?_id (findSpell_eq_ok_iff.mp hdefinition)
  rw [hland, effect?_land, hc', Option.bind_some]
  split
  · next howner =>
    -- It is the same caster, so the effect is another one, or the spell has none.
    have howner : owner = caster := by
      cases owner; cases caster; cases howner; rfl
    subst howner
    rw [find_eq_ok_iff.mp hc] at hc'
    cases hc'
    rw [effect?_afterCast]
    split
    · exact hf
    · next p hperiodic =>
      rw [if_neg]
      · exact hf
      · -- Otherwise the cast would apply the effect anew.
        rintro ⟨rfl, rfl⟩
        refine hspares ⟨rfl, hid.symm, rfl, ⟨after, hid ▸ hcast⟩, c, definition,
          find_eq_ok_iff.mp hc, ?_, ?_⟩
        · rw [hid]
          exact findSpell_eq_ok_iff.mp hdefinition
        · rw [hperiodic]
          rfl
  · exact hf

/-- An operation that spares the effect leaves it alone, unless it takes time. -/
theorem effect?_perform_of_quiet {op : Op} (h : e.effect? caster spell target = some f)
    (hspares : e.Spares caster spell target op) (hquiet : ∀ t, op ≠ .advanceTo t) :
    (e.perform op).effect? caster spell target = some f := by
  obtain ⟨hkeep, hon⟩ := hspares
  cases op with
  | addPlayer label stats => exact effect?_addPlayer h label stats
  | addTarget label stats =>
    rw [perform]
    cases hadd : e.addTarget label stats with
    | error full => exact h
    | ok after => exact effect?_addTarget h hadd
  | setEnabled id enabled =>
    rw [perform]
    cases hset : e.setEnabled? id enabled with
    | none => exact h
    | some after =>
      refine effect?_setEnabled h ?_ hset
      rintro rfl
      cases enabled with
      | true => rfl
      | false =>
        refine absurd ⟨rfl, rfl, ?_⟩ hon
        rw [hset]
        rfl
  | setAim id aim =>
    rw [perform, setAim?]
    split
    · exact (effect?_modify (g := fun c => { c with aim }) (fun _ => rfl) id).trans h
    · exact h
  | setStats id stats =>
    exact (effect?_modify (g := fun c => { c with stats }) (fun _ => rfl) id).trans h
  | learn id definition =>
    exact (effect?_modify (g := fun c => c.learn definition) (fun _ => rfl) id).trans h
  | setRunes id runes =>
    exact (effect?_modify (g := fun c => { c with runes }) (fun _ => rfl) id).trans h
  | moveRunes id m =>
    exact (effect?_modify (g := fun c => { c with runes := c.runes.map (·.move m) })
      (fun _ => rfl) id).trans h
  | cast owner cast aimed =>
    rw [perform]
    cases hcast : e.cast owner cast aimed with
    | error cause => exact h
    | ok after => exact effect?_cast h hkeep hcast
  | advanceTo t => exact absurd rfl (hquiet t)

theorem clock_perform_of_quiet {op : Op} (hquiet : ∀ t, op ≠ .advanceTo t) :
    (e.perform op).clock = e.clock := by
  cases op with
  | addPlayer label stats => rfl
  | addTarget label stats =>
    rw [perform]
    unfold addTarget
    split <;> rfl
  | setEnabled id enabled =>
    rw [perform]
    cases hset : e.setEnabled? id enabled with
    | none => rfl
    | some after =>
      obtain rfl := setEnabled?_eq_some hset
      dsimp only
      split <;> rfl
  | setAim id aim =>
    rw [perform, setAim?]
    split <;> rfl
  | setStats id stats => rfl
  | learn id definition => rfl
  | setRunes id runes => rfl
  | moveRunes id m => rfl
  | cast owner cast aimed =>
    rw [perform]
    cases hcast : e.cast owner cast aimed with
    | error cause => rfl
    | ok after => exact cast_clock hcast
  | advanceTo t => exact absurd rfl (hquiet t)

end Spared

end Encounter

end ActionPriority
