import ActionPriority.Condition.Node
import ActionPriority.Proofs.Encounter.Atomicity
import ActionPriority.Proofs.Encounter.Steps

/-! # Activity

    Whether an effect is active, how long it goes on, and whether its target is present are
    kept apart from each other, and conditions ask for one or the other.  In every reachable
    encounter the answers agree (`Reachable.activity_agrees`):

    * an active effect has a target that is present, and its next tick lies ahead,
    * it expires with the last of its ticks, so an effect is active if and only if there is
      time left on it,
    * a target that leaves takes the effects on it along, and none of them comes back before
      the target has entered again and the spell has been cast on it anew.

    The first two are invariants, kept by every operation.  The third follows from what can turn
    an effect active (`isRunning_perform`) and a target present (`eq_enable_of_isPresent`): one
    operation each.
-/

namespace ActionPriority

/-! ### All values of a table -/

section Table

variable {κ α : Type} [Ord κ] {t : Table κ α} {P : α → Prop}

theorem Table.forall_mapValues {g : κ → α → α} (hg : ∀ k v, P v → P (g k v))
    (h : ∀ v ∈ t.values, P v) : ∀ v ∈ (t.mapValues g).values, P v := by
  intro v hv
  obtain ⟨x, hx, rfl⟩ := List.mem_map.mp hv
  obtain ⟨y, hy, rfl⟩ := List.mem_map.mp hx
  exact hg y.1 y.2 (h y.2 (List.mem_map.mpr ⟨y, hy, rfl⟩))

theorem Table.forall_insert [Std.TransOrd κ] {k : κ} {new : α} (hnew : P new)
    (h : ∀ v ∈ t.values, P v) : ∀ v ∈ (t.insert k new).values, P v := by
  intro v hv
  obtain ⟨x, hx, rfl⟩ := List.mem_map.mp hv
  rcases Table.mem_insertEntry hx with rfl | hx
  · exact hnew
  · exact h x.2 (List.mem_map.mpr ⟨x, hx, rfl⟩)

end Table

/-! ### Effects that expire with their last tick -/

namespace Effect

/-- The effect has a period, and expires as many periods after its next tick as there are ticks
    after that one. -/
def Timed (f : Effect) : Prop :=
  ∀ s ∈ f.schedule, f.snapshot.period ≠ Time.zero ∧
    s.expiresAt = s.nextTick + f.snapshot.period.times s.later

theorem timed_applied (now : Time) (ticks : Nat) (snapshot : Snapshot) :
    (applied now ticks snapshot).Timed := by
  intro s hs
  unfold applied at hs
  split at hs
  · cases hs
  · next hactive =>
    cases hs
    obtain ⟨hticks, hperiod⟩ := not_or.mp hactive
    obtain ⟨later, rfl⟩ := Nat.exists_eq_succ_of_ne_zero hticks
    exact ⟨hperiod, Time.add_times_succ ..⟩

theorem timed_ended (f : Effect) : f.ended.Timed := by
  intro s hs
  cases hs

/-- A tick moves the next tick on by a period and leaves one tick fewer after it. -/
theorem Timed.tick {f : Effect} (h : f.Timed) : f.tick.Timed := by
  obtain ⟨snapshot, schedule⟩ := f
  intro s hs
  cases schedule with
  | none => cases hs
  | some before =>
    obtain ⟨nextTick, expiresAt, later⟩ := before
    obtain ⟨hperiod, hexpires⟩ := h _ rfl
    cases later with
    | zero => cases hs
    | succ later =>
      cases hs
      exact ⟨hperiod, hexpires.trans (Time.add_times_succ ..)⟩

theorem Timed.through {f : Effect} (h : f.Timed) (limit : Time) : (f.through limit).Timed := by
  unfold Effect.through
  induction (f.due limit).length with
  | zero => exact h
  | succ n ih =>
    rw [Function.iterate_succ_apply']
    exact ih.tick

/-- Ticking never makes an effect active. -/
theorem isActive_of_through {f : Effect} {limit : Time} (h : (f.through limit).isActive = true) :
    f.isActive = true := by
  unfold Effect.through at h
  generalize (f.due limit).length = n at h
  induction n with
  | zero => exact h
  | succ n ih =>
    apply ih
    rw [Function.iterate_succ_apply'] at h
    cases hs : (tick^[n] f).schedule with
    | none =>
      rw [isActive, tick, hs] at h
      cases h
    | some s =>
      rw [isActive, hs]
      rfl

/-- An effect that expires ahead of `now` is active if and only if there is time left on it. -/
theorem isActive_iff_remaining {f : Effect} {now : Time}
    (hahead : ∀ s ∈ f.schedule, now < s.expiresAt) :
    f.isActive = true ↔ Time.zero < f.remaining now := by
  unfold isActive remaining
  cases hs : f.schedule with
  | none =>
    rw [Time.lt_def]
    exact iff_of_false Bool.false_ne_true (Nat.lt_irrefl 0)
  | some s =>
    have hleft := hahead s hs
    rw [Time.lt_def] at hleft
    refine iff_of_true rfl ?_
    rw [Time.lt_def, Time.nanos_till, Time.nanos_zero]
    omega

end Effect

namespace Combatant

/-- Is its effect of the spell on the target active? -/
def isRunning (c : Combatant) (spell : SpellId) (target : CombatantId) : Bool :=
  (c.effect? spell target).any Effect.isActive

/-- Replacing effects by others makes none active if each was active before. -/
theorem isRunning_of_mapValues {c : Combatant} {g : EffectKey → Effect → Effect}
    {effects : Table EffectKey Effect} {spell : SpellId} {target : CombatantId}
    (hg : ∀ key f, (g key f).isActive = true → f.isActive = true)
    (heffects : effects = c.effects.mapValues g)
    (h : (effects.find? ⟨spell, target⟩).any Effect.isActive = true) :
    c.isRunning spell target = true := by
  rw [heffects, Table.find?_mapValues] at h
  rw [isRunning, effect?]
  cases hf : c.effects.find? ⟨spell, target⟩ with
  | none => rw [hf] at h; cases h
  | some f =>
    rw [hf] at h
    exact hg _ f h

theorem isRunning_endEffectsOn (c : Combatant) (spell : SpellId) (target : CombatantId) :
    (c.endEffectsOn target).isRunning spell target = false := by
  unfold isRunning effect? endEffectsOn
  rw [Table.find?_mapValues]
  cases c.effects.find? ⟨spell, target⟩ with
  | none => rfl
  | some f =>
    rw [Option.map_some, if_pos rfl]
    rfl

end Combatant

namespace Encounter

variable {e : Encounter} {caster target : CombatantId} {spell : SpellId}

/-! ### Targets that are present -/

/-- Is this a target, and is it present? -/
def isPresent (e : Encounter) (target : CombatantId) : Bool :=
  (e.combatant? target).any Combatant.isTargetable

theorem isPresent_of_some {c : Combatant} (h : e.combatant? target = some c) :
    e.isPresent target = c.isTargetable := by
  rw [isPresent, h, Option.any_some]

/-- Nobody changes between player and target. -/
theorem Becomes.role {c after : Combatant} {op : Op} (h : e.Becomes target c op after) :
    after.role = c.role := by
  cases h with
  | enters _ => split <;> rfl
  | leaves _ =>
    unfold Combatant.endEffectsOn
    split <;> rfl
  | _ => rfl

/-- Only being enabled or disabled makes somebody enter or leave. -/
theorem Becomes.enabled {c after : Combatant} {op : Op} (h : e.Becomes target c op after) :
    after.enabled = c.enabled ∨
      op = .setEnabled target after.enabled ∧
        (e.setEnabled? target after.enabled).isSome = true := by
  cases h with
  | enters hsome =>
    split
    · next hid => exact Or.inr ⟨hid ▸ rfl, hid ▸ hsome⟩
    · exact Or.inl rfl
  | leaves hsome =>
    unfold Combatant.endEffectsOn
    split
    · next hid => exact Or.inr ⟨hid ▸ rfl, hid ▸ hsome⟩
    · exact Or.inl rfl
  | _ => exact Or.inl rfl

theorem isTargetable_congr {c after : Combatant} (hrole : after.role = c.role)
    (henabled : after.enabled = c.enabled) : after.isTargetable = c.isTargetable := by
  rw [Combatant.isTargetable, Combatant.isTargetable, Combatant.place?, Combatant.place?, hrole,
    henabled]

/-- A target that is present stays so unless it is disabled. -/
theorem isPresent_perform {op : Op} (h : e.isPresent target = true)
    (hstays : ¬ e.Disables target op) : (e.perform op).isPresent target = true := by
  obtain ⟨c, hc, htargetable⟩ := (Option.any_eq_true ..).mp h
  obtain ⟨after, hafter, hbecomes⟩ := combatant?_perform hc op
  have hkept : after.enabled = c.enabled := by
    rcases hbecomes.enabled with hkept | ⟨rfl, hsome⟩
    · exact hkept
    · -- The operation is about the target, and so it has enabled it once more.
      have henabled : c.enabled = true := (Bool.and_eq_true_iff.mp htargetable).2
      rw [henabled, ← Bool.not_eq_false]
      intro hdisabled
      rw [hdisabled] at hsome hstays
      exact hstays ⟨rfl, rfl, hsome⟩
  rw [isPresent_of_some hafter, isTargetable_congr hbecomes.role hkept]
  exact htargetable

/-- Somebody who is there becomes present only by being enabled. -/
theorem eq_enable_of_isPresent {c : Combatant} {op : Op} (hc : e.combatant? target = some c)
    (hno : e.isPresent target = false) (hyes : (e.perform op).isPresent target = true) :
    op = .setEnabled target true := by
  obtain ⟨after, hafter, hbecomes⟩ := combatant?_perform hc op
  rw [isPresent_of_some hafter] at hyes
  rw [isPresent_of_some hc] at hno
  rcases hbecomes.enabled with hkept | ⟨hop, _⟩
  · rw [isTargetable_congr hbecomes.role hkept, hno] at hyes
    cases hyes
  · rw [(Bool.and_eq_true_iff.mp hyes).2] at hop
    exact hop

/-- A target that leaves is not present any more. -/
theorem isPresent_disabled {after : Encounter} (h : e.setEnabled? target false = some after) :
    after.isPresent target = false := by
  obtain ⟨c, hc, _⟩ := Option.bind_eq_some_iff.mp h
  rw [isPresent_of_some (combatant?_disabled h hc), if_pos rfl, Combatant.isTargetable]
  exact Bool.and_false _

/-! ### Effects that are active -/

/-- Is the effect of a caster's spell on a target active? -/
def isRunning (e : Encounter) (caster : CombatantId) (spell : SpellId) (target : CombatantId) :
    Bool :=
  (e.combatant? caster).any (·.isRunning spell target)

theorem isRunning_of_some {c : Combatant} (h : e.combatant? caster = some c) :
    e.isRunning caster spell target = c.isRunning spell target := by
  rw [isRunning, h, Option.any_some]

theorem isRunning_eq_any (e : Encounter) (caster : CombatantId) (spell : SpellId)
    (target : CombatantId) :
    e.isRunning caster spell target = (e.effect? caster spell target).any Effect.isActive := by
  rw [isRunning, effect?]
  cases e.combatant? caster with
  | none => rfl
  | some c => rfl

theorem Newcomer.isRunning {c : Combatant} (h : Newcomer c) :
    c.isRunning spell target = false := by
  rw [Combatant.isRunning, Combatant.effect?, h.effects]
  rfl

/-- Of all that can become of a caster, only a cast of the spell on the target makes the effect
    active. -/
theorem Becomes.isRunning {c after : Combatant} {op : Op} (h : e.Becomes caster c op after)
    (hc : e.combatant? caster = some c) (hyes : after.isRunning spell target = true) :
    c.isRunning spell target = true ∨ e.Reapplies caster spell target op := by
  cases h with
  | enters _ =>
    left
    split at hyes <;> exact hyes
  | @leaves left _ =>
    refine Or.inl (Combatant.isRunning_of_mapValues
      (g := fun k f => if k.target = left then f.ended else f) ?_ ?_ hyes)
    · intro key f hactive
      split at hactive
      · cases hactive
      · exact hactive
    · unfold Combatant.endEffectsOn
      split <;> rfl
  | @casts cast aimed _ definition runes next hcast hdefinition haimed =>
    rw [Combatant.isRunning, effect?_afterCast] at hyes
    split at hyes
    · exact Or.inl hyes
    · next p hperiodic =>
      split at hyes
      · next hsame =>
        obtain ⟨rfl, rfl⟩ := hsame
        obtain rfl := Combatant.spell?_id hdefinition
        right
        refine ⟨rfl, rfl, rfl, ⟨next, hcast⟩, c, definition, hc, hdefinition, ?_⟩
        rw [hperiodic]
        rfl
      · exact Or.inl hyes
  | advances t =>
    left
    exact Combatant.isRunning_of_mapValues (fun _ _ => Effect.isActive_of_through) rfl hyes
  | _ => exact Or.inl hyes

/-- Only an application makes an effect active. -/
theorem isRunning_perform {op : Op} (hyes : (e.perform op).isRunning caster spell target = true) :
    e.isRunning caster spell target = true ∨ e.Reapplies caster spell target op := by
  obtain ⟨after, hafter, hrunning⟩ := (Option.any_eq_true ..).mp hyes
  rcases becomes_or_joins hafter with ⟨before, hbefore, hbecomes⟩ | hjoins
  · rw [isRunning_of_some hbefore]
    exact hbecomes.isRunning hbefore hrunning
  · rw [hjoins.isRunning] at hrunning
    cases hrunning

/-- Every effect on a target that leaves stops, whoever has applied it. -/
theorem isRunning_disabled {after : Encounter} (h : e.setEnabled? target false = some after) :
    after.isRunning caster spell target = false := by
  cases hc : e.combatant? caster with
  | some c =>
    rw [isRunning_of_some (combatant?_disabled h hc)]
    exact Combatant.isRunning_endEffectsOn ..
  | none =>
    -- Somebody who was not there before has no effects yet.
    rw [isRunning, Option.any_eq_false]
    intro c hafter
    rw [← perform_of_setEnabled h] at hafter
    exact (newcomer_perform hc hafter).isRunning

/-- Whatever becomes of a caster, its effects expire with their last ticks. -/
theorem Becomes.timed {c after : Combatant} {op : Op} (h : e.Becomes caster c op after)
    (hbefore : ∀ f ∈ c.effects.values, f.Timed) : ∀ f ∈ after.effects.values, f.Timed := by
  cases h with
  | enters _ => split <;> exact hbefore
  | @leaves left _ =>
    have heffects : ((if left = caster then { c with enabled := false } else c).endEffectsOn
        left).effects = (c.endEffectsOn left).effects := by
      unfold Combatant.endEffectsOn
      split <;> rfl
    rw [heffects]
    refine Table.forall_mapValues (g := fun k f => if k.target = left then f.ended else f) ?_ hbefore
    intro k f hf
    split
    · exact f.timed_ended
    · exact hf
  | @casts cast aimed _ definition runes next hcast hdefinition haimed =>
    unfold afterCast
    dsimp only
    split
    · exact hbefore
    · exact Table.forall_insert (Effect.timed_applied _ _ _) hbefore
  | advances t => exact Table.forall_mapValues (fun _ f hf => hf.through _) hbefore
  | _ => exact hbefore

/-! ### What starts and stops effects -/

theorem Disables.eq {op : Op} (h : e.Disables target op) :
    op = .setEnabled target false ∧ ∃ after, e.setEnabled? target false = some after := by
  cases op with
  | setEnabled id enabled =>
    obtain ⟨rfl, rfl, hsome⟩ := h
    exact ⟨rfl, Option.isSome_iff_exists.mp hsome⟩
  | _ => cases h

theorem Reapplies.eq {op : Op} (h : e.Reapplies caster spell target op) :
    op = .cast caster spell target ∧ ∃ after, e.cast caster spell target = .ok after := by
  cases op with
  | cast owner cast aimed =>
    obtain ⟨rfl, rfl, rfl, hcast, _⟩ := h
    exact ⟨rfl, hcast⟩
  | _ => cases h

/-- Spells are cast on targets that are present. -/
theorem isPresent_of_cast {after : Encounter} (h : e.cast caster spell target = .ok after) :
    e.isPresent target = true := by
  obtain ⟨c, definition, aimed, _, haimed, hcastable⟩ :=
    checkCast_eq_ok_iff.mp (exists_cast_eq_ok_iff.mp ⟨after, h⟩)
  rw [isPresent_of_some haimed]
  exact hcastable.targetable

/-- An effect that is active has a target that is present. -/
theorem Reachable.isPresent (h : e.Reachable) (hrunning : e.isRunning caster spell target = true) :
    e.isPresent target = true := by
  induction h with
  | new settings seed => cases hrunning
  | @perform e op hreachable ih =>
    have hbefore : e.isPresent target = true := by
      rcases isRunning_perform hrunning with hrunning | hreapplies
      · exact ih hrunning
      · -- The cast that has applied the effect needed its target to be there.
        obtain ⟨_, after, hcast⟩ := hreapplies.eq
        exact isPresent_of_cast hcast
    refine isPresent_perform hbefore ?_
    -- If the operation had disabled the target, it would have stopped the effect too.
    intro hdisables
    obtain ⟨rfl, after, hafter⟩ := hdisables.eq
    rw [perform_of_setEnabled hafter, isRunning_disabled hafter] at hrunning
    cases hrunning

/-- Every effect expires with its last tick. -/
theorem Reachable.timed {c : Combatant} {f : Effect} (h : e.Reachable)
    (hc : e.combatant? caster = some c) (hf : f ∈ c.effects.values) : f.Timed := by
  refine h.forall_combatant (P := fun c => ∀ f ∈ c.effects.values, f.Timed) ?_ ?_ hc f hf
  · intro c hnew f hf
    rw [hnew.effects] at hf
    cases hf
  · intro e id c op after hbefore hbecomes
    exact hbecomes.timed hbefore

/-- What holds of an effect that is active. -/
structure UnderWay (e : Encounter) (target : CombatantId) (f : Effect) (s : Schedule) : Prop where
  /-- Its target is a target of the encounter, and is present. -/
  present : e.isPresent target = true
  ticks : 0 < f.ticksLeft
  period : Time.zero < f.snapshot.period
  /-- Its next tick lies ahead. -/
  ahead : e.clock < s.nextTick
  /-- It expires with the last of its ticks. -/
  expires : s.expiresAt = s.nextTick + f.snapshot.period.times (f.ticksLeft - 1)

theorem Reachable.underWay {f : Effect} {s : Schedule} (h : e.Reachable)
    (hends : e.settings.duration < Time.never) (hf : e.effect? caster spell target = some f)
    (hs : f.schedule = some s) : e.UnderWay target f s := by
  obtain ⟨c, hc, hmem⟩ := effect?_eq_some.mp hf
  have hvalue : f ∈ c.effects.values := List.mem_map.mpr ⟨_, hmem, rfl⟩
  have hrunning : e.isRunning caster spell target = true := by
    rw [isRunning_eq_any, hf, Option.any_some, Effect.isActive, hs]
    rfl
  obtain ⟨hperiod, hexpires⟩ := h.timed hc hvalue s hs
  have hticks : f.ticksLeft = s.later + 1 := by rw [Effect.ticksLeft, hs]
  exact
    { present := h.isPresent hrunning
      ticks := Effect.ticksLeft_pos hs
      period := Time.nanos_pos hperiod
      ahead := by
        rcases h.ticksAhead c (List.mem_of_getElem? hc) f hvalue s hs with hahead | hnever
        · exact hahead
        · -- The clock never gets to the last instant.
          have hlt := h.clock_lt_never hends
          rw [hnever] at hlt
          exact absurd hlt (Nat.lt_irrefl _)
      expires := by rw [hexpires, hticks, Nat.add_sub_cancel] }

/-! ### What conditions ask for -/

/-- An effect is active if and only if there is time left on it. -/
theorem Reachable.isActive_iff_remaining (h : e.Reachable)
    (hends : e.settings.duration < Time.never) (r : EffectRef) :
    r.isActive e = true ↔ Time.zero < r.remaining e := by
  unfold EffectRef.isActive EffectRef.remaining
  cases hf : r.effect? e with
  | none => exact iff_of_false Bool.false_ne_true (Nat.lt_irrefl 0)
  | some f =>
    obtain ⟨id, _, hf⟩ := Option.bind_eq_some_iff.mp hf
    refine Effect.isActive_iff_remaining ?_
    intro s hs
    have hunder := h.underWay hends hf hs
    have hahead := hunder.ahead
    have hlast := s.nextTick.nanos_le
    rw [hunder.expires]
    simp only [Time.lt_def, Time.nanos_add, Time.nanos_times] at *
    omega

/-- The least time left is none as soon as one of the effects is not active. -/
theorem Reachable.forall_isActive_iff (h : e.Reachable)
    (hends : e.settings.duration < Time.never) (refs : List EffectRef) {best : Time}
    (hbest : Time.zero < best) :
    refs.all (·.isActive e) = true ↔ Time.zero < Spread.leastRemaining e refs best := by
  induction refs generalizing best with
  | nil => exact iff_of_true rfl hbest
  | cons r rest ih =>
    rw [List.all_cons, Spread.leastRemaining]
    cases hactive : r.isActive e with
    | false =>
      rw [Bool.false_and, if_neg Bool.false_ne_true]
      exact iff_of_false Bool.false_ne_true (Nat.lt_irrefl 0)
    | true =>
      have hleft := (h.isActive_iff_remaining hends r).mp hactive
      rw [Bool.true_and, if_pos rfl]
      apply ih
      rw [Time.lt_def, Time.nanos_min]
      rw [Time.lt_def] at hbest hleft
      omega

/-! ### Targets that leave -/

/-- An effect that is not active turns active by an application of it. -/
theorem exists_application {ops : List Op} (hno : e.isRunning caster spell target = false)
    (hyes : (e.run ops).isRunning caster spell target = true) :
    ∃ before rest, ops = before ++ .cast caster spell target :: rest ∧
      (e.run before).Reapplies caster spell target (.cast caster spell target) := by
  obtain ⟨before, op, rest, rfl, hbefore, hafter⟩ :=
    exists_turn (P := (·.isRunning caster spell target)) hno hyes
  rcases isRunning_perform hafter with hrunning | hreapplies
  · rw [hbefore] at hrunning
    cases hrunning
  · obtain ⟨rfl, _⟩ := hreapplies.eq
    exact ⟨before, rest, rfl, hreapplies⟩

/-- Somebody who is not present turns so by being enabled. -/
theorem exists_enabling {c : Combatant} {ops : List Op} (hc : e.combatant? target = some c)
    (hno : e.isPresent target = false) (hyes : (e.run ops).isPresent target = true) :
    ∃ before rest, ops = before ++ .setEnabled target true :: rest := by
  obtain ⟨before, op, rest, rfl, hbefore, hafter⟩ :=
    exists_turn (P := (·.isPresent target)) hno hyes
  obtain ⟨c', hc'⟩ := combatant?_run hc before
  obtain rfl := eq_enable_of_isPresent hc' hbefore hafter
  exact ⟨before, rest, rfl⟩

/-- Some effect on a target that has left is active again only after the target was enabled,
    and the spell was then cast on it anew. -/
theorem exists_enabling_and_application {after : Encounter} {ops : List Op}
    (h : e.setEnabled? target false = some after)
    (hyes : (after.run ops).isRunning caster spell target = true) :
    ∃ before between rest,
      ops = before ++ .setEnabled target true :: between ++ .cast caster spell target :: rest ∧
      (after.run (before ++ .setEnabled target true :: between)).Reapplies caster spell target
        (.cast caster spell target) := by
  obtain ⟨c, hc, _⟩ := Option.bind_eq_some_iff.mp h
  obtain ⟨upTo, rest, rfl, hreapplies⟩ := exists_application (isRunning_disabled h) hyes
  -- The cast needed the target to be present, which it was not at first.
  obtain ⟨_, next, hcast⟩ := hreapplies.eq
  obtain ⟨before, between, rfl⟩ := exists_enabling (combatant?_disabled h hc)
    (isPresent_disabled h) (isPresent_of_cast hcast)
  exact ⟨before, between, rest, rfl, hreapplies⟩

/-! ### Activity -/

/-- In a reachable encounter whose end lies before the last instant, every active effect is under
    way, conditions on activity and on the time left agree, and a target that leaves takes the
    effects on it along for as long as it has not been enabled, and the spell cast on it, anew. -/
theorem Reachable.activity_agrees (h : e.Reachable) (hends : e.settings.duration < Time.never) :
    (∀ caster spell target f s, e.effect? caster spell target = some f → f.schedule = some s →
      e.UnderWay target f s) ∧
    (∀ r : EffectRef, (Test.effectActive r).eval e = true ↔
      Time.zero < (TimeTerm.effectRemaining r).eval e) ∧
    (∀ s : Spread, (Test.activeOnAll s).eval e = true ↔
      Time.zero < (TimeTerm.lowestRemaining s).eval e) ∧
    ∀ target after, e.setEnabled? target false = some after →
      (∀ caster spell, after.isRunning caster spell target = false) ∧
      ∀ ops caster spell, (after.run ops).isRunning caster spell target = true →
        ∃ before between rest,
          ops = before ++ .setEnabled target true :: between ++
            .cast caster spell target :: rest ∧
          (after.run (before ++ .setEnabled target true :: between)).Reapplies caster spell target
            (.cast caster spell target) := by
  refine ⟨?_, ?_, ?_, ?_⟩
  · intro caster spell target f s hf hs
    exact h.underWay hends hf hs
  · intro r
    exact h.isActive_iff_remaining hends r
  · intro s
    exact h.forall_isActive_iff hends _ (by decide)
  · intro target after hset
    refine ⟨?_, ?_⟩
    · intro caster spell
      exact isRunning_disabled hset
    · intro ops caster spell hyes
      exact exists_enabling_and_application hset hyes

/-- There is time left on the plague while it runs, and it stops when the dummy leaves. -/
theorem activity_agrees_plague :
    let e := duel.perform (.cast ⟨1⟩ plague.id ⟨0⟩)
    let r : EffectRef := ⟨⟨1⟩, plague.id, .fixed ⟨0⟩⟩
    e.Reachable ∧ e.settings.duration < Time.never ∧
      (Test.effectActive r).eval e = true ∧ Time.zero < (TimeTerm.effectRemaining r).eval e ∧
      ∃ after, e.setEnabled? ⟨0⟩ false = some after ∧
        after.isRunning ⟨1⟩ plague.id ⟨0⟩ = false := by
  intro e r
  have hreachable : e.Reachable := ((Reachable.new {} 1).run _).perform _
  have hends : e.settings.duration < Time.never := by decide
  have hactive : (Test.effectActive r).eval e = true := by decide
  have hsome : (e.setEnabled? ⟨0⟩ false).isSome = true := by decide
  obtain ⟨_, hremaining, _, hleaves⟩ := hreachable.activity_agrees hends
  obtain ⟨after, hafter⟩ := Option.isSome_iff_exists.mp hsome
  obtain ⟨hstopped, _⟩ := hleaves _ _ hafter
  exact ⟨hreachable, hends, hactive, (hremaining r).mp hactive, after, hafter, hstopped _ _⟩

end Encounter

end ActionPriority
