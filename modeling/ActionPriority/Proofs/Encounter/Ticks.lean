import ActionPriority.Proofs.Effects.Schedule
import ActionPriority.Proofs.Encounter.Advancing
import ActionPriority.Proofs.Lists

/-! # Ticks

    Advancing is a loop.  Each round looks for the tick that is due first, over the effects of
    everybody, and fires it, which moves the effect on to its next tick or ends it.

    * `Encounter.scheduled` are the ticks that all effects have before them, and
      `Encounter.firings` those that fire, one after another.
    * One round takes the tick that fires out of the schedule and leaves all others in it
      (`scheduled_fire_perm`), and nothing in the schedule comes before that tick
      (`before_of_nextDue?`).  By induction over the rounds, what fires is exactly what is
      scheduled by the limit, in order.
    * Each effect moves on by itself, whatever else fires in between (`combatants_fireUntil`),
      and the hits are added up in the order of the ticks (`rolls_fireUntil`).
-/

namespace ActionPriority

/-! ### Effects in their table -/

section Table

variable {κ α : Type} [Ord κ] [Std.TransOrd κ]

theorem Table.nodup_entries (t : Table κ α) : t.entries.Nodup := by
  refine t.sorted.imp ?_
  intro a b hlt he
  rw [he, Std.ReflOrd.compare_self] at hlt
  cases hlt

theorem Table.eq_of_mem {t : Table κ α} {k : κ} {v v' : α} (h : (k, v) ∈ t.entries)
    (h' : (k, v') ∈ t.entries) : v = v' := by
  have hv := find?_of_mem h
  rw [find?_of_mem h'] at hv
  exact (Option.some.inj hv).symm

end Table

/-- The combatant once each of its effects has ticked at all instants up to `limit`. -/
def Combatant.through (limit : Time) (c : Combatant) : Combatant :=
  { c with effects := c.effects.mapValues fun _ f => f.through limit }

namespace Encounter

/-! ### Ticks -/

/-- One tick of an effect. -/
structure Tick where
  /-- The place of the caster among the combatants. -/
  owner : Nat
  key : EffectKey
  /-- The snapshot that its hit is rolled by. -/
  snapshot : Snapshot
  due : Time

namespace Tick

/-- The order in which ticks fire: by time, and at one instant by caster, spell and target. -/
def Before (a b : Tick) : Prop :=
  a.due < b.due ∨ a.due = b.due ∧
    (a.owner < b.owner ∨ a.owner = b.owner ∧ (compare a.key b.key).isLE)

/-- The damage and the dice after the hit of a tick. -/
def roll (sofar : Float × Dice) (t : Tick) : Float × Dice :=
  let (hit, dice) := Damage.roll sofar.2 t.snapshot.tickDamage t.snapshot.critChance
  (sofar.1 + hit, dice)

end Tick

/-- The tick as it fires. -/
def PendingTick.tick (p : PendingTick) : Tick := ⟨p.owner, p.key, p.effect.snapshot, p.due⟩

/-- The ticks that the effects of one combatant have before them. -/
def scheduledOf (owner : Nat) (c : Combatant) : List Tick :=
  c.effects.entries.flatMap fun x => x.2.instants.map fun due => ⟨owner, x.1, x.2.snapshot, due⟩

/-- The ticks that all effects have before them. -/
def scheduled (e : Encounter) : List Tick :=
  e.combatants.zipIdx.flatMap fun x => scheduledOf x.2 x.1

/-- The ticks that fire until `limit`, in the order in which they fire. -/
def firings (e : Encounter) (limit : Time) : List Tick :=
  match _h : e.nextDue? limit with
  | none => []
  | some p => p.tick :: (e.fire p).firings limit
termination_by e.ticksLeft
decreasing_by exact ticksLeft_fire_lt (nextDue?_mem _h)

theorem firings_of_none {e : Encounter} {limit : Time} (h : e.nextDue? limit = none) :
    e.firings limit = [] := by
  rw [firings]
  split
  · rfl
  · next p hp =>
    rw [h] at hp
    cases hp

theorem firings_of_some {e : Encounter} {limit : Time} {p : PendingTick}
    (h : e.nextDue? limit = some p) : e.firings limit = p.tick :: (e.fire p).firings limit := by
  rw [firings]
  split
  · next hp =>
    rw [h] at hp
    cases hp
  · next q hq =>
    rw [h] at hq
    cases hq
    rfl

/-! ### One round takes one tick off the schedule -/

theorem scheduledOf_adjustEffect_perm {owner : Nat} {c : Combatant} {key : EffectKey}
    {f : Effect} {s : Schedule} (hk : (key, f) ∈ c.effects.entries) (hs : f.schedule = some s) :
    (scheduledOf owner c).Perm
      (⟨owner, key, f.snapshot, s.nextTick⟩ ::
        scheduledOf owner (c.adjustEffect key Effect.tick)) := by
  refine perm_flatMap_map (h := fun x => (x.1, if x.1 = key then x.2.tick else x.2))
    c.effects.nodup_entries hk ?_ ?_
  · -- A table has one effect for each key, so the others keep theirs.
    rintro ⟨key', f'⟩ hx hne
    have hkey : key' ≠ key := by
      rintro rfl
      exact hne (by rw [Table.eq_of_mem hx hk])
    simp only [hkey, if_false]
  · simp only [if_true, Effect.instants_of_some hs, List.map_cons, Effect.snapshot_tick]
    exact List.Perm.refl _

/-- Firing takes the tick out of the schedule and leaves the rest in it. -/
theorem scheduled_fire_perm {e : Encounter} {p : PendingTick} (h : p ∈ e.pending) :
    e.scheduled.Perm (p.tick :: (e.fire p).scheduled) := by
  obtain ⟨c, s, hc, hk, hs, hdue⟩ := mem_pending h
  refine perm_flatMap_modify (k := 0) hc ?_
  rw [Nat.zero_add, PendingTick.tick, hdue]
  exact scheduledOf_adjustEffect_perm hk hs

/-! ### The tick that is due first -/

/-- Of ticks in order, the earliest comes first among those of its instant. -/
theorem earliest_first {r : PendingTick → PendingTick → Prop} {l : List PendingTick}
    {p q : PendingTick} (hl : l.Pairwise r) (h : earliest l = some p) (hq : q ∈ l) :
    p.due < q.due ∨ p.due = q.due ∧ (p = q ∨ r p q) := by
  induction l generalizing p with
  | nil => cases hq
  | cons a rest ih =>
    obtain ⟨hhead, hrest⟩ := List.pairwise_cons.mp hl
    unfold earliest at h
    split at h
    · next hnone =>
      cases h
      rw [earliest_eq_none.mp hnone] at hq
      cases List.mem_singleton.mp hq
      exact Or.inr ⟨rfl, Or.inl rfl⟩
    · next b hb =>
      split at h
      · next hlt =>
        -- One of the rest is due before the head.
        cases h
        rcases List.mem_cons.mp hq with rfl | hq
        · exact Or.inl hlt
        · exact ih hrest hb hq
      · next hle =>
        obtain rfl : a = p := Option.some.inj h
        rcases List.mem_cons.mp hq with rfl | hq
        · exact Or.inr ⟨rfl, Or.inl rfl⟩
        · by_cases hsame : a.due = q.due
          · exact Or.inr ⟨hsame, Or.inr (hhead q hq)⟩
          · -- The head is due no later than the earliest of the rest.
            left
            have hne : a.due.nanos ≠ q.due.nanos := by
              intro he
              exact hsame (Time.ext he)
            have hbq : b.due.nanos ≤ q.due.nanos := by
              rcases ih hrest hb hq with hlt | ⟨heq, _⟩
              · exact Nat.le_of_lt hlt
              · exact Nat.le_of_eq (congrArg Time.nanos heq)
            simp only [Time.lt_def] at *
            omega

/-- The order of casters, spells and targets. -/
def PendingTick.Precedes (a b : PendingTick) : Prop :=
  a.owner < b.owner ∨ a.owner = b.owner ∧ compare a.key b.key = .lt

theorem pending_pairwise (e : Encounter) : e.pending.Pairwise PendingTick.Precedes := by
  refine List.pairwise_flatMap.mpr ⟨?_, ?_⟩
  · rintro ⟨c, owner⟩ _
    refine List.pairwise_filterMap.mpr (c.effects.sorted.imp ?_)
    rintro ⟨key, f⟩ ⟨key', f'⟩ hlt p hp q hq
    obtain ⟨_, _, rfl⟩ := Option.map_eq_some_iff.mp hp
    obtain ⟨_, _, rfl⟩ := Option.map_eq_some_iff.mp hq
    exact Or.inr ⟨rfl, hlt⟩
  · refine (pairwise_zipIdx e.combatants).imp ?_
    rintro ⟨c, owner⟩ ⟨c', owner'⟩ hlt p hp q hq
    obtain ⟨_, _, hp⟩ := List.mem_filterMap.mp hp
    obtain ⟨_, _, hq⟩ := List.mem_filterMap.mp hq
    obtain ⟨_, _, rfl⟩ := Option.map_eq_some_iff.mp hp
    obtain ⟨_, _, rfl⟩ := Option.map_eq_some_iff.mp hq
    exact Or.inl hlt

/-- Whatever is scheduled, the next tick of the same effect is pending and no later. -/
theorem exists_pending_of_scheduled {e : Encounter} {t : Tick} (h : t ∈ e.scheduled) :
    ∃ q ∈ e.pending, q.owner = t.owner ∧ q.key = t.key ∧ q.due ≤ t.due := by
  obtain ⟨⟨c, owner⟩, hc, ht⟩ := List.mem_flatMap.mp h
  obtain ⟨⟨key, f⟩, hx, ht⟩ := List.mem_flatMap.mp ht
  obtain ⟨due, hdue, rfl⟩ := List.mem_map.mp ht
  cases hs : f.schedule with
  | none =>
    rw [Effect.instants_of_none hs] at hdue
    cases hdue
  | some s =>
    -- The effect that is to tick is active, so it has a next tick.
    refine ⟨⟨owner, key, f, s.nextTick⟩, ?_, rfl, rfl, Effect.nextTick_le hs hdue⟩
    refine List.mem_flatMap.mpr ⟨(c, owner), hc, List.mem_filterMap.mpr ⟨(key, f), hx, ?_⟩⟩
    dsimp only
    rw [hs]
    rfl

/-- Nothing in the schedule comes before the tick that fires. -/
theorem before_of_nextDue? {e : Encounter} {limit : Time} {p : PendingTick} {t : Tick}
    (h : e.nextDue? limit = some p) (ht : t ∈ e.scheduled) : p.tick.Before t := by
  obtain ⟨q, hq, howner, hkey, hdue⟩ := exists_pending_of_scheduled ht
  rcases earliest_first e.pending_pairwise (nextDue?_eq_some.mp h).1 hq with
    hlt | ⟨hsame, hplace⟩
  · exact Or.inl (Nat.lt_of_lt_of_le hlt hdue)
  · rcases Nat.lt_or_eq_of_le hdue with hlt | heq
    · exact Or.inl (Nat.lt_of_le_of_lt (Nat.le_of_eq (congrArg Time.nanos hsame)) hlt)
    · -- At one instant the places of the two effects decide, which may be the same.
      refine Or.inr ⟨hsame.trans (Time.ext heq), ?_⟩
      show p.owner < t.owner ∨ p.owner = t.owner ∧ (compare p.key t.key).isLE
      rw [← howner, ← hkey]
      rcases hplace with rfl | hlt | ⟨hcaster, hlt⟩
      · exact Or.inr ⟨rfl, by rw [Std.ReflOrd.compare_self]; rfl⟩
      · exact Or.inl hlt
      · exact Or.inr ⟨hcaster, by rw [hlt]; rfl⟩

/-! ### All rounds together -/

/-- What fires is what is scheduled by the limit, each tick once. -/
theorem firings_perm (e : Encounter) (limit : Time) :
    (e.firings limit).Perm (e.scheduled.filter (·.due ≤ limit)) := by
  fun_induction firings e limit with
  | case1 e hnone =>
    have hempty : e.scheduled.filter (·.due ≤ limit) = [] := by
      rw [List.filter_eq_nil_iff]
      intro t ht
      obtain ⟨q, hq, _, _, hdue⟩ := exists_pending_of_scheduled ht
      have hlate := List.filter_eq_nil_iff.mp (earliest_eq_none.mp hnone) q hq
      simp only [decide_eq_true_eq, Time.le_def] at *
      omega
    rw [hempty]
  | case2 e p hsome ih =>
    have hdue : decide (p.tick.due ≤ limit) = true := decide_eq_true (nextDue?_le hsome)
    -- The tick leaves the schedule, and by induction the rest of what is due fires after it.
    have hperm := (scheduled_fire_perm (nextDue?_mem hsome)).filter (·.due ≤ limit)
    rw [List.filter_cons, if_pos hdue] at hperm
    exact (ih.cons _).trans hperm.symm

theorem mem_scheduled_of_mem_firings {e : Encounter} {limit : Time} {t : Tick}
    (h : t ∈ e.firings limit) : t ∈ e.scheduled :=
  (List.mem_filter.mp ((e.firings_perm limit).mem_iff.mp h)).1

/-- Ticks fire in order. -/
theorem firings_pairwise (e : Encounter) (limit : Time) :
    (e.firings limit).Pairwise Tick.Before := by
  fun_induction firings e limit with
  | case1 e _ => exact List.Pairwise.nil
  | case2 e p hsome ih =>
    refine List.pairwise_cons.mpr ⟨?_, ih⟩
    intro t ht
    -- Whatever fires later was scheduled before, and so it does not come before this tick.
    have hperm := scheduled_fire_perm (nextDue?_mem hsome)
    have hlater := List.mem_cons_of_mem p.tick (mem_scheduled_of_mem_firings ht)
    exact before_of_nextDue? hsome (hperm.mem_iff.mpr hlater)

/-! ### What an effect, and everybody, comes to -/

/-- A combatant comes to the same if one of its due ticks has fired before. -/
theorem through_adjustEffect {c : Combatant} {key : EffectKey} {f : Effect} {s : Schedule}
    {limit : Time} (hk : (key, f) ∈ c.effects.entries) (hs : f.schedule = some s)
    (hdue : s.nextTick ≤ limit) :
    (c.adjustEffect key Effect.tick).through limit = c.through limit := by
  have heffects : (c.adjustEffect key Effect.tick).effects.mapValues (fun _ f => f.through limit) =
      c.effects.mapValues fun _ f => f.through limit := by
    apply Table.ext
    simp only [Combatant.adjustEffect, Table.mapValues, List.map_map]
    refine List.map_congr_left ?_
    rintro ⟨key', f'⟩ hx
    by_cases hkey : key' = key
    · subst hkey
      obtain rfl := Table.eq_of_mem hx hk
      simp only [Function.comp_apply, if_true, Effect.through_of_nextTick_le hs hdue]
    · simp only [Function.comp_apply, hkey, if_false]
  unfold Combatant.through
  rw [heffects]
  rfl

/-- A combatant none of whose effects is due stays as it is. -/
theorem through_of_later {c : Combatant} {limit : Time}
    (h : ∀ f ∈ c.effects.values, ∀ s ∈ f.schedule, limit < s.nextTick) :
    c.through limit = c := by
  have heffects : c.effects.mapValues (fun _ f => f.through limit) = c.effects := by
    apply Table.ext
    refine map_eq_self ?_
    rintro ⟨key, f⟩ hx
    have hsame := Effect.through_eq_self (h f (List.mem_map.mpr ⟨_, hx, rfl⟩))
    exact congrArg (Prod.mk key) hsame
  unfold Combatant.through
  rw [heffects]

/-- Each effect ticks through the limit by itself, and nothing else about anybody changes. -/
theorem combatants_fireUntil (e : Encounter) (limit : Time) :
    (e.fireUntil limit).combatants = e.combatants.map (·.through limit) := by
  fun_induction fireUntil e limit with
  | case1 e hnone =>
    -- Nothing is due, so everybody stays as they are.
    have hlater := nextDue?_eq_none.mp hnone
    have hsame : e.combatants.map (·.through limit) = e.combatants := by
      apply map_eq_self
      intro c hc
      exact through_of_later (hlater c hc)
    exact hsame.symm
  | case2 e p hsome ih =>
    -- The tick that fires is one of those that its effect comes through anyway.
    rw [ih]
    obtain ⟨c, s, hc, hk, hs, hdue⟩ := mem_pending (nextDue?_mem hsome)
    have hle : s.nextTick ≤ limit := hdue ▸ nextDue?_le hsome
    exact map_modify_of_eq hc (through_adjustEffect hk hs hle)

/-- Every tick that fires adds its hit to the damage, by one draw of the dice. -/
theorem rolls_fireUntil (e : Encounter) (limit : Time) :
    ((e.fireUntil limit).damage, (e.fireUntil limit).dice) =
      (e.firings limit).foldl Tick.roll (e.damage, e.dice) := by
  fun_induction fireUntil e limit with
  | case1 e hnone => rw [firings_of_none hnone, List.foldl_nil]
  | case2 e p hsome ih =>
    rw [ih, firings_of_some hsome, List.foldl_cons]
    rfl

/-- As many draws are taken as there are ticks, all from the same keystream. -/
theorem dice_foldl_roll (log : List Tick) (sofar : Float × Dice) :
    (log.foldl Tick.roll sofar).2 = ⟨sofar.2.key, sofar.2.drawn + log.length⟩ := by
  induction log generalizing sofar with
  | nil => rfl
  | cons t rest ih =>
    rw [List.foldl_cons, ih, List.length_cons]
    simp only [Tick.roll, Damage.roll_dice, Dice.draw_key, Dice.draw_drawn, Dice.mk.injEq,
      true_and]
    omega

theorem roster_fireUntil (e : Encounter) (limit : Time) :
    (e.fireUntil limit).roster = e.roster := by
  fun_induction fireUntil e limit with
  | case1 e _ => rfl
  | case2 e p _ ih => exact ih

theorem casts_fireUntil (e : Encounter) (limit : Time) :
    (e.fireUntil limit).casts = e.casts := by
  fun_induction fireUntil e limit with
  | case1 e _ => rfl
  | case2 e p _ ih => exact ih

end Encounter

end ActionPriority
