import ActionPriority.Encounter.Basic

/-! # The Clock

    Between casts only time changes an encounter: effects tick, cooldowns end, and runes
    come back.

    * `Encounter.nextEvent` is the first instant after now at which one of them happens,
      or the end of the encounter if that comes first.
    * `Encounter.advanceTo` moves the clock, firing every tick that is due on the way:
      the earliest first, and at one instant in the order of casters, spells and targets.

    Advancing ends because every tick that fires is one fewer to come
    (`ticksLeft_fire_lt`).
-/

namespace ActionPriority

namespace Encounter

/-! ### The next event -/

/-- The instants at which something about a combatant changes by itself. -/
def eventsOf (c : Combatant) : List Time :=
  c.globalReadyAt :: c.spells.map (fun s => c.cooldownReadyAt s.id) ++
    (c.runes.map (·.slots.toList.map RuneSlot.readyAt)).getD [] ++
    c.effects.values.filterMap Effect.nextTick?

/-- The earliest of the instants that lie after `now`, and `last` if none is before it. -/
def earliestAfter (now last : Time) (instants : List Time) : Time :=
  instants.foldl (fun next t => if now < t ∧ t < next then t else next) last

/-- The first instant after now at which something changes by itself, at most the end. -/
def nextEvent (e : Encounter) : Time :=
  earliestAfter e.clock e.endTime (e.combatants.flatMap eventsOf)

/-! ### Due ticks -/

/-- The next tick of an effect: whose effect it is, which one, and when it is due. -/
structure PendingTick where
  /-- The place of the caster among the combatants. -/
  owner : Nat
  key : EffectKey
  effect : Effect
  due : Time

/-- The next ticks of the effects of one combatant. -/
def pendingOf (owner : Nat) (c : Combatant) : List PendingTick :=
  c.effects.entries.filterMap fun (key, effect) =>
    effect.schedule.map fun s => ⟨owner, key, effect, s.nextTick⟩

/-- The next tick of every effect, in the order of casters, spells and targets. -/
def pending (e : Encounter) : List PendingTick :=
  e.combatants.zipIdx.flatMap fun (c, owner) => pendingOf owner c

/-- The first of the ticks that are due earliest. -/
def earliest : List PendingTick → Option PendingTick
  | [] => none
  | p :: rest =>
    match earliest rest with
    | none => some p
    | some q => if q.due < p.due then some q else some p

/-- The tick that fires next, if one is due by `limit`. -/
def nextDue? (e : Encounter) (limit : Time) : Option PendingTick :=
  earliest (e.pending.filter fun p => p.due ≤ limit)

/-- The encounter after a tick has fired: the clock has reached it, the effect has used it
    up, and its hit is rolled by the snapshot of the effect. -/
def fire (e : Encounter) (p : PendingTick) : Encounter :=
  let (hit, dice) := Damage.roll e.dice p.effect.snapshot.tickDamage p.effect.snapshot.critChance
  { e with
    clock := max e.clock p.due
    combatants := e.combatants.modify p.owner (·.adjustEffect p.key Effect.tick)
    damage := e.damage + hit
    dice }

/-! ### Fewer ticks to come -/

/-- The number of ticks that all effects have before them. -/
def ticksLeft (e : Encounter) : Nat := tally Combatant.ticksLeft e.combatants

theorem earliest_mem {l : List PendingTick} {p : PendingTick} (h : earliest l = some p) :
    p ∈ l := by
  induction l generalizing p with
  | nil => cases h
  | cons a rest ih =>
    simp only [earliest] at h
    split at h
    · cases h
      exact List.mem_cons_self
    · rename_i q hq
      split at h
      · cases h
        exact List.mem_cons_of_mem _ (ih hq)
      · cases h
        exact List.mem_cons_self

/-- A pending tick is the next tick of an effect of its owner. -/
theorem mem_pending {e : Encounter} {p : PendingTick} (h : p ∈ e.pending) :
    ∃ c s, e.combatants[p.owner]? = some c ∧ (p.key, p.effect) ∈ c.effects.entries ∧
      p.effect.schedule = some s ∧ p.due = s.nextTick := by
  obtain ⟨⟨c, owner⟩, hc, hp⟩ := List.mem_flatMap.mp h
  obtain ⟨⟨key, effect⟩, hk, hs⟩ := List.mem_filterMap.mp hp
  obtain ⟨s, hsched, rfl⟩ := Option.map_eq_some_iff.mp hs
  exact ⟨c, s, List.mem_zipIdx_iff_getElem?.mp hc, hk, hsched, rfl⟩

/-- Using up a tick of one of a combatant's effects leaves it fewer ticks to come. -/
theorem ticksLeft_adjustEffect_lt {c : Combatant} {key : EffectKey} {f : Effect} {s : Schedule}
    (hk : (key, f) ∈ c.effects.entries) (hs : f.schedule = some s) :
    (c.adjustEffect key Effect.tick).ticksLeft < c.ticksLeft := by
  simp only [Combatant.ticksLeft, Combatant.adjustEffect, Table.values, Table.mapValues,
    tally_map]
  apply tally_lt
  · intro x _
    split
    · rw [Effect.ticksLeft_tick]
      omega
    · omega
  · refine ⟨(key, f), hk, ?_⟩
    have := Effect.ticksLeft_pos hs
    simp only [if_true, Effect.ticksLeft_tick]
    omega

/-- Every tick that fires is one fewer to come. -/
theorem ticksLeft_fire_lt {e : Encounter} {p : PendingTick} (h : p ∈ e.pending) :
    (e.fire p).ticksLeft < e.ticksLeft := by
  obtain ⟨c, s, hc, hk, hs, _⟩ := mem_pending h
  exact tally_modify_lt hc (ticksLeft_adjustEffect_lt hk hs)

theorem nextDue?_mem {e : Encounter} {limit : Time} {p : PendingTick}
    (h : e.nextDue? limit = some p) : p ∈ e.pending :=
  (List.mem_filter.mp (earliest_mem h)).1

/-! ### Advancing -/

/-- Fires every tick that is due by `limit`, one after another. -/
def fireUntil (e : Encounter) (limit : Time) : Encounter :=
  match _h : e.nextDue? limit with
  | none => e
  | some p => (e.fire p).fireUntil limit
termination_by e.ticksLeft
decreasing_by exact ticksLeft_fire_lt (nextDue?_mem _h)

/-- Moves the clock forward to `t`, or to the end of the encounter if that comes first,
    and fires the ticks that are due by then. -/
def advanceTo (e : Encounter) (t : Time) : Encounter :=
  let limit := min t e.endTime
  let e := e.fireUntil limit
  { e with clock := max e.clock limit }

/-- Moves the clock forward by a length of time. -/
def advanceBy (e : Encounter) (length : Time) : Encounter := e.advanceTo (e.clock + length)

/-! ### Progress -/

theorem settings_fireUntil (e : Encounter) (limit : Time) :
    (e.fireUntil limit).settings = e.settings := by
  fun_induction fireUntil e limit with
  | case1 => rfl
  | case2 e p _ ih => exact ih

theorem settings_advanceTo (e : Encounter) (t : Time) : (e.advanceTo t).settings = e.settings :=
  settings_fireUntil ..

/-- Advancing reaches the instant, as far as the encounter goes. -/
theorem le_clock_advanceTo (e : Encounter) (t : Time) : min t e.endTime ≤ (e.advanceTo t).clock := by
  simp only [advanceTo, Time.le_def, Time.nanos_max]
  omega

/-- The earliest of some instants lies after `now` if `last` does. -/
theorem lt_earliestAfter {now last : Time} (h : now < last) (instants : List Time) :
    now < earliestAfter now last instants := by
  unfold earliestAfter
  induction instants generalizing last with
  | nil => exact h
  | cons t rest ih =>
    simp only [List.foldl_cons]
    split
    · rename_i ht
      exact ih ht.1
    · exact ih h

/-- Before the end, the next event lies ahead. -/
theorem lt_nextEvent {e : Encounter} (h : e.clock < e.endTime) : e.clock < e.nextEvent :=
  lt_earliestAfter h _

end Encounter

end ActionPriority
