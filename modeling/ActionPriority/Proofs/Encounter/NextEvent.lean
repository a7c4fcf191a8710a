import ActionPriority.Proofs.Encounter.Reachable

/-! # Before the Next Event

    Up to the next event nothing happens by itself.  `QuietUntil` says that an instant lies
    there, and this module draws the conclusions:

    * no tick fires, so that advancing to the instant moves the clock and changes nothing
      else (`QuietUntil.advanceTo`),
    * each rune slot is ready if and only if it was, so all counts of runes are the same and
      the same costs can be paid,
    * the same casts succeed (`QuietUntil.checkCast_iff`).

    All of them rest on one fact: an instant at which something is ready has passed by then if
    and only if it has passed by now (`QuietUntil.le_iff`).
-/

namespace ActionPriority

/-! ### Rune bars on which nothing comes back -/

/-- The same runes are ready at both instants. -/
def RuneBar.SameReady (bar : RuneBar) (now u : Time) : Prop :=
  ∀ s ∈ bar.slots, s.isReady u = s.isReady now

namespace RuneBar.SameReady

variable {bar : RuneBar} {now u : Time}

theorem natural_eq (h : bar.SameReady now u) (rune : BaseRune) :
    bar.natural rune u = bar.natural rune now := by
  refine Vector.countP_congr fun s hs => ?_
  rw [isNatural, isNatural, h s hs]

theorem deaths_eq (h : bar.SameReady now u) : bar.deaths u = bar.deaths now := by
  refine Vector.countP_congr fun s hs => ?_
  rw [isReadyDeath, isReadyDeath, h s hs]

theorem naturalOf_eq (h : bar.SameReady now u) (type : RuneType) :
    bar.naturalOf type u = bar.naturalOf type now := by
  cases type with
  | base rune => exact h.natural_eq rune
  | death => rfl

theorem ready_eq (h : bar.SameReady now u) (type : RuneType) :
    bar.ready type u = bar.ready type now := by
  rw [ready, ready, h.naturalOf_eq, h.deaths_eq]

theorem afford_eq (h : bar.SameReady now u) (cost : RuneCost) :
    bar.afford cost u = bar.afford cost now := by
  have hfrom : ∀ bases deaths,
      bar.affordFrom cost u bases deaths = bar.affordFrom cost now bases deaths := by
    intro bases
    induction bases with
    | nil => exact fun _ => rfl
    | cons rune rest ih =>
      intro deaths
      simp only [affordFrom, h.natural_eq, ih]
  rw [afford, afford, h.deaths_eq, hfrom]

theorem isActive_eq (h : bar.SameReady now u) (i : Nat) :
    bar.isActive i u = bar.isActive i now := by
  unfold isActive slot?
  cases hi : bar.slots[i]? with
  | none => rfl
  | some s => exact h s (Vector.mem_of_getElem? hi)

end RuneBar.SameReady

namespace Encounter

/-! ### The first of several instants -/

theorem earliestAfter_le_last (now last : Time) (instants : List Time) :
    earliestAfter now last instants ≤ last := by
  unfold earliestAfter
  induction instants generalizing last with
  | nil => exact Nat.le_refl _
  | cons t rest ih =>
    rw [List.foldl_cons]
    split
    · next ht => exact Nat.le_trans (ih t) (Nat.le_of_lt ht.2)
    · exact ih last

theorem earliestAfter_le {now last t : Time} {instants : List Time} (hmem : t ∈ instants)
    (ht : now < t) : earliestAfter now last instants ≤ t := by
  unfold earliestAfter
  induction instants generalizing last with
  | nil => cases hmem
  | cons t' rest ih =>
    rw [List.foldl_cons]
    rcases List.mem_cons.mp hmem with rfl | hmem
    · split
      · exact earliestAfter_le_last now t rest
      · next hlater =>
        -- The instant is not the first one, so what was found before it is no later.
        have hle : last ≤ t := by
          have := fun hlt => hlater ⟨ht, hlt⟩
          simp only [Time.lt_def, Time.le_def] at *
          omega
        exact Nat.le_trans (earliestAfter_le_last now last rest) hle
    · exact ih hmem

/-- The first instant after one time is the first after another if the same instants lie after
    both. -/
theorem earliestAfter_congr {now u last : Time} {instants : List Time}
    (h : ∀ t ∈ instants, u < t ↔ now < t) :
    earliestAfter u last instants = earliestAfter now last instants := by
  unfold earliestAfter
  induction instants generalizing last with
  | nil => rfl
  | cons t rest ih =>
    have hrest := fun t' ht' => h t' (List.mem_cons_of_mem t ht')
    simp only [List.foldl_cons, h t List.mem_cons_self]
    exact ih hrest

theorem nextEvent_le_endTime (e : Encounter) : e.nextEvent ≤ e.endTime :=
  earliestAfter_le_last ..

/-- What happens to somebody after now is the next event, or comes after it. -/
theorem nextEvent_le {e : Encounter} {c : Combatant} {t : Time} (hc : c ∈ e.combatants)
    (ht : t ∈ eventsOf c) (hlt : e.clock < t) : e.nextEvent ≤ t :=
  earliestAfter_le (List.mem_flatMap.mpr ⟨c, hc, ht⟩) hlt

/-! ### What counts as an event -/

theorem globalReadyAt_mem_eventsOf (c : Combatant) : c.globalReadyAt ∈ eventsOf c :=
  List.mem_append_left _ (List.mem_append_left _ List.mem_cons_self)

theorem cooldownReadyAt_mem_eventsOf {c : Combatant} {id : SpellId} {definition : Spell}
    (h : c.spell? id = some definition) : c.cooldownReadyAt id ∈ eventsOf c := by
  refine List.mem_append_left _ (List.mem_append_left _ (List.mem_cons_of_mem _ ?_))
  refine List.mem_map.mpr ⟨definition, List.mem_of_find?_eq_some h, ?_⟩
  rw [Combatant.spell?_id h]

theorem readyAt_mem_eventsOf {c : Combatant} {bar : RuneBar} {s : RuneSlot}
    (hbar : c.runes = some bar) (hs : s ∈ bar.slots) : s.readyAt ∈ eventsOf c := by
  refine List.mem_append_left _ (List.mem_append_right _ ?_)
  rw [hbar]
  exact List.mem_map.mpr ⟨s, Vector.mem_toList_iff.mpr hs, rfl⟩

theorem nextTick_mem_eventsOf {c : Combatant} {f : Effect} {s : Schedule}
    (hf : f ∈ c.effects.values) (hs : f.schedule = some s) : s.nextTick ∈ eventsOf c := by
  refine List.mem_append_right _ (List.mem_filterMap.mpr ⟨f, hf, ?_⟩)
  rw [Effect.nextTick?, hs]
  rfl

/-! ### Quiet times -/

/-- The instant `u` is not in the past, and nothing happens by itself up to then. -/
structure QuietUntil (e : Encounter) (u : Time) : Prop where
  now_le : e.clock ≤ u
  lt_next : u < e.nextEvent

namespace QuietUntil

variable {e : Encounter} {u : Time}

/-- Nothing becomes ready in a quiet time. -/
theorem le_iff (h : e.QuietUntil u) {c : Combatant} {t : Time} (hc : c ∈ e.combatants)
    (ht : t ∈ eventsOf c) : t ≤ u ↔ t ≤ e.clock := by
  have hnow := h.now_le
  have hnext := h.lt_next
  by_cases hlt : e.clock < t
  · have hevent := nextEvent_le hc ht hlt
    simp only [Time.le_def, Time.lt_def] at *
    omega
  · simp only [Time.le_def, Time.lt_def] at *
    omega

theorem lt_endTime (h : e.QuietUntil u) : u < e.endTime :=
  Nat.lt_of_lt_of_le h.lt_next e.nextEvent_le_endTime

/-- What is ahead at the end of a quiet time was ahead before. -/
theorem lt_iff (h : e.QuietUntil u) {c : Combatant} {t : Time} (hc : c ∈ e.combatants)
    (ht : t ∈ eventsOf c) : u < t ↔ e.clock < t := by
  have hevent := h.le_iff hc ht
  simp only [Time.le_def, Time.lt_def] at *
  omega

/-- In a quiet time the next event does not change. -/
theorem nextEvent_eq (h : e.QuietUntil u) : nextEvent { e with clock := u } = e.nextEvent := by
  refine earliestAfter_congr fun t ht => ?_
  obtain ⟨c, hc, ht⟩ := List.mem_flatMap.mp ht
  exact h.lt_iff hc ht

/-- The encounter is not over in a quiet time. -/
theorem clock_lt_endTime (h : e.QuietUntil u) : e.clock < e.endTime :=
  Nat.lt_of_le_of_lt h.now_le h.lt_endTime

theorem min_endTime (h : e.QuietUntil u) : min u e.endTime = u := by
  have hend := h.lt_endTime
  apply Time.ext
  rw [Time.lt_def] at hend
  rw [Time.nanos_min]
  omega

/-- In a quiet time no tick is due. -/
theorem nextDue?_eq_none (h : e.QuietUntil u) (hticks : e.TicksAhead) : e.nextDue? u = none := by
  rw [Encounter.nextDue?_eq_none]
  intro c hc f hf s hs
  have hevent := h.le_iff hc (nextTick_mem_eventsOf hf hs)
  have hlast := e.endTime.nanos_le
  rcases hticks c hc f hf s hs with hahead | hnever
  · -- A tick ahead of the clock is an event, and no event has come.
    simp only [Time.le_def, Time.lt_def] at *
    omega
  · -- The clock stands at the last instant, where the encounter would be over.
    have hclock := h.clock_lt_endTime
    rw [hnever, Time.lt_def, Time.nanos_never] at hclock
    omega

/-- In a quiet time no tick fires. -/
theorem advanceTo (h : e.QuietUntil u) (hticks : e.TicksAhead) :
    e.advanceTo u = { e with clock := u } := by
  have hnone : e.nextDue? (min u e.endTime) = none := by
    rw [h.min_endTime]
    exact h.nextDue?_eq_none hticks
  have hmax : max e.clock u = u := by
    have hnow := h.now_le
    apply Time.ext
    rw [Time.le_def] at hnow
    rw [Time.nanos_max]
    omega
  rw [advanceTo_of_nextDue? hnone, h.min_endTime, hmax]

theorem sameReady (h : e.QuietUntil u) {c : Combatant} {bar : RuneBar} (hc : c ∈ e.combatants)
    (hbar : c.runes = some bar) : bar.SameReady e.clock u := by
  intro s hs
  have hevent := h.le_iff hc (readyAt_mem_eventsOf hbar hs)
  simp only [RuneSlot.isReady, hevent]

theorem castable_iff (h : e.QuietUntil u) {spell : SpellId} {c : Combatant} {definition : Spell}
    {aimed : Combatant} (hc : c ∈ e.combatants) :
    Castable { e with clock := u } spell c definition aimed ↔
      e.Castable spell c definition aimed := by
  have hglobal := h.le_iff hc (globalReadyAt_mem_eventsOf c)
  have hrunes : (∃ bar, c.runes = some bar ∧ bar.afford definition.cost u = .ok ()) ↔
      ∃ bar, c.runes = some bar ∧ bar.afford definition.cost e.clock = .ok () := by
    constructor
    · rintro ⟨bar, hbar, hafford⟩
      rw [(h.sameReady hc hbar).afford_eq] at hafford
      exact ⟨bar, hbar, hafford⟩
    · rintro ⟨bar, hbar, hafford⟩
      rw [← (h.sameReady hc hbar).afford_eq] at hafford
      exact ⟨bar, hbar, hafford⟩
  constructor
  · intro hcast
    have hcooldown := h.le_iff hc (cooldownReadyAt_mem_eventsOf hcast.known)
    exact ⟨hcast.known, hcast.targetable, hcooldown.mp hcast.cooldown,
      fun hon => hglobal.mp (hcast.globalCooldown hon), hcast.runes.imp_right hrunes.mp⟩
  · intro hcast
    have hcooldown := h.le_iff hc (cooldownReadyAt_mem_eventsOf hcast.known)
    exact ⟨hcast.known, hcast.targetable, hcooldown.mpr hcast.cooldown,
      fun hon => hglobal.mpr (hcast.globalCooldown hon), hcast.runes.imp_right hrunes.mpr⟩

/-- In a quiet time a cast succeeds if and only if it would succeed now. -/
theorem checkCast_iff (h : e.QuietUntil u) (caster : CombatantId) (spell : SpellId)
    (target : CombatantId) :
    checkCast { e with clock := u } caster spell target = .ok () ↔
      e.checkCast caster spell target = .ok () := by
  rw [checkCast_eq_ok_iff, checkCast_eq_ok_iff]
  constructor
  · rintro ⟨c, definition, aimed, hc, haimed, hcast⟩
    exact ⟨c, definition, aimed, hc, haimed, (h.castable_iff (List.mem_of_getElem? hc)).mp hcast⟩
  · rintro ⟨c, definition, aimed, hc, haimed, hcast⟩
    exact ⟨c, definition, aimed, hc, haimed, (h.castable_iff (List.mem_of_getElem? hc)).mpr hcast⟩

theorem isOk_checkCast (h : e.QuietUntil u) (caster : CombatantId) (spell : SpellId)
    (target : CombatantId) :
    (checkCast { e with clock := u } caster spell target).isOk =
      (e.checkCast caster spell target).isOk := by
  rw [Bool.eq_iff_iff, isOk_checkCast_iff, isOk_checkCast_iff]
  exact h.checkCast_iff caster spell target

end QuietUntil

end Encounter

end ActionPriority
