import ActionPriority.Encounter.Clock

/-! # Advancing

    Advancing fires the ticks that are due, one after another, until none is left.

    * Nothing is due by an instant if every next tick lies after it (`nextDue?_eq_none`), and
      that is so once the firing has ended (`nextDue?_fireUntil`).
    * The clock ends up where it was asked to go, unless it was there before
      (`clock_advanceTo`).
-/

namespace ActionPriority

namespace Encounter

/-! ### What is due -/

theorem earliest_eq_none {l : List PendingTick} : earliest l = none ↔ l = [] := by
  cases l with
  | nil => exact ⟨fun _ => rfl, fun _ => rfl⟩
  | cons p rest =>
    constructor
    · -- Whatever the rest gives, something is found.
      intro h
      unfold earliest at h
      split at h
      · cases h
      · split at h <;> cases h
    · intro h
      cases h

/-- The next tick of each effect that is under way is among those that are pending. -/
theorem mem_pending_of {e : Encounter} {c : Combatant} {f : Effect} {s : Schedule}
    (hc : c ∈ e.combatants) (hf : f ∈ c.effects.values) (hs : f.schedule = some s) :
    ∃ p ∈ e.pending, p.due = s.nextTick := by
  obtain ⟨owner, howner⟩ := List.mem_iff_getElem?.mp hc
  obtain ⟨⟨key, f'⟩, hx, rfl⟩ := List.mem_map.mp hf
  refine ⟨⟨owner, key, f', s.nextTick⟩, ?_, rfl⟩
  refine List.mem_flatMap.mpr ⟨(c, owner), List.mem_zipIdx_iff_getElem?.mpr howner, ?_⟩
  refine List.mem_filterMap.mpr ⟨(key, f'), hx, ?_⟩
  dsimp only
  rw [hs]
  rfl

/-- Nothing is due by `limit` if every next tick lies after it. -/
theorem nextDue?_eq_none {e : Encounter} {limit : Time} :
    e.nextDue? limit = none ↔
      ∀ c ∈ e.combatants, ∀ f ∈ c.effects.values, ∀ s ∈ f.schedule, limit < s.nextTick := by
  rw [nextDue?, earliest_eq_none, List.filter_eq_nil_iff]
  constructor
  · intro h c hc f hf s hs
    obtain ⟨p, hp, hdue⟩ := mem_pending_of hc hf hs
    have hlate := h p hp
    simp only [decide_eq_true_eq, Time.le_def] at hlate
    rw [Time.lt_def, ← hdue]
    omega
  · intro h p hp
    obtain ⟨c, s, hc, hx, hs, hdue⟩ := mem_pending hp
    have hlate := h c (List.mem_of_getElem? hc) p.effect (List.mem_map.mpr ⟨_, hx, rfl⟩) s hs
    simp only [decide_eq_true_eq, Time.le_def]
    rw [Time.lt_def, ← hdue] at hlate
    omega

theorem earliest_cons_of_none {a : PendingTick} {rest : List PendingTick}
    (h : earliest rest = none) : earliest (a :: rest) = some a := by
  rw [earliest, h]

theorem earliest_cons_of_some {a b : PendingTick} {rest : List PendingTick}
    (h : earliest rest = some b) :
    earliest (a :: rest) = some (if b.due < a.due then b else a) := by
  rw [earliest, h]
  dsimp only
  split <;> rfl

/-- The earliest of the ticks that are due by `limit` is the earliest of all, if it is due. -/
theorem earliest_filter (l : List PendingTick) (limit : Time) :
    earliest (l.filter (·.due ≤ limit)) = (earliest l).filter (·.due ≤ limit) := by
  induction l with
  | nil => rfl
  | cons a rest ih =>
    rw [List.filter_cons]
    cases hrest : earliest rest with
    | none =>
      rw [hrest, Option.filter_none] at ih
      rw [earliest_cons_of_none hrest, Option.filter_some]
      split
      · exact earliest_cons_of_none ih
      · exact ih
    | some b =>
      rw [hrest, Option.filter_some] at ih
      rw [earliest_cons_of_some hrest, Option.filter_some]
      simp only [decide_eq_true_eq, Time.le_def, Time.lt_def] at ih ⊢
      by_cases ha : a.due.nanos ≤ limit.nanos <;> by_cases hb : b.due.nanos ≤ limit.nanos
      · have hfirst : (if b.due.nanos < a.due.nanos then b else a).due.nanos ≤ limit.nanos := by
          split <;> assumption
        rw [if_pos hb] at ih
        rw [if_pos ha, earliest_cons_of_some ih, if_pos hfirst]
        rfl
      · -- The head is due and the rest is not.
        have hlt : ¬ b.due.nanos < a.due.nanos := by omega
        rw [if_neg hb] at ih
        rw [if_pos ha, earliest_cons_of_none ih, if_neg hlt, if_pos ha]
      · -- The rest is due and the head is not.
        have hlt : b.due.nanos < a.due.nanos := by omega
        rw [if_pos hb] at ih
        rw [if_neg ha, ih, if_pos hlt, if_pos hb]
      · rw [if_neg hb] at ih
        rw [if_neg ha, ih, if_neg]
        split <;> assumption

/-- What fires next is the earliest of all pending ticks, if it is due. -/
theorem nextDue?_eq_some {e : Encounter} {limit : Time} {p : PendingTick} :
    e.nextDue? limit = some p ↔ earliest e.pending = some p ∧ p.due ≤ limit := by
  rw [nextDue?, earliest_filter, Option.filter_eq_some_iff, decide_eq_true_eq]

theorem nextDue?_le {e : Encounter} {limit : Time} {p : PendingTick}
    (h : e.nextDue? limit = some p) : p.due ≤ limit := (nextDue?_eq_some.mp h).2

/-! ### Firing what is due -/

theorem fireUntil_of_none {e : Encounter} {limit : Time} (h : e.nextDue? limit = none) :
    e.fireUntil limit = e := by
  rw [fireUntil]
  split
  · rfl
  · next p hp =>
    rw [h] at hp
    cases hp

theorem fireUntil_of_some {e : Encounter} {limit : Time} {p : PendingTick}
    (h : e.nextDue? limit = some p) : e.fireUntil limit = (e.fire p).fireUntil limit := by
  rw [fireUntil]
  split
  · next hp =>
    rw [h] at hp
    cases hp
  · next q hq =>
    rw [h] at hq
    cases hq
    rfl

/-- When the firing ends nothing is due any more. -/
theorem nextDue?_fireUntil (e : Encounter) (limit : Time) :
    (e.fireUntil limit).nextDue? limit = none := by
  fun_induction fireUntil e limit with
  | case1 e h => exact h
  | case2 e p _ ih => exact ih

/-- Ticks that are due by `limit` take the clock no further than that. -/
theorem clock_fireUntil_le (e : Encounter) (limit : Time) :
    (e.fireUntil limit).clock.nanos ≤ max e.clock.nanos limit.nanos := by
  fun_induction fireUntil e limit with
  | case1 e _ => exact Nat.le_max_left ..
  | case2 e p h ih =>
    -- What fires was due by the limit, so the tick does not carry the clock beyond it.
    have hdue : p.due.nanos ≤ limit.nanos := nextDue?_le h
    have hfire : (e.fire p).clock.nanos = max e.clock.nanos p.due.nanos := Time.nanos_max ..
    rw [hfire] at ih
    omega

theorem le_clock_fireUntil (e : Encounter) (limit : Time) :
    e.clock.nanos ≤ (e.fireUntil limit).clock.nanos := by
  fun_induction fireUntil e limit with
  | case1 e _ => exact Nat.le_refl _
  | case2 e p _ ih =>
    have hfire : (e.fire p).clock.nanos = max e.clock.nanos p.due.nanos := Time.nanos_max ..
    rw [hfire] at ih
    omega

theorem clock_advanceTo (e : Encounter) (t : Time) :
    (e.advanceTo t).clock = max e.clock (min t e.endTime) := by
  have hle := e.clock_fireUntil_le (min t e.endTime)
  have hge := e.le_clock_fireUntil (min t e.endTime)
  apply Time.ext
  simp only [advanceTo, Time.nanos_max]
  omega

theorem endTime_advanceTo (e : Encounter) (t : Time) : (e.advanceTo t).endTime = e.endTime := by
  rw [endTime, endTime, settings_advanceTo]

/-- The clock does not go back. -/
theorem clock_le_advanceTo (e : Encounter) (t : Time) : e.clock ≤ (e.advanceTo t).clock := by
  rw [clock_advanceTo, Time.le_def, Time.nanos_max]
  exact Nat.le_max_left ..

/-- Where nothing is due, advancing moves the clock and no more. -/
theorem advanceTo_of_nextDue? {e : Encounter} {t : Time}
    (h : e.nextDue? (min t e.endTime) = none) :
    e.advanceTo t = { e with clock := max e.clock (min t e.endTime) } := by
  rw [advanceTo, fireUntil_of_none h]

end Encounter

end ActionPriority
