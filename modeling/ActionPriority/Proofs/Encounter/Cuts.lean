import ActionPriority.Proofs.Encounter.Reachable

/-! # Cutting Time

    It does not matter in how many advances the clock is moved.

    What fires next is the earliest of all pending ticks, so the ticks that are due by some
    instant fire before any later one, also when later ones are asked for at once
    (`fireUntil_fireUntil`).  Which ticks fire does not depend on where the clock stands
    (`fireUntil_withClock`).  So a first advance to an earlier instant leaves to the second
    exactly what is left to do, and by induction that holds of any number of them.
-/

namespace ActionPriority

namespace Encounter

/-! ### Firing in two goes -/

/-- What fires first by some instant also fires first by a later one. -/
theorem nextDue?_of_le {e : Encounter} {limit limit' : Time} {p : PendingTick}
    (hle : limit ≤ limit') (h : e.nextDue? limit = some p) : e.nextDue? limit' = some p := by
  obtain ⟨hfirst, hdue⟩ := nextDue?_eq_some.mp h
  exact nextDue?_eq_some.mpr ⟨hfirst, Nat.le_trans hdue hle⟩

/-- Firing what is due by an instant, and then what is due by a later one, is firing the latter. -/
theorem fireUntil_fireUntil {e : Encounter} {limit limit' : Time} (hle : limit ≤ limit') :
    (e.fireUntil limit).fireUntil limit' = e.fireUntil limit' := by
  fun_induction fireUntil e limit with
  | case1 e _ => rfl
  | case2 e p hsome ih => rw [ih, fireUntil_of_some (nextDue?_of_le hle hsome)]

/-- Where the clock stands makes no difference to what fires. -/
theorem fireUntil_withClock (e : Encounter) (now limit : Time) :
    ∃ clock, fireUntil { e with clock := now } limit = { e.fireUntil limit with clock } := by
  fun_induction fireUntil e limit generalizing now with
  | case1 e hnone =>
    have hsame : nextDue? { e with clock := now } limit = none := hnone
    exact ⟨now, fireUntil_of_none hsame⟩
  | case2 e p hsome ih =>
    have hsame : nextDue? { e with clock := now } limit = some p := hsome
    obtain ⟨clock, h⟩ := ih (max now p.due)
    exact ⟨clock, (fireUntil_of_some hsame).trans h⟩

/-! ### Advancing in two goes -/

/-- An advance fires what is due, and sets the clock. -/
theorem advanceTo_eq (e : Encounter) (t : Time) :
    e.advanceTo t =
      { e.fireUntil (min t e.endTime) with clock := max e.clock (min t e.endTime) } := by
  rw [← e.clock_advanceTo t]
  rfl

/-- Beyond the end of the encounter all instants are alike. -/
theorem advanceTo_congr {e : Encounter} {t u : Time} (h : min t e.endTime = min u e.endTime) :
    e.advanceTo t = e.advanceTo u := by
  rw [advanceTo_eq, advanceTo_eq, h]

theorem advanceTo_advanceTo {e : Encounter} {t u : Time} (hle : t ≤ u) :
    (e.advanceTo t).advanceTo u = e.advanceTo u := by
  have hlimits : min t e.endTime ≤ min u e.endTime := by
    simp only [Time.le_def, Time.nanos_min] at *
    omega
  have hclock : max (max e.clock (min t e.endTime)) (min u e.endTime) =
      max e.clock (min u e.endTime) := by
    apply Time.ext
    simp only [Time.le_def, Time.nanos_min, Time.nanos_max] at *
    omega
  -- The second advance starts from the clock that the first has set, which does not matter.
  obtain ⟨clock, hfired⟩ := fireUntil_withClock (e.fireUntil (min t e.endTime))
    (max e.clock (min t e.endTime)) (min u e.endTime)
  calc (e.advanceTo t).advanceTo u
      = { (e.advanceTo t).fireUntil (min u e.endTime) with
          clock := max (e.advanceTo t).clock (min u e.endTime) } := by
        rw [advanceTo_eq (e.advanceTo t), endTime_advanceTo]
    _ = { (e.fireUntil (min t e.endTime)).fireUntil (min u e.endTime) with
          clock := max (max e.clock (min t e.endTime)) (min u e.endTime) } := by
        rw [clock_advanceTo, advanceTo_eq e t, hfired]
    _ = e.advanceTo u := by
        rw [fireUntil_fireUntil hlimits, hclock, ← advanceTo_eq]

/-- Two lengths of time one after the other are their sum. -/
theorem advanceBy_advanceBy (e : Encounter) (a b : Time) :
    (e.advanceBy a).advanceBy b = e.advanceBy (a + b) := by
  -- The first advance may stop at the end of the encounter, and the sum at the last instant;
  -- in both cases the second advance ends where a single one does.
  have hlimits : min ((e.advanceBy a).clock + b) e.endTime =
      min (e.clock + (a + b)) e.endTime := by
    have hlast := e.endTime.nanos_le
    apply Time.ext
    rw [advanceBy, clock_advanceTo]
    simp only [Time.nanos_min, Time.nanos_max, Time.nanos_add]
    omega
  have hle : e.clock + a ≤ e.clock + (a + b) := by
    simp only [Time.le_def, Time.nanos_add]
    omega
  rw [← endTime_advanceTo e (e.clock + a)] at hlimits
  exact (advanceTo_congr hlimits).trans (advanceTo_advanceTo hle)

/-! ### Any number of cuts -/

theorem advanceTo_foldl {e : Encounter} {cuts : List Time} {u : Time} (h : ∀ t ∈ cuts, t ≤ u) :
    (cuts.foldl advanceTo e).advanceTo u = e.advanceTo u := by
  induction cuts generalizing e with
  | nil => rfl
  | cons t rest ih =>
    have hrest : ∀ t ∈ rest, t ≤ u := by
      intro t ht
      exact h t (List.mem_cons_of_mem _ ht)
    rw [List.foldl_cons, ih hrest]
    exact advanceTo_advanceTo (h t List.mem_cons_self)

theorem advanceBy_foldl (e : Encounter) (first : Time) (rest : List Time) :
    rest.foldl advanceBy (e.advanceBy first) = e.advanceBy (rest.foldl (· + ·) first) := by
  induction rest generalizing first with
  | nil => rfl
  | cons length rest ih => rw [List.foldl_cons, List.foldl_cons, advanceBy_advanceBy, ih]

/-- Advancing to an instant by way of others that are no later is advancing to it at once, and
    advancing by some lengths of time is advancing by their sum. -/
theorem advances_compose (e : Encounter) :
    (∀ t u, t ≤ u → (e.advanceTo t).advanceTo u = e.advanceTo u) ∧
    (∀ (cuts : List Time) (u : Time), (∀ t ∈ cuts, t ≤ u) →
      (cuts.foldl advanceTo e).advanceTo u = e.advanceTo u) ∧
    ∀ (first : Time) (rest : List Time),
      rest.foldl advanceBy (e.advanceBy first) = e.advanceBy (rest.foldl (· + ·) first) := by
  refine ⟨?_, ?_, ?_⟩
  · intro t u hle
    exact advanceTo_advanceTo hle
  · intro cuts u hcuts
    exact advanceTo_foldl hcuts
  · exact e.advanceBy_foldl

/-- Whether a running plague is looked at in between or not, seven seconds are seven seconds. -/
theorem advances_compose_plague :
    let e := duel.perform (.cast ⟨1⟩ plague.id ⟨0⟩)
    let s := Time.ofWholeSeconds
    (e.advanceTo (s 2)).advanceTo (s 7) = e.advanceTo (s 7) ∧
      ([s 1, s 4, s 3].foldl advanceTo e).advanceTo (s 7) = e.advanceTo (s 7) ∧
      ([s 3, s 2].foldl advanceBy (e.advanceBy (s 2))) = e.advanceBy (s 2 + s 3 + s 2) := by
  intro e s
  obtain ⟨htwo, hmany, hlengths⟩ := advances_compose e
  have hle : s 2 ≤ s 7 := by decide
  have hcuts : ∀ t ∈ [s 1, s 4, s 3], t ≤ s 7 := by decide
  exact ⟨htwo _ _ hle, hmany _ _ hcuts, hlengths (s 2) [s 3, s 2]⟩

end Encounter

end ActionPriority
