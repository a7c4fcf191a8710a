import ActionPriority.Effect
import Mathlib.Logic.Function.Iterate

/-! # Schedules

    An effect stores when it ticks next, when it expires, and how many ticks follow the next
    one, and each tick updates the first and the last of them.  This module says what they come
    to:

    * `Effect.instants` are the instants at which the effect is still to tick.  A tick takes
      away the first of them and nothing else (`instants_tick`).
    * `Effect.due` are those that come by some limit, and `Effect.through` is the effect once it
      has ticked at all of these.
    * `Effect.iterate_tick_applied` has the schedule of a new effect after any number of ticks
      in closed form.
-/

namespace ActionPriority

/-! ### Periods and their multiples -/

namespace Time

theorem nanos_pos {t : Time} (h : t ≠ zero) : 0 < t.nanos := by
  apply Nat.pos_of_ne_zero
  intro hzero
  exact h (Time.ext hzero)

theorem add_times_zero (t period : Time) : t + period.times 0 = t := by
  have hlast := t.nanos_le
  apply Time.ext
  simp only [nanos_add, nanos_times, Nat.mul_zero]
  omega

theorem add_times_one (t period : Time) : t + period.times 1 = t + period := by
  have hlast := period.nanos_le
  apply Time.ext
  simp only [nanos_add, nanos_times, Nat.mul_one]
  omega

/-- Sums that stop at the last instant can still be taken one period after another. -/
theorem add_times_succ (t period : Time) (i : Nat) :
    t + period.times (i + 1) = t + period + period.times i := by
  apply Time.ext
  simp only [nanos_add, nanos_times, Nat.mul_succ]
  omega

theorem add_times_add (t period : Time) (i : Nat) :
    t + period.times i + period = t + period.times (i + 1) := by
  apply Time.ext
  simp only [nanos_add, nanos_times, Nat.mul_succ]
  omega

end Time

namespace Effect

/-! ### The ticks to come -/

/-- The instants at which the effect is still to tick. -/
def instants (f : Effect) : List Time :=
  match f.schedule with
  | none => []
  | some s => (List.range (s.later + 1)).map fun i => s.nextTick + f.snapshot.period.times i

theorem instants_of_none {f : Effect} (h : f.schedule = none) : f.instants = [] := by
  rw [instants, h]

/-- The first instant is the next tick, and the others are those of the effect after it. -/
theorem instants_of_some {f : Effect} {s : Schedule} (h : f.schedule = some s) :
    f.instants = s.nextTick :: f.tick.instants := by
  obtain ⟨snapshot, schedule⟩ := f
  cases h
  obtain ⟨nextTick, expiresAt, later⟩ := s
  cases later with
  | zero => simp [instants, tick, Time.add_times_zero]
  | succ later =>
    simp only [instants, tick, Option.bind_some]
    rw [List.range_succ_eq_map, List.map_cons, List.map_map, Time.add_times_zero]
    congr 1
    -- What is left are the instants after the first, counted from the one that follows it.
    apply List.map_congr_left
    intro i _
    exact Time.add_times_succ ..

/-- A tick takes away the first of the instants. -/
theorem instants_tick (f : Effect) : f.tick.instants = f.instants.tail := by
  cases h : f.schedule with
  | none =>
    have htick : f.tick.schedule = none := by rw [tick, h, Option.bind_none]
    rw [instants_of_none h, instants_of_none htick, List.tail_nil]
  | some s => rw [instants_of_some h, List.tail_cons]

theorem instants_iterate_tick (f : Effect) (n : Nat) :
    (tick^[n] f).instants = f.instants.drop n := by
  induction n with
  | zero => rfl
  | succ n ih => rw [Function.iterate_succ_apply', instants_tick, ih, List.tail_drop]

/-- No tick comes before the next one. -/
theorem nextTick_le {f : Effect} {s : Schedule} {t : Time} (hs : f.schedule = some s)
    (ht : t ∈ f.instants) : s.nextTick ≤ t := by
  rw [instants, hs] at ht
  obtain ⟨i, _, rfl⟩ := List.mem_map.mp ht
  have hlast := s.nextTick.nanos_le
  simp only [Time.le_def, Time.nanos_add, Time.nanos_times]
  omega

@[simp] theorem snapshot_tick (f : Effect) : f.tick.snapshot = f.snapshot := rfl

@[simp] theorem snapshot_iterate_tick (f : Effect) (n : Nat) :
    (tick^[n] f).snapshot = f.snapshot := by
  induction n with
  | zero => rfl
  | succ n ih => rw [Function.iterate_succ_apply', snapshot_tick, ih]

/-! ### The ticks that are due -/

/-- The instants at which the effect ticks by `limit`. -/
def due (f : Effect) (limit : Time) : List Time := f.instants.filter (· ≤ limit)

/-- The effect once it has ticked at all instants up to `limit`. -/
def through (f : Effect) (limit : Time) : Effect := tick^[(f.due limit).length] f

/-- Nothing is due while the next tick lies after the limit. -/
theorem due_eq_nil {f : Effect} {limit : Time} (h : ∀ s ∈ f.schedule, limit < s.nextTick) :
    f.due limit = [] := by
  rw [due, List.filter_eq_nil_iff]
  intro t ht
  cases hs : f.schedule with
  | none =>
    rw [instants_of_none hs] at ht
    cases ht
  | some s =>
    have hnext := h s hs
    have hle := nextTick_le hs ht
    simp only [decide_eq_true_eq, Time.le_def, Time.lt_def] at *
    omega

theorem through_eq_self {f : Effect} {limit : Time} (h : ∀ s ∈ f.schedule, limit < s.nextTick) :
    f.through limit = f := by
  rw [through, due_eq_nil h]
  rfl

section Due

variable {f : Effect} {s : Schedule} {limit : Time}

/-- If the next tick is due, it is the first, and then those of the effect after it. -/
theorem due_of_nextTick_le (hs : f.schedule = some s) (h : s.nextTick ≤ limit) :
    f.due limit = s.nextTick :: f.tick.due limit := by
  have hdue : decide (s.nextTick ≤ limit) = true := decide_eq_true h
  rw [due, instants_of_some hs, List.filter_cons, if_pos hdue]
  rfl

theorem through_of_nextTick_le (hs : f.schedule = some s) (h : s.nextTick ≤ limit) :
    f.through limit = f.tick.through limit := by
  rw [through, due_of_nextTick_le hs h, List.length_cons, Function.iterate_succ_apply]
  rfl

end Due

/-! ### New effects -/

section Applied

variable {start : Time} {ticks : Nat} {snapshot : Snapshot}

theorem instants_applied (hperiod : snapshot.period ≠ Time.zero) :
    (applied start ticks snapshot).instants =
      (List.range ticks).map fun i => start + snapshot.period.times (i + 1) := by
  cases ticks with
  | zero => simp [instants, applied]
  | succ n =>
    simp only [instants, applied, Nat.succ_ne_zero, hperiod, or_self, if_false,
      Nat.add_sub_cancel, Time.add_times_succ]

/-- A new effect after `k` of its ticks. -/
theorem iterate_tick_applied (hperiod : snapshot.period ≠ Time.zero) (k : Nat) :
    tick^[k] (applied start ticks snapshot) =
      { snapshot
        schedule :=
          if k < ticks then some
            { nextTick := start + snapshot.period.times (k + 1)
              expiresAt := start + snapshot.period.times ticks
              later := ticks - (k + 1) }
          else none } := by
  induction k with
  | zero =>
    cases ticks with
    | zero => simp [applied]
    | succ n => simp [applied, hperiod, Time.add_times_one]
  | succ k ih =>
    rw [Function.iterate_succ_apply', ih]
    by_cases hmore : k + 1 < ticks
    · -- There are more ticks to come after this one.
      have hlater : ticks - (k + 1) = (ticks - (k + 2)) + 1 := by omega
      simp only [tick, hmore, Nat.lt_of_succ_lt hmore, if_true, Option.bind_some, hlater,
        Time.add_times_add]
    · by_cases hlast : k < ticks
      · -- This was the last one.
        have hlater : ticks - (k + 1) = 0 := by omega
        simp only [tick, hmore, hlast, if_true, if_false, Option.bind_some, hlater]
      · simp only [tick, hmore, hlast, if_false, Option.bind_none]

/-- Of a new effect, as many ticks are due by `limit` as there are periods up to it, and no more
    than it has. -/
def dueBy (start period : Time) (ticks : Nat) (limit : Time) : Nat :=
  min ticks ((limit.nanos - start.nanos) / period.nanos)

theorem dueBy_mono (start period : Time) (ticks : Nat) {t u : Time} (h : t ≤ u) :
    dueBy start period ticks t ≤ dueBy start period ticks u := by
  have hdiv : (t.nanos - start.nanos) / period.nanos ≤ (u.nanos - start.nanos) / period.nanos :=
    Nat.div_le_div_right (Nat.sub_le_sub_right h _)
  unfold dueBy
  omega

theorem filter_lt_range' (q k n : Nat) :
    (List.range' k n).filter (· < q) = List.range' k (min (k + n) q - k) := by
  induction n generalizing k with
  | zero =>
    have hempty : min (k + 0) q - k = 0 := by omega
    rw [hempty]
    rfl
  | succ n ih =>
    rw [List.range'_succ, List.filter_cons, ih]
    by_cases hk : k < q
    · have hlength : min (k + (n + 1)) q - k = min (k + 1 + n) q - (k + 1) + 1 := by omega
      rw [if_pos (decide_eq_true hk), hlength, List.range'_succ]
    · have hempty : min (k + (n + 1)) q - k = 0 := by omega
      have hrest : min (k + 1 + n) q - (k + 1) = 0 := by omega
      rw [if_neg (by simpa using hk), hempty, hrest]
      rfl

/-- After `k` ticks of a new effect those that are due by `limit` are the next ones in turn,
    as long as the last of them can be told. -/
theorem due_iterate_tick_applied (hperiod : snapshot.period ≠ Time.zero)
    (hfits : start.nanos + ticks * snapshot.period.nanos < lastNano) (k : Nat) (limit : Time) :
    (tick^[k] (applied start ticks snapshot)).due limit =
      (List.range' k (dueBy start snapshot.period ticks limit - k)).map fun i =>
        start + snapshot.period.times (i + 1) := by
  have hpos : 0 < snapshot.period.nanos := Time.nanos_pos hperiod
  have hdue : ∀ i ∈ List.range' k (ticks - k),
      decide (start + snapshot.period.times (i + 1) ≤ limit) =
        decide (i < (limit.nanos - start.nanos) / snapshot.period.nanos) := by
    intro i hi
    have hbound : (i + 1) * snapshot.period.nanos ≤ ticks * snapshot.period.nanos := by
      obtain ⟨hge, hlt⟩ := List.mem_range'_1.mp hi
      exact Nat.mul_le_mul_right _ (by omega)
    have hstep : 0 < (i + 1) * snapshot.period.nanos := Nat.mul_pos i.succ_pos hpos
    rw [decide_eq_decide, Nat.lt_iff_add_one_le, Nat.le_div_iff_mul_le hpos, Time.le_def,
      Time.nanos_add, Time.nanos_times, Nat.mul_comm snapshot.period.nanos]
    omega
  have hcount : min (k + (ticks - k)) ((limit.nanos - start.nanos) / snapshot.period.nanos) - k =
      dueBy start snapshot.period ticks limit - k := by
    unfold dueBy
    omega
  rw [due, instants_iterate_tick, instants_applied hperiod, ← List.map_drop, List.filter_map,
    List.range_eq_range', List.drop_range', Nat.zero_add, Nat.mul_one, ← hcount,
    ← filter_lt_range']
  exact congrArg _ (List.filter_congr hdue)

theorem through_iterate_tick_applied (hperiod : snapshot.period ≠ Time.zero)
    (hfits : start.nanos + ticks * snapshot.period.nanos < lastNano) (k : Nat) (limit : Time) :
    (tick^[k] (applied start ticks snapshot)).through limit =
      tick^[max k (dueBy start snapshot.period ticks limit)] (applied start ticks snapshot) := by
  have hcount : dueBy start snapshot.period ticks limit - k + k =
      max k (dueBy start snapshot.period ticks limit) := by omega
  rw [through, due_iterate_tick_applied hperiod hfits, List.length_map, List.length_range',
    ← Function.iterate_add_apply, hcount]

/-- How a new effect stands after the ticks that are due by `now`: it is active while there is
    time left, and the time left ends with its last tick. -/
theorem standing_applied (hperiod : snapshot.period ≠ Time.zero)
    (hfits : start.nanos + ticks * snapshot.period.nanos < lastNano) {now : Time}
    (hstart : start ≤ now) :
    let f := tick^[dueBy start snapshot.period ticks now] (applied start ticks snapshot)
    (f.isActive = true ↔ now.nanos < start.nanos + ticks * snapshot.period.nanos) ∧
      (f.remaining now).nanos = start.nanos + ticks * snapshot.period.nanos - now.nanos := by
  have hpos : 0 < snapshot.period.nanos := Time.nanos_pos hperiod
  have hmore : dueBy start snapshot.period ticks now < ticks ↔
      now.nanos < start.nanos + ticks * snapshot.period.nanos := by
    have hdiv := Nat.div_lt_iff_lt_mul (x := now.nanos - start.nanos) (y := ticks) hpos
    rw [Time.le_def] at hstart
    unfold dueBy
    omega
  dsimp only
  rw [iterate_tick_applied hperiod]
  by_cases hlt : dueBy start snapshot.period ticks now < ticks
  · -- The effect expires with its last tick, which can be told.
    have hend : (start + snapshot.period.times ticks).nanos =
        start.nanos + ticks * snapshot.period.nanos := by
      rw [Time.nanos_add, Time.nanos_times, Nat.mul_comm snapshot.period.nanos]
      omega
    rw [if_pos hlt]
    refine ⟨iff_of_true rfl (hmore.mp hlt), ?_⟩
    show (now.till (start + snapshot.period.times ticks)).nanos = _
    rw [Time.nanos_till, hend]
  · -- All ticks are due, so the effect has run out and no time is left.
    have hover : ¬ now.nanos < start.nanos + ticks * snapshot.period.nanos := by
      intro h
      exact hlt (hmore.mpr h)
    rw [if_neg hlt]
    refine ⟨iff_of_false Bool.false_ne_true hover, ?_⟩
    show 0 = _
    omega

end Applied

end Effect

end ActionPriority
