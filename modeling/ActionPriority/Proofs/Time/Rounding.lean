import ActionPriority.Condition.Node
import Mathlib.Data.Nat.Dist

/-! # Rounded Periods

    Periods are rounded before they are compared.  The nearest multiple of a step is told by what
    holds of it (`NearestMultiple`): no other multiple is nearer, and of two that are equally near
    it is the upper one.  Multiples lie a step apart, so just one of them is in a window of that
    length around the number, and that is the nearest (`nearestMultiple_iff`).

    Rounding finds this multiple for every length of time, but does not always keep it.  The
    result goes through a 64-bit word of nanoseconds, which ends after some 584 years, long
    before the last instant.  `Time.roundTo_nearest` is the exact statement: the result is the
    nearest multiple or the end of the word, whichever is less.  The end of the word is no multiple
    of most steps, and `Time.roundTo_nearest_long` is a length that is a whole number of
    milliseconds and does not stay one.
-/

namespace ActionPriority

/-! ### Nearest multiples -/

/-- `m` is the multiple of `g` that is nearest to `n`, and the upper one if there are two. -/
structure NearestMultiple (g n m : Nat) : Prop where
  dvd : g ∣ m
  nearest : ∀ k, g ∣ k → Nat.dist n m ≤ Nat.dist n k
  upper : ∀ k, g ∣ k → Nat.dist n k = Nat.dist n m → k ≤ m

section Multiples

variable {g n m k : Nat}

/-- Different multiples are at least `g` apart. -/
theorem multiples_apart (hm : g ∣ m) (hk : g ∣ k) : k = m ∨ k + g ≤ m ∨ m + g ≤ k := by
  obtain ⟨a, rfl⟩ := hm
  obtain ⟨b, rfl⟩ := hk
  rcases Nat.lt_trichotomy b a with hlt | rfl | hlt
  · exact Or.inr (Or.inl (Nat.mul_le_mul_left g hlt))
  · exact Or.inl rfl
  · exact Or.inr (Or.inr (Nat.mul_le_mul_left g hlt))

/-- The nearest multiple is the one in the window of length `g` that begins half of it before. -/
theorem nearestMultiple_iff (hg : 0 < g) :
    NearestMultiple g n m ↔ g ∣ m ∧ m ≤ n + g / 2 ∧ n + g / 2 < m + g := by
  constructor
  · intro h
    refine ⟨h.dvd, ?_, ?_⟩
    · -- Above the window the next multiple below would be nearer.
      by_contra hout
      have hle : g ≤ m := Nat.le_of_dvd (by omega) h.dvd
      have hbelow := h.nearest (m - g) (Nat.dvd_sub h.dvd (Nat.dvd_refl g))
      unfold Nat.dist at hbelow
      omega
    · -- Below the window the next multiple above would be nearer, or as near.
      by_contra hout
      have habove : g ∣ m + g := Nat.dvd_add h.dvd (Nat.dvd_refl g)
      have hle := h.nearest (m + g) habove
      have hupper := h.upper (m + g) habove
      unfold Nat.dist at hle hupper
      omega
  · rintro ⟨hdvd, hlow, hhigh⟩
    refine ⟨hdvd, fun k hk => ?_, fun k hk hsame => ?_⟩
    · rcases multiples_apart hdvd hk with rfl | hbelow | habove
      · exact Nat.le_refl _
      · unfold Nat.dist
        omega
      · unfold Nat.dist
        omega
    · rcases multiples_apart hdvd hk with rfl | hbelow | habove
      · exact Nat.le_refl _
      · omega
      · unfold Nat.dist at hsame
        omega

/-- There is always a nearest multiple: the one found by rounding up from half a step on. -/
theorem nearestMultiple_div_mul (hg : 0 < g) (n : Nat) :
    NearestMultiple g n ((n + g / 2) / g * g) :=
  (nearestMultiple_iff hg).mpr
    ⟨Nat.dvd_mul_left .., Nat.div_mul_le_self .., Nat.lt_div_mul_add hg⟩

/-- A multiple is the nearest one to itself. -/
theorem nearestMultiple_self (hg : 0 < g) (hm : g ∣ m) : NearestMultiple g m m :=
  (nearestMultiple_iff hg).mpr ⟨hm, by omega, by omega⟩

/-- There is only one nearest multiple. -/
theorem NearestMultiple.unique (hg : 0 < g) (hm : NearestMultiple g n m)
    (hk : NearestMultiple g n k) : m = k := by
  have hm := (nearestMultiple_iff hg).mp hm
  have hk := (nearestMultiple_iff hg).mp hk
  rcases multiples_apart hk.1 hm.1 with heq | hbelow | habove
  · exact heq
  · omega
  · omega

/-- The nearest multiple is at most half a step away. -/
theorem NearestMultiple.dist_le (hg : 0 < g) (h : NearestMultiple g n m) :
    Nat.dist n m ≤ g / 2 := by
  have h := (nearestMultiple_iff hg).mp h
  unfold Nat.dist
  omega

end Multiples

/-! ### Rounding -/

namespace Time

/-- `r` is the multiple of `step` that is nearest to `a`, or the end of the word if that is less.
    In the word it is at most half a step away, and rounding it again changes nothing. -/
def RoundsTo (step a r : Time) : Prop :=
  ∃ m, NearestMultiple step.nanos a.nanos m ∧ r.nanos = min m lastRounded ∧
    (m ≤ lastRounded → Nat.dist a.nanos r.nanos ≤ step.nanos / 2 ∧ r.roundTo step = r)

/-- Rounding is finding the nearest multiple, and then keeping it in a word. -/
theorem nanos_roundTo {step a : Time} {m : Nat} (hstep : 0 < step.nanos)
    (hm : NearestMultiple step.nanos a.nanos m) :
    (a.roundTo step).nanos = min m lastRounded := by
  have hword : lastRounded ≤ lastNano := by decide
  have hround := hm.unique hstep (nearestMultiple_div_mul hstep a.nanos)
  rw [roundTo, if_neg (Nat.ne_of_gt hstep), nanos_ofNanos, ← hround]
  omega

/-- The period of three seconds at a haste of 1.3 loses what was left of the division. -/
example : (ofNanos 2307692308).roundTo granularity = ofMillis 2308 := by decide

theorem roundsTo_roundTo {step : Time} (hstep : 0 < step.nanos) (a : Time) :
    RoundsTo step a (a.roundTo step) := by
  have hm := nearestMultiple_div_mul hstep a.nanos
  have hvalue := nanos_roundTo hstep hm
  refine ⟨_, hm, hvalue, fun hword => ?_⟩
  rw [Nat.min_eq_left hword] at hvalue
  constructor
  · rw [hvalue]
    exact hm.dist_le hstep
  · -- The result is a multiple, and as such the nearest one to itself.
    have hself : NearestMultiple step.nanos (a.roundTo step).nanos (a.roundTo step).nanos :=
      nearestMultiple_self hstep (hvalue ▸ hm.dvd)
    apply Time.ext
    rw [nanos_roundTo hstep hself, hvalue, Nat.min_eq_left hword]

theorem roundTo_mono {a b : Time} (h : a ≤ b) (step : Time) : a.roundTo step ≤ b.roundTo step := by
  by_cases hstep : step.nanos = 0
  · rw [roundTo, roundTo, if_pos hstep, if_pos hstep]
    exact h
  · rw [roundTo, roundTo, if_neg hstep, if_neg hstep, le_def, nanos_ofNanos, nanos_ofNanos]
    have hle : (a.nanos + step.nanos / 2) / step.nanos * step.nanos ≤
        (b.nanos + step.nanos / 2) / step.nanos * step.nanos :=
      Nat.mul_le_mul_right _ (Nat.div_le_div_right (Nat.add_le_add_right h _))
    omega

/-- Rounding takes every length of time to the nearest multiple of the step, except that it stops
    at the end of the word: a multiple that is a time is told exactly if it fits in the word.  It
    never turns two lengths around.  So it does with the period of every effect, both when a cast
    takes its snapshot and when tick rates are compared. -/
theorem roundTo_nearest (step : Time) (hstep : 0 < step.nanos) :
    (∀ a : Time, RoundsTo step a (a.roundTo step)) ∧
    (∀ a r : Time, NearestMultiple step.nanos a.nanos r.nanos →
      (a.roundTo step = r ↔ r.nanos ≤ lastRounded)) ∧
    (∀ a b : Time, a ≤ b → a.roundTo step ≤ b.roundTo step) ∧
    ∀ (p : Periodic) (caster target : Stats),
      RoundsTo granularity (Damage.tickPeriod p caster) (Snapshot.take p caster target).period ∧
      Increase.tickRate.live p caster target =
        (Snapshot.take p caster target).period.toSeconds := by
  refine ⟨roundsTo_roundTo hstep, ?_, fun a b h => roundTo_mono h step, ?_⟩
  · intro a r hr
    rw [Time.ext_iff, nanos_roundTo hstep hr]
    omega
  · intro p caster target
    exact ⟨roundsTo_roundTo (by decide) _, rfl⟩

/-- Twenty billion seconds are a whole number of milliseconds, but rounding to milliseconds does
    not leave them as they are. -/
theorem roundTo_nearest_long :
    let a := ofWholeSeconds 20000000000
    NearestMultiple granularity.nanos a.nanos a.nanos ∧ a.roundTo granularity ≠ a := by
  intro a
  have hself : NearestMultiple granularity.nanos a.nanos a.nanos :=
    nearestMultiple_self (by decide) (by decide)
  obtain ⟨_, hexact, _⟩ := roundTo_nearest granularity (by decide)
  have hbeyond : ¬ a.nanos ≤ lastRounded := by decide
  exact ⟨hself, mt (hexact a a hself).mp hbeyond⟩

end Time

end ActionPriority
