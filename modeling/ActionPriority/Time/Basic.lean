/-! # Simulated Time

    The clock counts whole nanoseconds from the start of a trial.  One type serves for
    instants and for lengths of time: an instant is the length elapsed since the start.

    * There is a last instant, `Time.never`, and sums and multiples stop at it.
    * Differences stop at zero, so no length is ever negative.

    All of it is read through `Time.nanos`, a natural number: each operation has one
    lemma that says what it does to that number.
-/

namespace ActionPriority

/-- The nanoseconds in one second. -/
def nanosPerSecond : Nat := 1000000000

/-- One nanosecond less than `2 ^ 64` seconds: the last instant that can be told. -/
def lastNano : Nat := 18446744073709551615999999999

/-- A length of simulated time, or the instant that far after the start of a trial. -/
structure Time where
  /-- The length in nanoseconds. -/
  nanos : Nat
  /-- No time lies after the last instant. -/
  nanos_le : nanos ≤ lastNano
  deriving DecidableEq, Repr

namespace Time

@[ext]
theorem ext {a b : Time} (h : a.nanos = b.nanos) : a = b := by
  cases a; cases b; cases h; rfl

/-! ### Construction -/

/-- The time of `n` nanoseconds, or the last instant if `n` lies beyond it. -/
def ofNanos (n : Nat) : Time := ⟨min n lastNano, Nat.min_le_right ..⟩

/-- The time of `n` nanoseconds, if there is one. -/
def ofNanos? (n : Nat) : Option Time := if h : n ≤ lastNano then some ⟨n, h⟩ else none

/-- The time of `n` milliseconds. -/
def ofMillis (n : Nat) : Time := ofNanos (n * 1000000)

/-- The time of `n` whole seconds. -/
def ofWholeSeconds (n : Nat) : Time := ofNanos (n * nanosPerSecond)

/-- The start of a trial, and the empty length of time. -/
def zero : Time := ⟨0, Nat.zero_le _⟩

/-- The last instant: what never ends, ends then. -/
def never : Time := ⟨lastNano, Nat.le_refl _⟩

instance : Inhabited Time := ⟨zero⟩

@[simp] theorem nanos_ofNanos (n : Nat) : (ofNanos n).nanos = min n lastNano := rfl

@[simp] theorem nanos_zero : zero.nanos = 0 := rfl

@[simp] theorem nanos_never : never.nanos = lastNano := rfl

/-! ### Order -/

instance : LE Time := ⟨fun a b => a.nanos ≤ b.nanos⟩

instance : LT Time := ⟨fun a b => a.nanos < b.nanos⟩

instance (a b : Time) : Decidable (a ≤ b) := inferInstanceAs (Decidable (a.nanos ≤ b.nanos))

instance (a b : Time) : Decidable (a < b) := inferInstanceAs (Decidable (a.nanos < b.nanos))

instance : Min Time := ⟨fun a b => if a ≤ b then a else b⟩

instance : Max Time := ⟨fun a b => if a ≤ b then b else a⟩

theorem le_def {a b : Time} : a ≤ b ↔ a.nanos ≤ b.nanos := Iff.rfl

theorem lt_def {a b : Time} : a < b ↔ a.nanos < b.nanos := Iff.rfl

@[simp] theorem nanos_min (a b : Time) : (min a b).nanos = min a.nanos b.nanos := by
  show (if a ≤ b then a else b).nanos = _
  split <;> simp_all only [le_def] <;> omega

@[simp] theorem nanos_max (a b : Time) : (max a b).nanos = max a.nanos b.nanos := by
  show (if a ≤ b then b else a).nanos = _
  split <;> simp_all only [le_def] <;> omega

/-! ### Arithmetic -/

/-- The instant `b` after `a`, at most the last one. -/
instance : Add Time := ⟨fun a b => ofNanos (a.nanos + b.nanos)⟩

/-- How long it is from `a` until `b`: zero if `b` has passed. -/
def till (a b : Time) : Time := ⟨b.nanos - a.nanos, Nat.le_trans (Nat.sub_le ..) b.nanos_le⟩

/-- The length `a` taken `n` times, at most the last instant. -/
def times (a : Time) (n : Nat) : Time := ofNanos (a.nanos * n)

@[simp] theorem nanos_add (a b : Time) : (a + b).nanos = min (a.nanos + b.nanos) lastNano := rfl

@[simp] theorem nanos_till (a b : Time) : (a.till b).nanos = b.nanos - a.nanos := rfl

@[simp] theorem nanos_times (a : Time) (n : Nat) :
    (a.times n).nanos = min (a.nanos * n) lastNano := rfl

/-- The greatest length that is a whole number of nanoseconds in a 64-bit word. -/
def lastRounded : Nat := 18446744073709551615

/-- The multiple of `step` nearest to `a`, a half going up; `a` itself if `step` is zero.
    The multiple is held in a 64-bit word of nanoseconds and stops at its greatest. -/
def roundTo (a step : Time) : Time :=
  if step.nanos = 0 then a
  else ofNanos (min ((a.nanos + step.nanos / 2) / step.nanos * step.nanos) lastRounded)

/-- The smallest step of time that periods are told apart by: one millisecond. -/
def granularity : Time := ofMillis 1

end Time

end ActionPriority
