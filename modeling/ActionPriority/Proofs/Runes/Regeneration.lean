import ActionPriority.Proofs.Runes.Payments

/-! # Regeneration

    The slots of a pair come back one at a time: a slot that is charged while its partner is
    still coming back waits for the partner first.  That is a rule about one payment.  This
    module draws the conclusion for whole runs: however spending and converting are mixed,
    a pair can be charged only twice and then once more for each cooldown that passes
    (`pair_rate_limited`).

    The argument follows the two ready times of a pair.  `Paced` says how far the payments
    since an instant have pushed them: the later of the two lies one cooldown after that
    instant for each payment, and the earlier one at most one cooldown before the later,
    unless the clock has already passed it.  A payment has to wait for the slot that it
    charges, so the clock itself falls behind by two cooldowns at most.
-/

namespace ActionPriority

/-! ### Two ready times -/

/-- `n` payments since the instant `a`, of a pair with ready times `x` and `y` and cooldown
    `d`, have pushed the ready times or have let time pass until `now`. -/
structure Paced (a d n now x y : Nat) : Prop where
  /-- The later of the two is `n` cooldowns after `a`. -/
  later : a + n * d ≤ max (max now a) (max x y)
  /-- The earlier one is at most a cooldown short of that. -/
  earlier : a + n * d ≤ max (max now a) (min x y) + d

namespace Paced

variable {a d n now t x y : Nat}

theorem start : Paced a d 0 now x y := by
  constructor <;> omega

theorem symm (h : Paced a d n now x y) : Paced a d n now y x := by
  obtain ⟨hlater, hearlier⟩ := h
  constructor <;> omega

theorem wait (h : Paced a d n now x y) (hnow : now ≤ t) : Paced a d n t x y := by
  obtain ⟨hlater, hearlier⟩ := h
  constructor <;> omega

/-- The next payment has to wait for one of the two. -/
theorem le_of_ready (h : Paced a d n now x y) (hnow : now ≤ t) (hready : x ≤ t) (ha : a ≤ t) :
    a + n * d ≤ t + d := by
  have hearlier := h.earlier
  omega

/-- A payment pushes the slot that it charges behind its partner. -/
theorem charge (h : Paced a d n now x y) (hnow : now ≤ t) (hready : x ≤ t) :
    Paced a d (n + if a ≤ t then 1 else 0) t (max t y + d) y := by
  obtain ⟨hlater, hearlier⟩ := h
  split
  · have hsucc : (n + 1) * d = n * d + d := Nat.succ_mul n d
    constructor <;> omega
  · rw [Nat.add_zero]
    constructor <;> omega

end Paced

/-! ### Runs of a rune bar -/

namespace RuneBar

/-- The instant of a move, if it has one. -/
def Move.time? : Move → Option Time
  | .spend _ now => some now
  | .convert _ => none
  | .regen _ => none

/-- Does the move leave the multiplier of the cooldown alone? -/
def Move.keepsRegen : Move → Bool
  | .spend _ _ => true
  | .convert _ => true
  | .regen _ => false

/-- The payments that a move makes. -/
def movePayments (bar : RuneBar) : Move → List Payment
  | .spend cost now =>
    match bar.afford cost now with
    | .ok () => payments now bar cost.runes
    | .error _ => []
  | .convert _ => []
  | .regen _ => []

/-- The payments of a run of moves, in order. -/
def runPayments : RuneBar → List Move → List Payment
  | _, [] => []
  | bar, m :: rest => bar.movePayments m ++ runPayments (bar.move m) rest

end RuneBar

namespace Payment

/-- Was a slot of the pair of `rune` charged? -/
def chargesPair (rune : BaseRune) (p : Payment) : Bool :=
  p.slot = rune.slots.1 ∨ p.slot = rune.slots.2

/-- Was the pair charged at `a` or later? -/
def chargesSince (rune : BaseRune) (a : Time) (p : Payment) : Bool :=
  p.chargesPair rune ∧ a ≤ p.time

/-- Was the pair charged between `a` and `b`? -/
def chargesWithin (rune : BaseRune) (a b : Time) (p : Payment) : Bool :=
  p.chargesSince rune a ∧ p.time ≤ b

/-- Coming back for as long as `cooldown` does not reach beyond the last instant. -/
def IsTold (cooldown : Time) (p : Payment) : Prop :=
  max p.time.nanos p.partnerReadyAt.nanos + cooldown.nanos ≤ lastNano

instance (cooldown : Time) (p : Payment) : Decidable (p.IsTold cooldown) := Nat.decLe ..

end Payment

namespace RuneBar

/-! ### One payment -/

/-- The instant at which slot `i` is ready, in nanoseconds. -/
def readyNano (bar : RuneBar) (i : Fin 6) : Nat := (bar.slot i).readyAt.nanos

theorem partner_fst (rune : BaseRune) : partner rune.slots.1 = rune.slots.2 := by
  cases rune <;> rfl

theorem partner_snd (rune : BaseRune) : partner rune.slots.2 = rune.slots.1 := by
  cases rune <;> rfl

theorem partner_ne (i : Fin 6) : partner i ≠ i := by
  revert i
  decide

/-- The pair seen from either of its slots. -/
theorem paced_iff_of_pair {bar : RuneBar} {rune : BaseRune} {i : Fin 6} {a d n now : Nat}
    (h : i = rune.slots.1 ∨ i = rune.slots.2) :
    Paced a d n now (bar.readyNano rune.slots.1) (bar.readyNano rune.slots.2) ↔
      Paced a d n now (bar.readyNano i) (bar.readyNano (partner i)) := by
  rcases h with rfl | rfl
  · rw [partner_fst]
  · rw [partner_snd]
    exact ⟨Paced.symm, Paced.symm⟩

theorem readyNano_startRegen_ne {bar : RuneBar} {i j : Fin 6} {now : Time} (h : j ≠ i) :
    (bar.startRegen i now).readyNano j = bar.readyNano j := by
  rw [readyNano, slot_startRegen, if_neg h, readyNano]

/-- A charged slot is ready one cooldown after the later of now and its partner. -/
theorem readyNano_startRegen_self {bar : RuneBar} {i : Fin 6} {now : Time}
    (h : (bar.paymentOf i now).IsTold bar.fullCooldown) :
    (bar.startRegen i now).readyNano i =
      max now.nanos (bar.readyNano (partner i)) + bar.fullCooldown.nanos := by
  rw [readyNano, slot_startRegen, if_pos rfl, readyNano]
  simp only [spentSlot, Time.nanos_add, Time.nanos_max]
  exact Nat.min_eq_left h

/-- The pair of `rune` after `n` payments since `a`, of which `k` were made up to `b`. -/
structure Spaced (bar : RuneBar) (rune : BaseRune) (a b : Time) (now n k : Nat) : Prop where
  paced : Paced a.nanos bar.fullCooldown.nanos n now (bar.readyNano rune.slots.1)
    (bar.readyNano rune.slots.2)
  le : k ≤ n
  /-- All but two of the `k` payments took a cooldown each. -/
  window : k = 0 ∨ a.nanos + k * bar.fullCooldown.nanos ≤ b.nanos + 2 * bar.fullCooldown.nanos

namespace Spaced

variable {bar after : RuneBar} {rune : BaseRune} {a b t : Time} {now n k : Nat}

theorem start (bar : RuneBar) (rune : BaseRune) (a b : Time) : bar.Spaced rune a b 0 0 0 :=
  ⟨Paced.start, Nat.le_refl 0, Or.inl rfl⟩

theorem wait (h : bar.Spaced rune a b now n k) (hnow : now ≤ t.nanos) :
    bar.Spaced rune a b t.nanos n k :=
  ⟨h.paced.wait hnow, h.le, h.window⟩

/-- The window still holds after a payment for which the pair had to wait. -/
theorem count {x y : Nat} (h : bar.Spaced rune a b now n k)
    (hpaced : Paced a.nanos bar.fullCooldown.nanos n now x y) (hnow : now ≤ t.nanos)
    (hready : x ≤ t.nanos) :
    (k + if a ≤ t ∧ t ≤ b then 1 else 0) ≤ (n + if a ≤ t then 1 else 0) ∧
      ((k + if a ≤ t ∧ t ≤ b then 1 else 0) = 0 ∨
        a.nanos + (k + if a ≤ t ∧ t ≤ b then 1 else 0) * bar.fullCooldown.nanos ≤
          b.nanos + 2 * bar.fullCooldown.nanos) := by
  have hle := h.le
  have hwindow := h.window
  by_cases hin : a ≤ t ∧ t ≤ b
  · have hwait := hpaced.le_of_ready hnow hready hin.1
    have hmul : k * bar.fullCooldown.nanos ≤ n * bar.fullCooldown.nanos :=
      Nat.mul_le_mul_right _ hle
    have hsucc : (k + 1) * bar.fullCooldown.nanos =
        k * bar.fullCooldown.nanos + bar.fullCooldown.nanos := Nat.succ_mul ..
    have htb : t.nanos ≤ b.nanos := hin.2
    rw [if_pos hin, if_pos hin.1]
    exact ⟨by omega, Or.inr (by omega)⟩
  · rw [if_neg hin]
    refine ⟨?_, hwindow⟩
    split <;> omega

/-- One payment. -/
theorem charge {i : Fin 6} (h : bar.Spaced rune a b now n k) (hnow : now ≤ t.nanos)
    (hready : (bar.slot i).isReady t = true)
    (htold : (bar.paymentOf i t).IsTold bar.fullCooldown) :
    (bar.startRegen i t).Spaced rune a b t.nanos
      (n + if (bar.paymentOf i t).chargesSince rune a then 1 else 0)
      (k + if (bar.paymentOf i t).chargesWithin rune a b then 1 else 0) := by
  have hle : bar.readyNano i ≤ t.nanos := of_decide_eq_true hready
  by_cases hpair : i = rune.slots.1 ∨ i = rune.slots.2
  · have hpaced := (paced_iff_of_pair hpair).mp h.paced
    have hcount := h.count hpaced hnow hle
    have hsince : (bar.paymentOf i t).chargesSince rune a = true ↔ a ≤ t := by
      simp [Payment.chargesSince, Payment.chargesPair, hpair]
    have hwithin : (bar.paymentOf i t).chargesWithin rune a b = true ↔ a ≤ t ∧ t ≤ b := by
      simp [Payment.chargesWithin, hsince]
    simp only [hsince, hwithin]
    refine ⟨(paced_iff_of_pair hpair).mpr ?_, hcount.1, hcount.2⟩
    rw [readyNano_startRegen_self htold, readyNano_startRegen_ne (partner_ne i)]
    exact hpaced.charge hnow hle
  · -- Another pair was charged.
    have hsince : (bar.paymentOf i t).chargesSince rune a = false := by
      simp [Payment.chargesSince, Payment.chargesPair, hpair]
    have hwithin : (bar.paymentOf i t).chargesWithin rune a b = false := by
      simp [Payment.chargesWithin, hsince]
    obtain ⟨hfst, hsnd⟩ := not_or.mp hpair
    simp only [hsince, hwithin, Bool.false_eq_true, if_false, Nat.add_zero]
    refine ⟨?_, h.le, h.window⟩
    rw [readyNano_startRegen_ne fun he => hfst he.symm,
      readyNano_startRegen_ne fun he => hsnd he.symm]
    exact h.paced.wait hnow

/-- The payments of one cost. -/
theorem charges {log : List Payment} (h : bar.Spaced rune a b now n k)
    (hlog : Charges bar log after) (hnow : now ≤ t.nanos) (htime : ∀ p ∈ log, p.time = t)
    (htold : ∀ p ∈ log, p.IsTold bar.fullCooldown) :
    after.Spaced rune a b t.nanos (n + log.countP (Payment.chargesSince rune a))
      (k + log.countP (Payment.chargesWithin rune a b)) := by
  induction hlog generalizing now n k with
  | done => exact h.wait hnow
  | charge i t' hready _ ih =>
    obtain rfl : t' = t := htime _ List.mem_cons_self
    have hone := h.charge hnow hready (htold _ List.mem_cons_self)
    have hrest := ih hone (Nat.le_refl _) (fun p hp => htime p (List.mem_cons_of_mem _ hp))
      fun p hp => htold p (List.mem_cons_of_mem _ hp)
    rw [List.countP_cons, List.countP_cons]
    rw [Nat.add_assoc, Nat.add_assoc] at hrest
    rw [Nat.add_comm (List.countP _ _), Nat.add_comm (List.countP _ _)]
    exact hrest

end Spaced

/-! ### Whole runs -/

theorem Charges.fullCooldown_eq {bar after : RuneBar} {log : List Payment}
    (h : Charges bar log after) : after.fullCooldown = bar.fullCooldown := by
  induction h with
  | done => rfl
  | charge i now _ _ ih => exact ih

/-- What a move does while the multiplier is left alone: either it spends at some instant, and
    its payments lead to the bar after it, or it pays nothing and moves no ready time. -/
theorem move_cases (bar : RuneBar) (m : Move) (hregen : m.keepsRegen = true) :
    (∃ now, m.time? = some now ∧ (∀ p ∈ bar.movePayments m, p.time = now) ∧
        Charges bar (bar.movePayments m) (bar.move m)) ∨
      m.time? = none ∧ bar.movePayments m = [] ∧
        (bar.move m).fullCooldown = bar.fullCooldown ∧
          ∀ i, (bar.move m).readyNano i = bar.readyNano i := by
  cases m with
  | spend cost now =>
    left
    refine ⟨now, rfl, ?_⟩
    cases hafford : bar.afford cost now with
    | error shortage =>
      have hlog : bar.movePayments (.spend cost now) = [] := by rw [movePayments, hafford]
      have hbar : bar.move (.spend cost now) = bar := by rw [move, spend, hafford]
      rw [hlog, hbar]
      exact ⟨fun p hp => absurd hp List.not_mem_nil, Charges.done bar⟩
    | ok u =>
      have hlog : bar.movePayments (.spend cost now) = payments now bar cost.runes := by
        rw [movePayments, hafford]
      have hbar : bar.move (.spend cost now) = bar.payList cost.runes now := by
        rw [move, spend_of_afford hafford]
      rw [hlog, hbar]
      exact ⟨fun p hp => time_of_mem_payments hp,
        ((bar.afford_eq_ok_iff cost now).mp hafford).charges⟩
  | convert slot =>
    right
    refine ⟨rfl, rfl, ?_⟩
    rw [move, convert?]
    split
    · refine ⟨rfl, ?_⟩
      intro i
      rw [Option.getD_some, readyNano, slot_withSlot]
      split
      · next hi => rw [hi]; rfl
      · rfl
    · exact ⟨rfl, fun _ => rfl⟩
  | regen multiplier => cases hregen

theorem fullCooldown_move {bar : RuneBar} {m : Move} (hregen : m.keepsRegen = true) :
    (bar.move m).fullCooldown = bar.fullCooldown := by
  rcases bar.move_cases m hregen with ⟨_, _, _, hcharges⟩ | ⟨_, _, hcooldown, _⟩
  · exact hcharges.fullCooldown_eq
  · exact hcooldown

theorem fullCooldown_run {bar : RuneBar} {moves : List Move}
    (hregen : ∀ m ∈ moves, m.keepsRegen = true) :
    (moves.foldl move bar).fullCooldown = bar.fullCooldown := by
  induction moves generalizing bar with
  | nil => rfl
  | cons m rest ih =>
    rw [List.foldl_cons, ih fun m' hm' => hregen m' (List.mem_cons_of_mem _ hm'),
      fullCooldown_move (hregen m List.mem_cons_self)]

/-- One move, at an instant that is not before `now`. -/
theorem Spaced.move {bar : RuneBar} {rune : BaseRune} {a b : Time} {now n k : Nat} {m : Move}
    (h : bar.Spaced rune a b now n k) (hregen : m.keepsRegen = true)
    (hnow : ∀ t ∈ m.time?, now ≤ t.nanos)
    (htold : ∀ p ∈ bar.movePayments m, p.IsTold bar.fullCooldown) :
    (bar.move m).Spaced rune a b (m.time?.elim now Time.nanos)
      (n + (bar.movePayments m).countP (Payment.chargesSince rune a))
      (k + (bar.movePayments m).countP (Payment.chargesWithin rune a b)) := by
  rcases bar.move_cases m hregen with ⟨t, ht, htime, hcharges⟩ | ⟨ht, hlog, hcooldown, hready⟩
  · rw [ht, Option.elim_some]
    exact h.charges hcharges (hnow t ht) htime htold
  · -- Nothing is paid, and the ready times stay where they are.
    rw [ht, hlog, Option.elim_none, List.countP_nil, List.countP_nil, Nat.add_zero, Nat.add_zero]
    refine ⟨?_, h.le, ?_⟩
    · rw [hready, hready, hcooldown]
      exact h.paced
    · rw [hcooldown]
      exact h.window

/-- A run of moves at instants that do not go back. -/
theorem Spaced.run {bar : RuneBar} {rune : BaseRune} {a b : Time} {now n k : Nat}
    {moves : List Move} (h : bar.Spaced rune a b now n k)
    (hregen : ∀ m ∈ moves, m.keepsRegen = true)
    (hnow : ∀ t ∈ moves.filterMap Move.time?, now ≤ t.nanos)
    (hsorted : (moves.filterMap Move.time?).Pairwise (· ≤ ·))
    (htold : ∀ p ∈ bar.runPayments moves, p.IsTold bar.fullCooldown) :
    ∃ last, (moves.foldl RuneBar.move bar).Spaced rune a b last
      (n + (bar.runPayments moves).countP (Payment.chargesSince rune a))
      (k + (bar.runPayments moves).countP (Payment.chargesWithin rune a b)) := by
  induction moves generalizing bar now n k with
  | nil => exact ⟨now, h⟩
  | cons m rest ih =>
    have hm : m.keepsRegen = true := hregen m List.mem_cons_self
    have hfirst : ∀ t ∈ m.time?, now ≤ t.nanos := by
      intro t ht
      exact hnow t (List.mem_filterMap.mpr ⟨m, List.mem_cons_self, ht⟩)
    have hone := h.move hm hfirst fun p hp => htold p (List.mem_append_left _ hp)
    -- The instants of the rest lie behind the one that the clock has reached now.
    have hrest : ∀ t ∈ rest.filterMap Move.time?, m.time?.elim now Time.nanos ≤ t.nanos := by
      intro t ht
      cases hat : m.time? with
      | none =>
        obtain ⟨m', hm', ht'⟩ := List.mem_filterMap.mp ht
        exact hnow t (List.mem_filterMap.mpr ⟨m', List.mem_cons_of_mem _ hm', ht'⟩)
      | some t' =>
        rw [List.filterMap_cons_some hat, List.pairwise_cons] at hsorted
        exact hsorted.1 t ht
    have hsorted' : (rest.filterMap Move.time?).Pairwise (· ≤ ·) :=
      hsorted.sublist ((List.sublist_cons_self m rest).filterMap _)
    obtain ⟨last, hlast⟩ := ih hone (fun m' hm' => hregen m' (List.mem_cons_of_mem _ hm')) hrest
      hsorted' fun p hp => by
        rw [fullCooldown_move hm]
        exact htold p (List.mem_append_right _ hp)
    refine ⟨last, ?_⟩
    rw [List.foldl_cons, runPayments, List.countP_append, List.countP_append, ← Nat.add_assoc,
      ← Nat.add_assoc]
    exact hlast

/-! ### The rate -/

theorem Charges.readyAt_of_mem {bar after : RuneBar} {log : List Payment}
    (h : Charges bar log after) {p : Payment} (hp : p ∈ log) :
    p.readyAt = max p.time p.partnerReadyAt + bar.fullCooldown := by
  induction h with
  | done => cases hp
  | charge i now _ _ ih =>
    rcases List.mem_cons.mp hp with rfl | hp
    · simp only [paymentOf, slot_startRegen, if_pos]
      rfl
    · exact ih hp

/-- Along a run each slot that is charged is ready one cooldown after the later of now and the
    ready time of its partner. -/
theorem readyAt_of_mem_runPayments {bar : RuneBar} {moves : List Move}
    (hregen : ∀ m ∈ moves, m.keepsRegen = true) {p : Payment} (hp : p ∈ bar.runPayments moves) :
    p.readyAt = max p.time p.partnerReadyAt + bar.fullCooldown := by
  induction moves generalizing bar with
  | nil => cases hp
  | cons m rest ih =>
    have hm : m.keepsRegen = true := hregen m List.mem_cons_self
    rcases List.mem_append.mp hp with hp | hp
    · rcases bar.move_cases m hm with ⟨_, _, _, hcharges⟩ | ⟨_, hlog, _⟩
      · exact hcharges.readyAt_of_mem hp
      · rw [hlog] at hp
        cases hp
    · rw [← fullCooldown_move hm]
      exact ih (fun m' hm' => hregen m' (List.mem_cons_of_mem _ hm')) hp

/-- Along a run of costs and conversions, at instants that do not go back and with ready times
    that can be told, a pair is charged twice in a window and then once more for each cooldown
    that fits in it; and whatever is charged takes a full cooldown from the charge on, and one
    from the return of its partner on. -/
theorem pair_rate_limited (bar : RuneBar) (moves : List Move)
    (hregen : ∀ m ∈ moves, m.keepsRegen = true)
    (hsorted : (moves.filterMap Move.time?).Pairwise (· ≤ ·))
    (htold : ∀ p ∈ bar.runPayments moves, p.IsTold bar.fullCooldown) :
    (∀ rune a b,
      ((bar.runPayments moves).countP (Payment.chargesWithin rune a b) - 2) *
        bar.fullCooldown.nanos ≤ b.nanos - a.nanos) ∧
    ∀ p ∈ bar.runPayments moves,
      p.time.nanos + bar.fullCooldown.nanos ≤ p.readyAt.nanos ∧
        p.partnerReadyAt.nanos + bar.fullCooldown.nanos ≤ p.readyAt.nanos := by
  constructor
  · intro rune a b
    have hstart : ∀ t ∈ moves.filterMap Move.time?, 0 ≤ t.nanos := fun t _ => Nat.zero_le _
    obtain ⟨last, hrun⟩ := (Spaced.start bar rune a b).run hregen hstart hsorted htold
    have hwindow := hrun.window
    rw [Nat.zero_add, fullCooldown_run hregen] at hwindow
    rw [Nat.sub_mul]
    rcases hwindow with hnone | hwindow
    · rw [hnone]
      omega
    · omega
  · intro p hp
    have hready : p.readyAt.nanos =
        max p.time.nanos p.partnerReadyAt.nanos + bar.fullCooldown.nanos := by
      rw [readyAt_of_mem_runPayments hregen hp, Time.nanos_add, Time.nanos_max]
      exact Nat.min_eq_left (htold p hp)
    omega

/-- A converted Blood slot pays for an Unholy rune at the start, its partner for a Blood rune
    a second later, and the first of them for another one as soon as it is back. -/
theorem pair_rate_limited_three_charges :
    let bar := RuneBar.new (Time.ofWholeSeconds 10)
    let moves : List Move := [.convert 0, .spend { unholy := 3 } Time.zero,
      .spend { blood := 1 } (Time.ofWholeSeconds 1),
      .spend { blood := 1 } (Time.ofWholeSeconds 10)]
    (bar.runPayments moves).countP
        (Payment.chargesWithin .blood Time.zero (Time.ofWholeSeconds 10)) = 3 ∧
      (3 - 2) * bar.fullCooldown.nanos ≤ (Time.ofWholeSeconds 10).nanos - Time.zero.nanos ∧
      ∀ p ∈ bar.runPayments moves, p.time.nanos + bar.fullCooldown.nanos ≤ p.readyAt.nanos := by
  intro bar moves
  have hregen : ∀ m ∈ moves, m.keepsRegen = true := by decide
  have hsorted : (moves.filterMap Move.time?).Pairwise (· ≤ ·) := by decide
  have htold : ∀ p ∈ bar.runPayments moves, p.IsTold bar.fullCooldown := by decide +kernel
  have hcount : (bar.runPayments moves).countP
      (Payment.chargesWithin .blood Time.zero (Time.ofWholeSeconds 10)) = 3 := by decide +kernel
  obtain ⟨hrate, hready⟩ := pair_rate_limited bar moves hregen hsorted htold
  have hwindow := hrate .blood Time.zero (Time.ofWholeSeconds 10)
  rw [hcount] at hwindow
  exact ⟨hcount, hwindow, fun p hp => (hready p hp).1⟩

end RuneBar

end ActionPriority
