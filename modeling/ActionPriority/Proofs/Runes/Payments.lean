import ActionPriority.Runes.Spending
import ActionPriority.Tally
import Mathlib.Data.Finset.Card
import Mathlib.Data.Fintype.Basic

/-! # Payments

    Spending a cost is a loop: for each rune that it asks for, one slot is looked for and
    charged.  Whether the loop can be carried out is decided beforehand, by counting.  This
    module ties the two together.

    * `RuneBar.payments` is the record of the loop: which slot was charged for each rune.
      A rune for which no slot was found leaves no record.
    * `RuneBar.Covers` is what the check establishes: the Death runes make up for all that
      the bases are short of.  It is an invariant of the loop, however long a slot takes to
      come back, so every rune finds a payer.
    * If a charged slot is not ready again at once, the counts go down by exactly what was
      paid, and only the charged slots change.
-/

namespace ActionPriority

/-! ### Costs rune by rune -/

namespace RuneCost

/-- The runes of a cost one by one, in the order in which they are paid for. -/
def runes (cost : RuneCost) : List BaseRune :=
  BaseRune.all.flatMap fun rune => List.replicate (cost.need rune) rune

/-- How many runes a cost asks for. -/
def total (cost : RuneCost) : Nat := cost.blood.toNat + cost.frost.toNat + cost.unholy.toNat

theorem length_runes (cost : RuneCost) : cost.runes.length = cost.total := by
  simp only [runes, total, BaseRune.all, need, List.flatMap_cons, List.flatMap_nil,
    List.length_append, List.length_replicate, List.length_nil]
  omega

theorem count_runes (cost : RuneCost) (rune : BaseRune) :
    cost.runes.count rune = cost.need rune := by
  cases rune <;> simp [runes, BaseRune.all, List.count_replicate]

end RuneCost

/-! ### The record of a payment -/

/-- One rune paid for. -/
structure Payment where
  /-- The slot that was charged. -/
  slot : Fin 6
  /-- When it was charged. -/
  time : Time
  /-- When the rune of its partner was, or is, ready. -/
  partnerReadyAt : Time
  /-- When its own rune is ready again. -/
  readyAt : Time

theorem BaseRune.mem_all (rune : BaseRune) : rune ∈ BaseRune.all := by
  cases rune <;> decide

namespace RuneBar

/-- The payment of one rune with slot `i` at `now`. -/
def paymentOf (bar : RuneBar) (i : Fin 6) (now : Time) : Payment where
  slot := i
  time := now
  partnerReadyAt := (bar.slot (partner i)).readyAt
  readyAt := ((bar.startRegen i now).slot i).readyAt

@[simp] theorem slot_paymentOf (bar : RuneBar) (i : Fin 6) (now : Time) :
    (bar.paymentOf i now).slot = i := rfl

@[simp] theorem time_paymentOf (bar : RuneBar) (i : Fin 6) (now : Time) :
    (bar.paymentOf i now).time = now := rfl

/-- The payments for the listed runes, one after another.  A rune that no slot can pay for
    leaves none. -/
def payments (now : Time) : RuneBar → List BaseRune → List Payment
  | _, [] => []
  | bar, rune :: rest =>
    match bar.payer? rune now with
    | some i => bar.paymentOf i now :: payments now (bar.startRegen i now) rest
    | none => payments now bar rest

/-- The payments of a log are made in order: each charges a slot that is ready just then, and
    together they lead from one bar to the other. -/
inductive Charges : RuneBar → List Payment → RuneBar → Prop where
  | done (bar : RuneBar) : Charges bar [] bar
  | charge {bar after : RuneBar} {log : List Payment} (i : Fin 6) (now : Time) :
      (bar.slot i).isReady now = true → Charges (bar.startRegen i now) log after →
        Charges bar (bar.paymentOf i now :: log) after

theorem pay_eq_foldl (bar : RuneBar) (rune : BaseRune) (now : Time) (n : Nat) :
    bar.pay rune now n =
      (List.replicate n rune).foldl (fun bar rune => bar.payOne rune now) bar := by
  induction n generalizing bar with
  | zero => rfl
  | succ n ih =>
    rw [List.replicate_succ, List.foldl_cons, ← ih]
    rfl

/-- The bar after paying for the listed runes. -/
def payList (bar : RuneBar) (runes : List BaseRune) (now : Time) : RuneBar :=
  runes.foldl (fun bar rune => bar.payOne rune now) bar

/-- Paying base by base is paying rune by rune. -/
theorem payAll_eq_payList (bar : RuneBar) (cost : RuneCost) (now : Time) :
    bar.payAll cost now = bar.payList cost.runes now := by
  unfold payAll payList RuneCost.runes
  rw [List.foldl_flatMap]
  simp only [pay_eq_foldl]

section Payer

variable {bar : RuneBar} {rune : BaseRune} {now : Time} {i : Fin 6}

theorem payments_of_payer (h : bar.payer? rune now = some i) (rest : List BaseRune) :
    payments now bar (rune :: rest) =
      bar.paymentOf i now :: payments now (bar.startRegen i now) rest := by
  rw [payments, h]

theorem payList_of_payer (h : bar.payer? rune now = some i) (rest : List BaseRune) :
    bar.payList (rune :: rest) now = (bar.startRegen i now).payList rest now := by
  unfold payList
  rw [List.foldl_cons, payOne, h]

end Payer

/-! ### Charging one slot -/

theorem slot_withSlot (bar : RuneBar) (i j : Fin 6) (s : RuneSlot) :
    (bar.withSlot i s).slot j = if j = i then s else bar.slot j := by
  unfold withSlot slot
  by_cases h : j = i
  · subst h
    simp
  · have hne : i.val ≠ j.val := fun he => h (Fin.ext he.symm)
    simp [h, Vector.getElem_set_ne, hne]

/-- Replacing slot `i` changes a count by what slot `i` counts for before and after. -/
theorem count_withSlot (bar : RuneBar) (i : Fin 6) (s : RuneSlot) (p : RuneSlot → Bool) :
    (bar.withSlot i s).count p + (if p (bar.slot i) then 1 else 0) =
      bar.count p + (if p s then 1 else 0) := by
  have hset : (bar.withSlot i s).count p =
      bar.count p - (if p (bar.slot i) then 1 else 0) + (if p s then 1 else 0) :=
    Vector.countP_set i.isLt
  have hle : (if p (bar.slot i) then 1 else 0) ≤ bar.count p := by
    split
    · next h => exact Vector.countP_pos_iff.mpr ⟨bar.slot i, Vector.getElem_mem .., h⟩
    · exact Nat.zero_le _
  omega

/-- The slot after it has been charged. -/
def spentSlot (bar : RuneBar) (i : Fin 6) (now : Time) : RuneSlot where
  base := (bar.slot i).base
  death := false
  readyAt := max now (bar.slot (partner i)).readyAt + bar.fullCooldown

theorem slot_startRegen (bar : RuneBar) (i j : Fin 6) (now : Time) :
    (bar.startRegen i now).slot j = if j = i then bar.spentSlot i now else bar.slot j :=
  slot_withSlot ..

/-- Charging slot `i` changes a count by what slot `i` counts for before and after. -/
theorem count_startRegen (bar : RuneBar) (i : Fin 6) (now : Time) (p : RuneSlot → Bool) :
    (bar.startRegen i now).count p + (if p (bar.slot i) then 1 else 0) =
      bar.count p + (if p (bar.spentSlot i now) then 1 else 0) :=
  bar.count_withSlot i (bar.spentSlot i now) p

/-- A charged slot is ready again at once only if nothing holds it up: neither the length of
    a cooldown, unless the clock cannot tell it any more, nor its partner. -/
theorem not_isReady_spentSlot {bar : RuneBar} {now : Time} (i : Fin 6)
    (h : now < now + bar.fullCooldown) : (bar.spentSlot i now).isReady now = false := by
  simp only [spentSlot, RuneSlot.isReady, decide_eq_false_iff_not, Time.le_def, Time.lt_def,
    Time.nanos_add, Time.nanos_max] at *
  omega

/-! ### Who pays -/

theorem isNatural_iff {rune : BaseRune} {now : Time} {s : RuneSlot} :
    isNatural rune now s = true ↔ s.base = rune ∧ s.death = false ∧ s.isReady now = true := by
  simp [isNatural, and_assoc]

theorem isReadyDeath_iff {now : Time} {s : RuneSlot} :
    isReadyDeath now s = true ↔ s.death = true ∧ s.isReady now = true := by
  simp [isReadyDeath]

/-- What was found by a test passes it. -/
theorem getElem_of_findFinIdx? {α : Type} {n : Nat} {slots : Vector α n} {p : α → Bool}
    {i : Fin n} (h : slots.findFinIdx? p = some i) : p slots[i] = true := by
  obtain ⟨slots, rfl⟩ := slots
  rw [Vector.findFinIdx?_mk] at h
  have hfound : slots.findFinIdx? p = some i := by simpa using h
  exact (Array.findFinIdx?_eq_some_iff.mp hfound).1

/-- A payer holds a rune of the base, or a Death rune where the base has no rune left. -/
theorem payer?_eq_some {bar : RuneBar} {rune : BaseRune} {now : Time} {i : Fin 6}
    (h : bar.payer? rune now = some i) :
    isNatural rune now (bar.slot i) = true ∨
      bar.natural rune now = 0 ∧ isReadyDeath now (bar.slot i) = true := by
  unfold payer? at h
  cases hown : bar.slots.findFinIdx? (isNatural rune now) with
  | some j =>
    rw [hown, Option.some_or] at h
    cases h
    exact Or.inl (getElem_of_findFinIdx? hown)
  | none =>
    rw [hown, Option.none_or] at h
    have hnone := Vector.findFinIdx?_eq_none_iff.mp hown
    exact Or.inr ⟨Vector.countP_eq_zero.mpr hnone, getElem_of_findFinIdx? h⟩

/-- Whoever pays is ready. -/
theorem isReady_of_payer {bar : RuneBar} {rune : BaseRune} {now : Time} {i : Fin 6}
    (h : bar.payer? rune now = some i) : (bar.slot i).isReady now = true := by
  rcases payer?_eq_some h with hown | ⟨_, hdeath⟩
  · exact (isNatural_iff.mp hown).2.2
  · exact (isReadyDeath_iff.mp hdeath).2

/-- Where nobody pays, there is neither a rune of the base nor a Death rune. -/
theorem payer?_eq_none {bar : RuneBar} {rune : BaseRune} {now : Time}
    (h : bar.payer? rune now = none) : bar.natural rune now = 0 ∧ bar.deaths now = 0 := by
  unfold payer? at h
  obtain ⟨hown, hdeath⟩ := Option.or_eq_none_iff.mp h
  exact ⟨Vector.countP_eq_zero.mpr (Vector.findFinIdx?_eq_none_iff.mp hown),
    Vector.countP_eq_zero.mpr (Vector.findFinIdx?_eq_none_iff.mp hdeath)⟩

/-! ### What a payment takes -/

section Charge

variable {bar : RuneBar} {rune : BaseRune} {now : Time} {i : Fin 6}

/-- A rune of a base that pays is missing there, unless it is ready again at once. -/
theorem natural_of_natural_payer (h : isNatural rune now (bar.slot i) = true) (r : BaseRune) :
    (bar.startRegen i now).natural r now + (if r = rune then 1 else 0) =
      bar.natural r now + (if isNatural r now (bar.spentSlot i now) then 1 else 0) := by
  have hcount := bar.count_startRegen i now (isNatural r now)
  have hslot : isNatural r now (bar.slot i) = true ↔ r = rune := by
    obtain ⟨hbase, hdeath, hready⟩ := isNatural_iff.mp h
    rw [isNatural_iff, hbase, hdeath, hready]
    exact ⟨fun h => h.1.symm, fun h => ⟨h.symm, rfl, rfl⟩⟩
  simp only [hslot] at hcount
  exact hcount

/-- A Death rune that pays is missing from no base, and turns up in its own if it is ready
    again at once. -/
theorem natural_of_death_payer (h : isReadyDeath now (bar.slot i) = true) (r : BaseRune) :
    (bar.startRegen i now).natural r now =
      bar.natural r now + (if isNatural r now (bar.spentSlot i now) then 1 else 0) := by
  have hcount := bar.count_startRegen i now (isNatural r now)
  have hslot : isNatural r now (bar.slot i) = false := by
    rw [isNatural, (isReadyDeath_iff.mp h).1]
    simp
  simp only [hslot, Bool.false_eq_true, if_false, Nat.add_zero] at hcount
  exact hcount

/-- A charged slot holds no Death rune any more. -/
theorem deaths_startRegen (bar : RuneBar) (i : Fin 6) (now : Time) :
    (bar.startRegen i now).deaths now + (if isReadyDeath now (bar.slot i) then 1 else 0) =
      bar.deaths now := by
  have hcount := bar.count_startRegen i now (isReadyDeath now)
  have hspent : isReadyDeath now (bar.spentSlot i now) = false := rfl
  simp only [hspent, Bool.false_eq_true, if_false, Nat.add_zero] at hcount
  exact hcount

theorem deaths_of_natural_payer (h : isNatural rune now (bar.slot i) = true) :
    (bar.startRegen i now).deaths now = bar.deaths now := by
  have hdeaths := bar.deaths_startRegen i now
  have hslot : isReadyDeath now (bar.slot i) = false := by
    rw [isReadyDeath, (isNatural_iff.mp h).2.1]
    rfl
  rw [hslot] at hdeaths
  simpa using hdeaths

theorem deaths_of_death_payer (h : isReadyDeath now (bar.slot i) = true) :
    (bar.startRegen i now).deaths now + 1 = bar.deaths now := by
  have hdeaths := bar.deaths_startRegen i now
  rw [h] at hdeaths
  simpa using hdeaths

end Charge

/-! ### The check covers the loop -/

/-- How many of the listed runes the bases cannot pay for themselves. -/
def shortfall (bar : RuneBar) (runes : List BaseRune) (now : Time) : Nat :=
  tally (fun rune => runes.count rune - bar.natural rune now) BaseRune.all

/-- The Death runes make up for what the bases are short of. -/
def Covers (bar : RuneBar) (runes : List BaseRune) (now : Time) : Prop :=
  bar.shortfall runes now ≤ bar.deaths now

/-- The check goes through the bases with a budget of Death runes; it passes if the budget
    lasts for all of them together. -/
theorem affordFrom_eq_ok_iff (bar : RuneBar) (cost : RuneCost) (now : Time)
    (bases : List BaseRune) (deaths : Nat) :
    bar.affordFrom cost now bases deaths = .ok () ↔
      tally (fun rune => cost.need rune - bar.natural rune now) bases ≤ deaths := by
  induction bases generalizing deaths with
  | nil => simp [affordFrom, tally]
  | cons rune rest ih =>
    simp only [affordFrom, tally]
    split
    · next hshort =>
      constructor
      · intro h
        cases h
      · intro h
        omega
    · next hshort =>
      rw [ih]
      omega

theorem afford_eq_ok_iff (bar : RuneBar) (cost : RuneCost) (now : Time) :
    bar.afford cost now = .ok () ↔ bar.Covers cost.runes now := by
  unfold afford Covers shortfall
  rw [affordFrom_eq_ok_iff]
  simp only [RuneCost.count_runes]

/-- What is covered finds a payer for its first rune. -/
theorem exists_payer {bar : RuneBar} {rune : BaseRune} {rest : List BaseRune} {now : Time}
    (h : bar.Covers (rune :: rest) now) : ∃ i, bar.payer? rune now = some i := by
  cases hpayer : bar.payer? rune now with
  | some i => exact ⟨i, rfl⟩
  | none =>
    -- Then the base is short of this rune at least, and there is no Death rune to make up.
    exfalso
    obtain ⟨hown, hdeaths⟩ := payer?_eq_none hpayer
    have hcount : 0 < (rune :: rest).count rune := List.count_pos_iff.mpr List.mem_cons_self
    have hshort : (rune :: rest).count rune - bar.natural rune now ≤
        bar.shortfall (rune :: rest) now :=
      le_tally (f := fun r => (rune :: rest).count r - bar.natural r now) rune.mem_all
    unfold Covers at h
    omega

/-- The first rune counts for its own base. -/
theorem count_cons_eq (rune : BaseRune) (rest : List BaseRune) (r : BaseRune) :
    (rune :: rest).count r = rest.count r + (if r = rune then 1 else 0) := by
  simp only [List.count_cons, beq_iff_eq, eq_comm (a := r)]

/-- A rune that its base pays for leaves the bases no shorter of the rest. -/
theorem shortfall_of_natural_payer {bar : RuneBar} {rune : BaseRune} {now : Time} {i : Fin 6}
    (h : isNatural rune now (bar.slot i) = true) (rest : List BaseRune) :
    (bar.startRegen i now).shortfall rest now ≤ bar.shortfall (rune :: rest) now := by
  apply tally_le
  intro r _
  have hnatural := natural_of_natural_payer h r
  rw [count_cons_eq]
  omega

/-- A rune that a Death rune pays for is one that the bases were short of. -/
theorem shortfall_of_death_payer {bar : RuneBar} {rune : BaseRune} {now : Time} {i : Fin 6}
    (hnone : bar.natural rune now = 0) (h : isReadyDeath now (bar.slot i) = true)
    (rest : List BaseRune) :
    (bar.startRegen i now).shortfall rest now < bar.shortfall (rune :: rest) now := by
  have hnatural := natural_of_death_payer h
  apply tally_lt
  · intro r _
    have hr := hnatural r
    rw [List.count_cons]
    omega
  · refine ⟨rune, rune.mem_all, ?_⟩
    have hrune := hnatural rune
    rw [List.count_cons_self]
    omega

/-- Each payment leaves the rest of the runes covered. -/
theorem Covers.startRegen {bar : RuneBar} {rune : BaseRune} {rest : List BaseRune} {now : Time}
    {i : Fin 6} (h : bar.Covers (rune :: rest) now) (hpayer : bar.payer? rune now = some i) :
    (bar.startRegen i now).Covers rest now := by
  unfold Covers at *
  rcases payer?_eq_some hpayer with hown | ⟨hnone, hdeath⟩
  · have hless := shortfall_of_natural_payer hown rest
    have hdeaths := deaths_of_natural_payer hown
    omega
  · have hless := shortfall_of_death_payer hnone hdeath rest
    have hdeaths := deaths_of_death_payer hdeath
    omega

/-- Of runes that are covered each finds a slot to charge, also where slots are ready again at
    once. -/
theorem Covers.length_payments {bar : RuneBar} {runes : List BaseRune} {now : Time}
    (h : bar.Covers runes now) : (payments now bar runes).length = runes.length := by
  induction runes generalizing bar with
  | nil => rfl
  | cons rune rest ih =>
    obtain ⟨i, hpayer⟩ := exists_payer h
    rw [payments_of_payer hpayer, List.length_cons, List.length_cons, ih (h.startRegen hpayer)]

/-- The payments of covered runes lead to the bar that paying leaves. -/
theorem Covers.charges {bar : RuneBar} {runes : List BaseRune} {now : Time}
    (h : bar.Covers runes now) :
    Charges bar (payments now bar runes) (bar.payList runes now) := by
  induction runes generalizing bar with
  | nil => exact Charges.done bar
  | cons rune rest ih =>
    obtain ⟨i, hpayer⟩ := exists_payer h
    rw [payments_of_payer hpayer, payList_of_payer hpayer]
    exact Charges.charge i now (isReady_of_payer hpayer) (ih (h.startRegen hpayer))

/-! ### Exact counts

    From here on a charged slot is not ready again at once. -/

theorem not_isNatural_spentSlot {bar : RuneBar} {now : Time} (i : Fin 6)
    (h : now < now + bar.fullCooldown) (r : BaseRune) :
    isNatural r now (bar.spentSlot i now) = false := by
  rw [isNatural, not_isReady_spentSlot i h, Bool.and_false]

/-- Each base loses what it was asked for, as far as it had it. -/
theorem Covers.natural_payList {bar : RuneBar} {runes : List BaseRune} {now : Time}
    (h : bar.Covers runes now) (hnow : now < now + bar.fullCooldown) (r : BaseRune) :
    (bar.payList runes now).natural r now + min (bar.natural r now) (runes.count r) =
      bar.natural r now := by
  induction runes generalizing bar with
  | nil => simp [payList]
  | cons rune rest ih =>
    obtain ⟨i, hpayer⟩ := exists_payer h
    have hrest := ih (h.startRegen hpayer) hnow
    have hspent := not_isNatural_spentSlot i hnow r
    rw [payList_of_payer hpayer, List.count_cons]
    rcases payer?_eq_some hpayer with hown | ⟨hnone, hdeath⟩
    · -- The base has paid for itself.
      have hnatural := natural_of_natural_payer hown r
      simp only [hspent, Bool.false_eq_true, if_false, Nat.add_zero] at hnatural
      by_cases hr : r = rune
      · subst hr
        simp only [beq_self_eq_true, if_true] at *
        omega
      · have hne : ¬ rune = r := fun he => hr he.symm
        simp only [hr, hne, beq_iff_eq, if_false] at *
        omega
    · -- The base had nothing left, and a Death rune has paid.
      have hnatural := natural_of_death_payer hdeath r
      simp only [hspent, Bool.false_eq_true, if_false, Nat.add_zero] at hnatural
      by_cases hr : r = rune
      · subst hr
        omega
      · have hne : ¬ rune = r := fun he => hr he.symm
        simp only [hne, beq_iff_eq, if_false]
        omega

/-- The Death runes lose what the bases were short of. -/
theorem Covers.deaths_payList {bar : RuneBar} {runes : List BaseRune} {now : Time}
    (h : bar.Covers runes now) (hnow : now < now + bar.fullCooldown) :
    (bar.payList runes now).deaths now + bar.shortfall runes now = bar.deaths now := by
  induction runes generalizing bar with
  | nil => simp [payList, shortfall, tally, BaseRune.all]
  | cons rune rest ih =>
    obtain ⟨i, hpayer⟩ := exists_payer h
    have hrest := ih (h.startRegen hpayer) hnow
    have hspent := not_isNatural_spentSlot i hnow
    rw [payList_of_payer hpayer]
    rcases payer?_eq_some hpayer with hown | ⟨hnone, hdeath⟩
    · -- Of this rune the bases were not short.
      have hpaid : bar.shortfall (rune :: rest) now = (bar.startRegen i now).shortfall rest now := by
        apply tally_congr
        intro r _
        have hnatural := natural_of_natural_payer hown r
        simp only [hspent, Bool.false_eq_true, if_false, Nat.add_zero] at hnatural
        rw [count_cons_eq]
        omega
      have hdeaths := deaths_of_natural_payer hown
      omega
    · -- They were short of it, and there is one Death rune fewer.
      have hnatural := natural_of_death_payer hdeath
      simp only [hspent, Bool.false_eq_true, if_false, Nat.add_zero] at hnatural
      have hpaid : bar.shortfall (rune :: rest) now =
          (bar.startRegen i now).shortfall rest now + 1 := by
        refine tally_eq_add (a := rune) (by decide) rune.mem_all ?_ ?_
        · rw [List.count_cons_self, hnatural, hnone]
          rfl
        · intro r _ hr
          rw [List.count_cons_of_ne (Ne.symm hr), hnatural]
      have hdeaths := deaths_of_death_payer hdeath
      omega

/-! ### The slots that paid -/

theorem time_of_mem_payments {now : Time} {bar : RuneBar} {runes : List BaseRune} {p : Payment}
    (h : p ∈ payments now bar runes) : p.time = now := by
  induction runes generalizing bar with
  | nil => cases h
  | cons rune rest ih =>
    rw [payments] at h
    split at h
    · rcases List.mem_cons.mp h with rfl | h
      · rfl
      · exact ih h
    · exact ih h

/-- A slot that was not charged is left alone. -/
theorem Charges.slot_of_not_mem {bar after : RuneBar} {log : List Payment} {j : Fin 6}
    (h : Charges bar log after) (hj : j ∉ log.map Payment.slot) :
    after.slot j = bar.slot j := by
  induction h with
  | done => rfl
  | charge i now _ _ ih =>
    rw [List.map_cons, List.mem_cons, not_or, slot_paymentOf] at hj
    rw [ih hj.2, slot_startRegen, if_neg hj.1]

section AtOnce

variable {bar after : RuneBar} {log : List Payment} {now : Time}

/-- Of payments at one instant each takes a slot that was ready from the start. -/
theorem Charges.isReady_of_mem (h : Charges bar log after) (htime : ∀ p ∈ log, p.time = now)
    (hnow : now < now + bar.fullCooldown) {p : Payment} (hp : p ∈ log) :
    (bar.slot p.slot).isReady now = true := by
  induction h with
  | done => cases hp
  | charge i now' hready hlog ih =>
    obtain rfl : now' = now := htime _ List.mem_cons_self
    rcases List.mem_cons.mp hp with rfl | hp
    · exact hready
    · have hrest := ih (fun q hq => htime q (List.mem_cons_of_mem _ hq)) hnow hp
      rw [slot_startRegen] at hrest
      split at hrest
      · -- The slot just charged is not ready again yet.
        rw [not_isReady_spentSlot i hnow] at hrest
        cases hrest
      · exact hrest

/-- No slot pays twice at one instant. -/
theorem Charges.nodup (h : Charges bar log after) (htime : ∀ p ∈ log, p.time = now)
    (hnow : now < now + bar.fullCooldown) : (log.map Payment.slot).Nodup := by
  induction h with
  | done => exact List.nodup_nil
  | charge i now' hready hlog ih =>
    obtain rfl : now' = now := htime _ List.mem_cons_self
    have htime' := fun q hq => htime q (List.mem_cons_of_mem _ hq)
    rw [List.map_cons, List.nodup_cons]
    refine ⟨?_, ih htime' hnow⟩
    intro hmem
    obtain ⟨p, hp, hslot⟩ := List.mem_map.mp hmem
    have hagain := hlog.isReady_of_mem htime' hnow hp
    rw [hslot, slot_paymentOf, slot_startRegen, if_pos rfl, not_isReady_spentSlot i hnow] at hagain
    cases hagain

/-- A slot that paid is not ready any more, and holds no Death rune. -/
theorem Charges.slot_of_mem (h : Charges bar log after) (htime : ∀ p ∈ log, p.time = now)
    (hnow : now < now + bar.fullCooldown) {p : Payment} (hp : p ∈ log) :
    (after.slot p.slot).isReady now = false ∧ (after.slot p.slot).death = false ∧
      (after.slot p.slot).base = (bar.slot p.slot).base := by
  have hnodup := h.nodup htime hnow
  induction h with
  | done => cases hp
  | charge i now' hready hlog ih =>
    obtain rfl : now' = now := htime _ List.mem_cons_self
    have htime' := fun q hq => htime q (List.mem_cons_of_mem _ hq)
    rw [List.map_cons, List.nodup_cons] at hnodup
    rcases List.mem_cons.mp hp with rfl | hp
    · rw [hlog.slot_of_not_mem hnodup.1, slot_paymentOf, slot_startRegen, if_pos rfl]
      exact ⟨not_isReady_spentSlot i hnow, rfl, rfl⟩
    · obtain ⟨hgone, hdeath, hbase⟩ := ih htime' hnow hp hnodup.2
      refine ⟨hgone, hdeath, ?_⟩
      rw [hbase, slot_startRegen]
      split
      · next hi => rw [hi]; rfl
      · rfl

end AtOnce

/-- The slots that were ready and are coming back. -/
def spentSlots (before after : RuneBar) (now : Time) : Finset (Fin 6) :=
  Finset.univ.filter fun i =>
    (before.slot i).isReady now = true ∧ (after.slot i).isReady now = false

/-- The slots that went from ready to coming back are those that were charged. -/
theorem Charges.mem_spentSlots {bar after : RuneBar} {log : List Payment} {now : Time}
    (h : Charges bar log after) (htime : ∀ p ∈ log, p.time = now)
    (hnow : now < now + bar.fullCooldown) (i : Fin 6) :
    i ∈ spentSlots bar after now ↔ i ∈ log.map Payment.slot := by
  rw [spentSlots, Finset.mem_filter]
  constructor
  · rintro ⟨-, hbefore, hafter⟩
    by_contra hi
    rw [h.slot_of_not_mem hi, hbefore] at hafter
    cases hafter
  · intro hi
    obtain ⟨p, hp, rfl⟩ := List.mem_map.mp hi
    exact ⟨Finset.mem_univ _, h.isReady_of_mem htime hnow hp, (h.slot_of_mem htime hnow hp).1⟩

/-- As many slots went from ready to coming back as there were payments. -/
theorem Charges.card_spentSlots {bar after : RuneBar} {log : List Payment} {now : Time}
    (h : Charges bar log after) (htime : ∀ p ∈ log, p.time = now)
    (hnow : now < now + bar.fullCooldown) : (spentSlots bar after now).card = log.length := by
  have hset : spentSlots bar after now = (log.map Payment.slot).toFinset := by
    ext i
    rw [h.mem_spentSlots htime hnow, List.mem_toFinset]
  rw [hset, List.toFinset_card_of_nodup (h.nodup htime hnow), List.length_map]

/-! ### Spending is exact -/

/-- What can be done to a rune bar. -/
inductive Move where
  | spend (cost : RuneCost) (now : Time)
  | convert (slot : Nat)
  | regen (multiplier : Float)

/-- The bar after a move.  A cost that cannot be paid and a slot that does not exist change
    nothing. -/
def move (bar : RuneBar) : Move → RuneBar
  | .spend cost now =>
    match bar.spend cost now with
    | .ok after => after
    | .error _ => bar
  | .convert slot => (bar.convert? slot).getD bar
  | .regen multiplier => bar.withRegen multiplier

theorem spend_of_afford {bar : RuneBar} {cost : RuneCost} {now : Time}
    (h : bar.afford cost now = .ok ()) :
    bar.spend cost now = .ok (bar.payList cost.runes now) := by
  rw [spend, h, payAll_eq_payList]

/-- What is paid for a cost by a bar on which no spent rune is ready again at once. -/
structure PaidFor (before after : RuneBar) (cost : RuneCost) (now : Time) : Prop where
  /-- Each base loses what it is asked for, as far as it has it. -/
  natural : ∀ rune, after.natural rune now + min (before.natural rune now) (cost.need rune) =
    before.natural rune now
  /-- Death runes make up for the rest. -/
  deaths : after.deaths now +
    tally (fun rune => cost.need rune - before.natural rune now) BaseRune.all =
      before.deaths now
  /-- One slot is spent for each rune of the cost. -/
  card_spent : (spentSlots before after now).card = cost.total
  /-- A spent slot holds no Death rune. -/
  spent : ∀ i ∈ spentSlots before after now, (after.slot i).death = false
  /-- Every other slot is as before. -/
  others : ∀ i ∉ spentSlots before after now, after.slot i = before.slot i

theorem paidFor_payList {bar : RuneBar} {cost : RuneCost} {now : Time}
    (h : bar.Covers cost.runes now) (hnow : now < now + bar.fullCooldown) :
    PaidFor bar (bar.payList cost.runes now) cost now := by
  have hcharges := h.charges
  have htime : ∀ p ∈ payments now bar cost.runes, p.time = now :=
    fun p hp => time_of_mem_payments hp
  refine ⟨?_, ?_, ?_, ?_, ?_⟩
  · intro rune
    have hnatural := h.natural_payList hnow rune
    rwa [RuneCost.count_runes] at hnatural
  · have hdeaths := h.deaths_payList hnow
    unfold shortfall at hdeaths
    simpa only [RuneCost.count_runes] using hdeaths
  · rw [hcharges.card_spentSlots htime hnow, h.length_payments, RuneCost.length_runes]
  · intro i hi
    obtain ⟨p, hp, rfl⟩ := List.mem_map.mp ((hcharges.mem_spentSlots htime hnow i).mp hi)
    exact (hcharges.slot_of_mem htime hnow hp).2.1
  · intro i hi
    rw [hcharges.mem_spentSlots htime hnow] at hi
    exact hcharges.slot_of_not_mem hi

/-- A cost that is refused changes nothing.  A cost that is accepted is paid in full, one ready
    slot being charged for each of its runes; and if no slot is ready again at once, exactly
    these slots change, and the counts go down by exactly what was paid. -/
theorem spend_exact (bar : RuneBar) (cost : RuneCost) (now : Time) :
    (∀ shortage, bar.afford cost now = .error shortage →
      bar.spend cost now = .error shortage ∧ bar.move (.spend cost now) = bar) ∧
    (bar.afford cost now = .ok () →
      ∃ after, bar.spend cost now = .ok after ∧
        Charges bar (payments now bar cost.runes) after ∧
        (payments now bar cost.runes).length = cost.total ∧
        (now < now + bar.fullCooldown → PaidFor bar after cost now)) := by
  constructor
  · intro shortage hrefused
    have hspend : bar.spend cost now = .error shortage := by rw [spend, hrefused]
    refine ⟨hspend, ?_⟩
    rw [move, hspend]
  · intro hok
    have hcovers : bar.Covers cost.runes now := (bar.afford_eq_ok_iff cost now).mp hok
    refine ⟨bar.payList cost.runes now, spend_of_afford hok, hcovers.charges, ?_, ?_⟩
    · rw [hcovers.length_payments, RuneCost.length_runes]
    · exact paidFor_payList hcovers

/-- A fresh bar of which one Blood rune has been converted pays for three Unholy runes. -/
theorem spend_exact_three_unholy :
    let bar := (RuneBar.new (Time.ofWholeSeconds 10)).move (.convert 0)
    let cost : RuneCost := { unholy := 3 }
    bar.afford cost Time.zero = .ok () ∧ Time.zero < Time.zero + bar.fullCooldown ∧
      ∃ after, bar.spend cost Time.zero = .ok after ∧
        (payments Time.zero bar cost.runes).length = 3 ∧ PaidFor bar after cost Time.zero := by
  intro bar cost
  have hok : bar.afford cost Time.zero = .ok () := by decide
  have hlong : Time.zero < Time.zero + bar.fullCooldown := by decide +kernel
  obtain ⟨after, hspend, _, hlength, hpaid⟩ := (spend_exact bar cost Time.zero).2 hok
  exact ⟨hok, hlong, after, hspend, hlength, hpaid hlong⟩

end RuneBar

end ActionPriority
