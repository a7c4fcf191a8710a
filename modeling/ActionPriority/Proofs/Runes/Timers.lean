import ActionPriority.Condition.Node
import ActionPriority.Proofs.Encounter.Steps

/-! # Rune Timers

    A timer of a base reads the ready times of two slots, which it finds by their places.  A
    count goes through all slots and looks at what they hold.  That they tell the same rests on
    two facts.

    * Each slot grows the rune of the base to which its place belongs.  A new bar is laid out
      like that, no move changes it (`RuneBar.base_move`), and so it holds after any run of
      moves (`RuneBar.paired_run`).
    * The next return of a slot is told by what holds of it, not by a computation
      (`RuneBar.NextReturn`): up to it none of the two slots changes, and at it one is ready
      that was not.

    A timer is asked at one instant, and what it tells is about later ones, at which the bar has
    been left alone (`Encounter.HasBar`).  `RuneBar.timers_tell_counts` puts all of it together.
-/

namespace ActionPriority

/-! ### Waiting -/

/-- Waiting for as long as it is until an instant leads there, unless it has passed. -/
theorem Time.add_till (now t : Time) : now + now.till t = max now t := by
  have hlast := t.nanos_le
  have hnow := now.nanos_le
  apply Time.ext
  rw [Time.nanos_add, Time.nanos_till, Time.nanos_max]
  omega

theorem Time.till_eq_zero_iff {now t : Time} : now.till t = Time.zero ↔ t ≤ now := by
  rw [Time.ext_iff, Time.nanos_till, Time.nanos_zero, Time.le_def]
  omega

namespace RuneBar

/-! ### The layout of a bar -/

/-- Each slot grows the rune of the base to which its place belongs. -/
def Paired (bar : RuneBar) : Prop :=
  ∀ rune, (bar.slot rune.slots.1).base = rune ∧ (bar.slot rune.slots.2).base = rune

section Layout

variable {bar after : RuneBar}

/-- A slot that is charged still grows the same rune. -/
theorem base_startRegen (bar : RuneBar) (i j : Fin 6) (now : Time) :
    ((bar.startRegen i now).slot j).base = (bar.slot j).base := by
  rw [slot_startRegen]
  by_cases hj : j = i
  · rw [if_pos hj, hj]
    rfl
  · rw [if_neg hj]

theorem Charges.base_eq {log : List Payment} (h : Charges bar log after) (j : Fin 6) :
    (after.slot j).base = (bar.slot j).base := by
  induction h with
  | done => rfl
  | charge i now _ _ ih => rw [ih, base_startRegen]

/-- No move makes a slot grow another rune: not even one that marks its rune as a Death rune. -/
theorem base_move (bar : RuneBar) (m : Move) (j : Fin 6) :
    ((bar.move m).slot j).base = (bar.slot j).base := by
  cases m with
  | spend cost now =>
    cases hafford : bar.afford cost now with
    | error shortage =>
      have hbar : bar.move (.spend cost now) = bar := by simp [move, spend, hafford]
      rw [hbar]
    | ok u =>
      have hbar : bar.move (.spend cost now) = bar.payList cost.runes now := by
        simp [move, spend_of_afford hafford]
      rw [hbar]
      exact ((bar.afford_eq_ok_iff cost now).mp hafford).charges.base_eq j
  | convert slot =>
    rw [move, convert?]
    by_cases hslot : slot < 6
    · rw [dif_pos hslot, Option.getD_some, slot_withSlot]
      by_cases hj : j = ⟨slot, hslot⟩
      · rw [if_pos hj, hj]
      · rw [if_neg hj]
    · rw [dif_neg hslot]
      rfl
  | regen multiplier => rfl

theorem paired_new (cooldown : Time) : (new cooldown).Paired := by
  intro rune
  cases rune <;> exact ⟨rfl, rfl⟩

theorem Paired.move (h : bar.Paired) (m : Move) : (bar.move m).Paired := by
  intro rune
  rw [base_move, base_move]
  exact h rune

/-- Every bar that has been set up and moved in whatever way is laid out in pairs. -/
theorem paired_run (cooldown : Time) (moves : List Move) :
    (moves.foldl RuneBar.move (new cooldown)).Paired := by
  have hrun : ∀ bar : RuneBar, bar.Paired → (moves.foldl RuneBar.move bar).Paired := by
    induction moves with
    | nil => exact fun _ h => h
    | cons m rest ih => exact fun bar h => ih _ (h.move m)
  exact hrun _ (paired_new cooldown)

end Layout

/-! ### Ready runes of a pair -/

section Ready

variable {bar : RuneBar} {rune : BaseRune} {now : Time} {i : Fin 6}

/-- A rune that is ready counts for its base, as one of its own or as a Death rune. -/
theorem ready_pos (hbase : (bar.slot i).base = rune) (hready : (bar.slot i).isReady now = true) :
    0 < bar.ready (.base rune) now := by
  have hmem : bar.slot i ∈ bar.slots := Vector.getElem_mem ..
  show 0 < bar.natural rune now + bar.deaths now
  cases hdeath : (bar.slot i).death with
  | true =>
    have hpos : 0 < bar.deaths now :=
      Vector.countP_pos_iff.mpr ⟨_, hmem, isReadyDeath_iff.mpr ⟨hdeath, hready⟩⟩
    omega
  | false =>
    have hpos : 0 < bar.natural rune now :=
      Vector.countP_pos_iff.mpr ⟨_, hmem, isNatural_iff.mpr ⟨hbase, hdeath, hready⟩⟩
    omega

/-- The count of a base does not overflow: there are six slots. -/
theorem ready_le (bar : RuneBar) (rune : BaseRune) (now : Time) :
    bar.ready (.base rune) now ≤ 12 := by
  have hown : bar.natural rune now ≤ 6 := Vector.countP_le_size
  have hdeaths : bar.deaths now ≤ 6 := Vector.countP_le_size
  show bar.natural rune now + bar.deaths now ≤ 12
  omega

theorem isActive_iff (bar : RuneBar) (i : Fin 6) (now : Time) :
    bar.isActive i now = true ↔ (bar.slot i).readyAt ≤ now := by
  have hslot : bar.slot? i = some (bar.slot i) := Vector.getElem?_eq_getElem i.isLt
  rw [isActive, hslot]
  exact decide_eq_true_iff

end Ready

/-! ### The next return -/

/-- The instant is the next one at which one of two slots returns, which are ready at `a` and at
    `b`.  It is `now` if neither is still to return. -/
structure NextReturn (now a b t : Time) : Prop where
  le : now ≤ t
  eq_now_iff : t = now ↔ a ≤ now ∧ b ≤ now
  /-- Before it neither of the two becomes ready. -/
  before : ∀ u, now ≤ u → u < t → (a ≤ u ↔ a ≤ now) ∧ (b ≤ u ↔ b ≤ now)
  /-- At it one is ready that was not. -/
  returns : t ≠ now → ¬ a ≤ now ∧ a ≤ t ∨ ¬ b ≤ now ∧ b ≤ t
  /-- If both are still to return, it is the first that does. -/
  eq_min : now < min a b → t = min a b

namespace NextReturn

variable {now a b t : Time}

theorem symm (h : NextReturn now a b t) : NextReturn now b a t where
  le := h.le
  eq_now_iff := h.eq_now_iff.trans and_comm
  before := fun u hle hlt => (h.before u hle hlt).symm
  returns := fun hne => (h.returns hne).symm
  eq_min := by
    intro hlt
    have hmin : min b a = min a b := Time.ext (by simp [Nat.min_comm])
    rw [hmin] at hlt ⊢
    exact h.eq_min hlt

/-- Both are back. -/
theorem of_back (ha : a ≤ now) (hb : b ≤ now) : NextReturn now a b now where
  le := Nat.le_refl _
  eq_now_iff := iff_of_true rfl ⟨ha, hb⟩
  before := fun u hle hlt => absurd hlt (Nat.not_lt.mpr hle)
  returns := fun hne => absurd rfl hne
  eq_min := by
    intro hlt
    simp only [Time.le_def, Time.lt_def, Time.nanos_min] at *
    omega

/-- Only the first is still to return. -/
theorem of_one (ha : now < a) (hb : b ≤ now) : NextReturn now a b a where
  le := Nat.le_of_lt ha
  eq_now_iff := by
    simp only [Time.le_def, Time.lt_def, Time.ext_iff] at *
    omega
  before := by
    intro u hle hlt
    simp only [Time.le_def, Time.lt_def] at *
    omega
  returns := fun _ => Or.inl ⟨Nat.not_le.mpr ha, Nat.le_refl _⟩
  eq_min := by
    intro hlt
    simp only [Time.le_def, Time.lt_def, Time.nanos_min] at *
    omega

/-- Both are still to return. -/
theorem of_both (ha : now < a) (hb : now < b) : NextReturn now a b (min a b) where
  le := by
    simp only [Time.le_def, Time.lt_def, Time.nanos_min] at *
    omega
  eq_now_iff := by
    simp only [Time.le_def, Time.lt_def, Time.ext_iff, Time.nanos_min] at *
    omega
  before := by
    intro u hle hlt
    simp only [Time.le_def, Time.lt_def, Time.nanos_min] at *
    omega
  returns := by
    intro _
    simp only [Time.le_def, Time.lt_def, Time.nanos_min] at *
    omega
  eq_min := fun _ => rfl

end NextReturn

/-- A bar tells the next return of the pair of a base. -/
theorem exists_nextReturn (bar : RuneBar) (rune : BaseRune) (now : Time) :
    ∃ t, bar.nextReadyAt? (.base rune) now = some t ∧
      NextReturn now (bar.slot rune.slots.1).readyAt (bar.slot rune.slots.2).readyAt t := by
  refine ⟨_, rfl, ?_⟩
  generalize (bar.slot rune.slots.1).readyAt = a
  generalize (bar.slot rune.slots.2).readyAt = b
  by_cases ha : now < a
  · by_cases hb : now < b
    · rw [decide_eq_true ha, decide_eq_true hb]
      exact .of_both ha hb
    · rw [decide_eq_true ha, decide_eq_false hb]
      exact .of_one ha (Nat.not_lt.mp hb)
  · by_cases hb : now < b
    · rw [decide_eq_false ha, decide_eq_true hb]
      exact (NextReturn.of_one hb (Nat.not_lt.mp ha)).symm
    · rw [decide_eq_false ha, decide_eq_false hb]
      exact .of_back (Nat.not_lt.mp ha) (Nat.not_lt.mp hb)

end RuneBar

/-! ### What is read off a bar -/

/-- The combatant has this rune bar. -/
def Encounter.HasBar (e : Encounter) (id : CombatantId) (bar : RuneBar) : Prop :=
  (e.combatant? id).bind Combatant.runes = some bar

/-- How many of the two slots of a base are active. -/
def BaseRune.activeSlots (rune : BaseRune) (caster : CombatantId) (e : Encounter) : Nat :=
  [rune.slots.1, rune.slots.2].countP fun i => (Test.slotActive caster i).eval e

namespace Encounter.HasBar

variable {e : Encounter} {caster : CombatantId} {bar : RuneBar} {rune : BaseRune}

/-- Time leaves rune bars alone. -/
theorem advanceTo (h : e.HasBar caster bar) (t : Time) : (e.advanceTo t).HasBar caster bar := by
  have hall : (e.advanceTo t).combatants.map Combatant.runes =
      e.combatants.map Combatant.runes :=
    map_combatants_advanceTo (fun _ _ => rfl) t
  have hview := map_combatant?_of_map hall caster
  obtain ⟨c, hc, hbar⟩ := Option.bind_eq_some_iff.mp h
  rw [hc] at hview
  obtain ⟨after, hafter, hsame⟩ := Option.map_eq_some_iff.mp hview
  exact Option.bind_eq_some_iff.mpr ⟨after, hafter, hsame.trans hbar⟩

theorem readRunes (h : e.HasBar caster bar) {α : Type} (neutral : α) (read : RuneBar → α) :
    e.readRunes caster neutral read = read bar := by
  rw [Encounter.readRunes, show (e.combatant? caster).bind Combatant.runes = some bar from h]
  rfl

theorem slotActive_iff (h : e.HasBar caster bar) (i : Fin 6) :
    (Test.slotActive caster i).eval e = true ↔ (bar.slot i).readyAt ≤ e.clock := by
  rw [Test.eval, h.readRunes]
  exact bar.isActive_iff i e.clock

theorem slotCooldown (h : e.HasBar caster bar) (i : Fin 6) :
    (TimeTerm.slotCooldown caster i).eval e = e.clock.till (bar.slot i).readyAt :=
  h.readRunes ..

theorem runeCooldown (h : e.HasBar caster bar) (rune : BaseRune) :
    (TimeTerm.runeCooldown caster (.base rune)).eval e =
      e.clock.till (min (bar.slot rune.slots.1).readyAt (bar.slot rune.slots.2).readyAt) :=
  h.readRunes ..

theorem nextRuneCooldown (h : e.HasBar caster bar) {t : Time}
    (ht : bar.nextReadyAt? (.base rune) e.clock = some t) :
    (TimeTerm.nextRuneCooldown caster (.base rune)).eval e = e.clock.till t := by
  rw [TimeTerm.eval, h.readRunes, ht]
  rfl

/-- The count of a base is the number of its ready runes, none of which is lost in the integer. -/
theorem runeCount (h : e.HasBar caster bar) (rune : BaseRune) :
    ((IntTerm.runeCount caster (.base rune)).eval e).toInt = bar.ready (.base rune) e.clock := by
  have hle := bar.ready_le rune e.clock
  have hmin : min (bar.ready (.base rune) e.clock) 2147483647 =
      bar.ready (.base rune) e.clock := by omega
  rw [IntTerm.eval, h.readRunes, IntTerm.ofCount, hmin]
  exact Int32.toInt_ofNat_of_lt (by omega)

theorem activeSlots (h : e.HasBar caster bar) (rune : BaseRune) :
    rune.activeSlots caster e =
      (if (bar.slot rune.slots.1).readyAt ≤ e.clock then 1 else 0) +
        (if (bar.slot rune.slots.2).readyAt ≤ e.clock then 1 else 0) := by
  simp only [BaseRune.activeSlots, List.countP_cons, List.countP_nil, h.slotActive_iff]
  omega

end Encounter.HasBar

/-! ### Timers and counts -/

/-- What the timers of a base tell in `e` about the two slots of the base, as long as the bar is
    left alone. -/
structure RuneBar.TimersTell (bar : RuneBar) (caster : CombatantId) (rune : BaseRune)
    (e : Encounter) : Prop where
  /-- The cooldown of a base is that of the slot that is ready first. -/
  cooldown_eq_min : (TimeTerm.runeCooldown caster (.base rune)).eval e =
    min ((TimeTerm.slotCooldown caster rune.slots.1).eval e)
      ((TimeTerm.slotCooldown caster rune.slots.2).eval e)
  /-- Until it is over no slot is active. -/
  none_before : ∀ later : Encounter, later.HasBar caster bar → e.clock ≤ later.clock →
    later.clock < e.clock + (TimeTerm.runeCooldown caster (.base rune)).eval e →
      rune.activeSlots caster later = 0
  /-- When it is over one is, and counts for the base. -/
  one_then : ∀ later : Encounter, later.HasBar caster bar →
    later.clock = e.clock + (TimeTerm.runeCooldown caster (.base rune)).eval e →
      0 < rune.activeSlots caster later ∧
        1 ≤ ((IntTerm.runeCount caster (.base rune)).eval later).toInt
  /-- There is nothing to wait for exactly if both slots are active. -/
  next_eq_zero_iff : (TimeTerm.nextRuneCooldown caster (.base rune)).eval e = Time.zero ↔
    (Test.slotActive caster rune.slots.1).eval e = true ∧
      (Test.slotActive caster rune.slots.2).eval e = true
  /-- Otherwise as many slots are active until the next one returns, -/
  constant_before : ∀ later : Encounter, later.HasBar caster bar → e.clock ≤ later.clock →
    later.clock < e.clock + (TimeTerm.nextRuneCooldown caster (.base rune)).eval e →
      rune.activeSlots caster later = rune.activeSlots caster e
  /-- and more of them when it does. -/
  more_then : (TimeTerm.nextRuneCooldown caster (.base rune)).eval e ≠ Time.zero →
    ∀ later : Encounter, later.HasBar caster bar →
      later.clock = e.clock + (TimeTerm.nextRuneCooldown caster (.base rune)).eval e →
        rune.activeSlots caster e < rune.activeSlots caster later
  cooldown_eq_next : Time.zero < (TimeTerm.runeCooldown caster (.base rune)).eval e →
    (TimeTerm.runeCooldown caster (.base rune)).eval e =
      (TimeTerm.nextRuneCooldown caster (.base rune)).eval e
  active_iff : ∀ i : Fin 6, (Test.slotActive caster i).eval e = true ↔
    (TimeTerm.slotCooldown caster i).eval e = Time.zero

namespace RuneBar

section Tells

variable {bar : RuneBar} {caster : CombatantId} {rune : BaseRune} {e : Encounter}

/-- Both ends of a cooldown: the slots of the pair are away up to it, and one is back at it. -/
theorem cooldown_ends (h : e.HasBar caster bar) {later : Encounter}
    (hlater : later.HasBar caster bar) (hle : e.clock ≤ later.clock) :
    (later.clock < e.clock + (TimeTerm.runeCooldown caster (.base rune)).eval e →
      rune.activeSlots caster later = 0) ∧
    (later.clock = e.clock + (TimeTerm.runeCooldown caster (.base rune)).eval e →
      (bar.slot rune.slots.1).readyAt ≤ later.clock ∨
        (bar.slot rune.slots.2).readyAt ≤ later.clock) := by
  rw [h.runeCooldown, Time.add_till, hlater.activeSlots]
  simp only [Time.le_def, Time.lt_def, Time.ext_iff, Time.nanos_max, Time.nanos_min] at *
  constructor
  · intro hlt
    rw [if_neg (by omega), if_neg (by omega)]
  · intro heq
    omega

/-- On a bar that is laid out in pairs the timers of a base tell the truth about its slots. -/
theorem Paired.timersTell (hpaired : bar.Paired) (h : e.HasBar caster bar) (rune : BaseRune) :
    bar.TimersTell caster rune e := by
  obtain ⟨t, ht, hnext⟩ := bar.exists_nextReturn rune e.clock
  have hcooldown := h.nextRuneCooldown ht
  -- The timer ends at the next return, which has not passed.
  have hend : e.clock + (TimeTerm.nextRuneCooldown caster (.base rune)).eval e = t := by
    have hle := hnext.le
    rw [hcooldown, Time.add_till]
    apply Time.ext
    rw [Time.nanos_max]
    exact Nat.max_eq_right hle
  have hzero : (TimeTerm.nextRuneCooldown caster (.base rune)).eval e = Time.zero ↔
      t = e.clock := by
    have hle := hnext.le
    rw [hcooldown, Time.till_eq_zero_iff, Time.ext_iff]
    rw [Time.le_def] at *
    omega
  constructor
  · -- The cooldown of the base.
    rw [h.runeCooldown, h.slotCooldown, h.slotCooldown]
    apply Time.ext
    simp only [Time.nanos_till, Time.nanos_min]
    omega
  · intro later hlater hle hlt
    exact (cooldown_ends h hlater hle).1 hlt
  · intro later hlater heq
    have hle : e.clock ≤ later.clock := by
      rw [heq, h.runeCooldown, Time.add_till, Time.le_def, Time.nanos_max]
      omega
    have hback := (cooldown_ends h hlater hle).2 heq
    have hcount : 0 < bar.ready (.base rune) later.clock := by
      rcases hback with hfst | hsnd
      · exact ready_pos (hpaired rune).1 (decide_eq_true hfst)
      · exact ready_pos (hpaired rune).2 (decide_eq_true hsnd)
    rw [hlater.runeCount, hlater.activeSlots]
    refine ⟨?_, by omega⟩
    rcases hback with hfst | hsnd
    · rw [if_pos hfst]
      omega
    · rw [if_pos hsnd]
      omega
  · -- The next return.
    rw [hzero, h.slotActive_iff, h.slotActive_iff]
    exact hnext.eq_now_iff
  · intro later hlater hle hlt
    rw [hend] at hlt
    obtain ⟨hfst, hsnd⟩ := hnext.before later.clock hle hlt
    simp only [hlater.activeSlots, h.activeSlots, hfst, hsnd]
  · intro hne later hlater heq
    rw [hend] at heq
    have hle := hnext.le
    rw [hlater.activeSlots, h.activeSlots, heq]
    -- Whatever was back still is, and one more has come back.
    rcases hnext.returns fun he => hne (hzero.mpr he) with ⟨haway, hback⟩ | ⟨haway, hback⟩
    · rw [if_neg haway, if_pos hback]
      simp only [Time.le_def] at *
      split <;> split <;> omega
    · rw [if_neg haway, if_pos hback]
      simp only [Time.le_def] at *
      split <;> split <;> omega
  · intro hpos
    have hmin : t = min (bar.slot rune.slots.1).readyAt (bar.slot rune.slots.2).readyAt := by
      apply hnext.eq_min
      rw [h.runeCooldown] at hpos
      simp only [Time.lt_def, Time.nanos_till, Time.nanos_zero] at *
      omega
    rw [hcooldown, h.runeCooldown, hmin]
  · intro i
    rw [h.slotActive_iff, h.slotCooldown, Time.till_eq_zero_iff]

end Tells

/-- Timers and counts agree on every bar that has been set up and moved in whatever way.  The
    cooldown of a base ends when the first of its two slots is active, and the next one when one
    more of them is than now. -/
theorem timers_tell_counts (cooldown : Time) (moves : List Move) (caster : CombatantId)
    (e : Encounter) (h : e.HasBar caster (moves.foldl move (new cooldown))) (rune : BaseRune) :
    (moves.foldl move (new cooldown)).TimersTell caster rune e :=
  (paired_run cooldown moves).timersTell h rune

/-- Both Frost runes have been spent at the start, one of them as a Death rune.  After twelve
    seconds one is back, and the other follows eight seconds later. -/
theorem timers_tell_counts_staggered :
    let bar := [Move.convert 2, .spend { frost := 2 } Time.zero].foldl move
      (new (Time.ofWholeSeconds 10))
    let e := Encounter.duel.run
      [.setRunes ⟨1⟩ (some bar), .advanceTo (Time.ofWholeSeconds 12)]
    let later := e.advanceTo (Time.ofWholeSeconds 20)
    e.HasBar ⟨1⟩ bar ∧ later.HasBar ⟨1⟩ bar ∧
      (TimeTerm.runeCooldown ⟨1⟩ (.base .frost)).eval e = Time.zero ∧
      (TimeTerm.nextRuneCooldown ⟨1⟩ (.base .frost)).eval e = Time.ofWholeSeconds 8 ∧
      BaseRune.frost.activeSlots ⟨1⟩ e < BaseRune.frost.activeSlots ⟨1⟩ later := by
  intro bar e later
  have hset : (Encounter.duel.perform (.setRunes ⟨1⟩ (some bar))).HasBar ⟨1⟩ bar := rfl
  have hbar : e.HasBar ⟨1⟩ bar := hset.advanceTo _
  have hlater : later.HasBar ⟨1⟩ bar := hbar.advanceTo _
  have hcooldown : (TimeTerm.runeCooldown ⟨1⟩ (.base .frost)).eval e = Time.zero := by
    decide +kernel
  have hnext : (TimeTerm.nextRuneCooldown ⟨1⟩ (.base .frost)).eval e = Time.ofWholeSeconds 8 := by
    decide +kernel
  have htells := timers_tell_counts _ _ ⟨1⟩ e hbar .frost
  have hmore := htells.more_then (by rw [hnext]; decide) later hlater
    (by rw [hnext]; decide +kernel)
  exact ⟨hbar, hlater, hcooldown, hnext, hmore⟩

end RuneBar

end ActionPriority
