import ActionPriority.Proofs.Runes.Payments

/-! # Affordability

    Whether a cost can be paid is found out by going through the bases with a budget: the ready
    Death runes, of which each base takes what it is short of.

    * To the answer the order of the bases makes no difference.  A cost can be paid exactly if
      the ready Death runes make up for what all bases together are short of
      (`RuneBar.afford_eq_ok_iff_lack`).
    * To the shortage that is named it does.  It is the first base up to which more runes are
      missing than there are ready Death runes (`RuneBar.FirstShort`).
    * All numbers on the way are counts of six slots at most, or parts of the cost, and so the
      check can be done in words of eight bits (`RuneBar.affordInWords_eq`).
    * A cost that can be paid can still be paid when runes have come back, when less is asked
      for, and when a slot has been converted.
-/

namespace ActionPriority

/-- The bases that are paid for before this one. -/
def BaseRune.before (rune : BaseRune) : List BaseRune := BaseRune.all.takeWhile (· ≠ rune)

/-- The part of a base in a cost, as it is stored. -/
def RuneCost.word (cost : RuneCost) : BaseRune → UInt8
  | .blood => cost.blood
  | .frost => cost.frost
  | .unholy => cost.unholy

theorem RuneCost.toNat_word (cost : RuneCost) (rune : BaseRune) :
    (cost.word rune).toNat = cost.need rune := by
  cases rune <;> rfl

namespace RuneBar

variable {bar : RuneBar} {cost : RuneCost} {now : Time}

/-! ### What is missing -/

/-- How many runes a base is short of for its part of a cost. -/
def lack (bar : RuneBar) (cost : RuneCost) (now : Time) (rune : BaseRune) : Nat :=
  cost.need rune - bar.natural rune now

/-- What the bases before one are short of. -/
def lackBefore (bar : RuneBar) (cost : RuneCost) (now : Time) (rune : BaseRune) : Nat :=
  tally (bar.lack cost now) rune.before

/-- What the bases up to one are short of, that one included. -/
def lackThrough (bar : RuneBar) (cost : RuneCost) (now : Time) (rune : BaseRune) : Nat :=
  bar.lackBefore cost now rune + bar.lack cost now rune

/-- The shortage is that of the first base up to which more runes are missing than there are
    ready Death runes. -/
structure FirstShort (bar : RuneBar) (cost : RuneCost) (now : Time) (s : RuneShortage) : Prop where
  exceeds : bar.deaths now < bar.lackThrough cost now s.rune
  first : ∀ rune ∈ s.rune.before, bar.lackThrough cost now rune ≤ bar.deaths now
  needed : s.needed = cost.need s.rune
  /-- Of the Death runes there are those that the bases before have not taken. -/
  available : s.available + bar.lackBefore cost now s.rune =
    bar.natural s.rune now + bar.deaths now

/-! ### The answer -/

theorem afford_eq_ok_iff_lack :
    bar.afford cost now = .ok () ↔ tally (bar.lack cost now) BaseRune.all ≤ bar.deaths now :=
  bar.affordFrom_eq_ok_iff cost now BaseRune.all (bar.deaths now)

/-- Going through some bases fails at the first one for which the budget does not last. -/
theorem affordFrom_eq_error_iff {bases : List BaseRune} (hnodup : bases.Nodup) (budget : Nat)
    (s : RuneShortage) :
    bar.affordFrom cost now bases budget = .error s ↔
      s.rune ∈ bases ∧ tally (bar.lack cost now) (bases.takeWhile (· ≠ s.rune)) ≤ budget ∧
        budget < tally (bar.lack cost now) (bases.takeWhile (· ≠ s.rune)) +
          bar.lack cost now s.rune ∧
        s.needed = cost.need s.rune ∧
        s.available + tally (bar.lack cost now) (bases.takeWhile (· ≠ s.rune)) =
          bar.natural s.rune now + budget := by
  induction bases generalizing budget with
  | nil => simp [affordFrom]
  | cons rune rest ih =>
    obtain ⟨hhead, hrest⟩ := List.nodup_cons.mp hnodup
    have ih := ih hrest (budget - bar.lack cost now rune)
    have hlack : cost.need rune - bar.natural rune now = bar.lack cost now rune := rfl
    simp only [affordFrom, hlack, List.mem_cons] at ih ⊢
    by_cases hrune : s.rune = rune
    · -- Nothing comes before the head.
      subst hrune
      rw [List.takeWhile_cons_of_neg (by simp)]
      simp only [tally, true_or, true_and, Nat.zero_le, Nat.zero_add, Nat.add_zero]
      split
      · next hshort =>
        obtain ⟨base, needed, available⟩ := s
        simp only [Except.error.injEq, RuneShortage.mk.injEq, true_and] at hshort ⊢
        omega
      · next hlasts =>
        rw [ih]
        exact iff_of_false (fun h => hhead h.1) fun h => hlasts h.1
    · -- The head has taken its part of the budget.
      rw [List.takeWhile_cons_of_pos (by simp [Ne.symm hrune])]
      simp only [tally, hrune, false_or]
      generalize tally (bar.lack cost now) (rest.takeWhile (· ≠ s.rune)) = earlier at ih ⊢
      split
      · next hshort =>
        refine iff_of_false ?_ (by omega)
        intro h
        cases h
        exact hrune rfl
      · next hlasts =>
        rw [ih]
        exact and_congr_right fun _ => by omega

/-- That the budget has lasted so far can be said base by base. -/
theorem lackBefore_le_iff (rune : BaseRune) (budget : Nat) :
    bar.lackBefore cost now rune ≤ budget ↔
      ∀ r ∈ rune.before, bar.lackThrough cost now r ≤ budget := by
  cases rune
  · simp [lackBefore, BaseRune.before, BaseRune.all, tally]
  · simp [lackThrough, lackBefore, BaseRune.before, BaseRune.all, tally]
  · simp [lackThrough, lackBefore, BaseRune.before, BaseRune.all, tally]
    omega

theorem afford_eq_error_iff (s : RuneShortage) :
    bar.afford cost now = .error s ↔ bar.FirstShort cost now s := by
  have hnodup : BaseRune.all.Nodup := by decide
  refine (affordFrom_eq_error_iff hnodup (bar.deaths now) s).trans ?_
  constructor
  · intro ⟨_, hbefore, hexceeds, hneeded, havailable⟩
    exact ⟨hexceeds, (lackBefore_le_iff s.rune _).mp hbefore, hneeded, havailable⟩
  · intro h
    exact ⟨s.rune.mem_all, (lackBefore_le_iff s.rune _).mpr h.first, h.exceeds, h.needed, h.available⟩

/-! ### In words of eight bits -/

/-- The word of eight bits for a number that fits into one. -/
def word? (n : Nat) : Option UInt8 := if n < UInt8.size then some (UInt8.ofNat n) else none

/-- The sum of two words, unless it overflows. -/
def sumWord? (a b : UInt8) : Option UInt8 := word? (a.toNat + b.toNat)

/-- The difference of two words, unless it underflows. -/
def differenceWord? (a b : UInt8) : Option UInt8 := if b ≤ a then some (a - b) else none

/-- How far one word lies above another; zero if it does not. -/
def excessWord (a b : UInt8) : UInt8 := if b ≤ a then a - b else 0

theorem word?_eq {n : Nat} (h : n < UInt8.size) : ∃ w, word? n = some w ∧ w.toNat = n :=
  ⟨UInt8.ofNat n, if_pos h, UInt8.toNat_ofNat_of_lt' h⟩

theorem differenceWord?_eq {a b : UInt8} (h : b.toNat ≤ a.toNat) :
    ∃ w, differenceWord? a b = some w ∧ w.toNat = a.toNat - b.toNat := by
  have hle : b ≤ a := UInt8.le_iff_toNat_le.mpr h
  exact ⟨a - b, if_pos hle, UInt8.toNat_sub_of_le a b hle⟩

theorem toNat_excessWord (a b : UInt8) : (excessWord a b).toNat = a.toNat - b.toNat := by
  unfold excessWord
  split
  · next hle => exact UInt8.toNat_sub_of_le a b hle
  · next hle =>
    have hlt : ¬ b.toNat ≤ a.toNat := fun h => hle (UInt8.le_iff_toNat_le.mpr h)
    rw [UInt8.toNat_zero]
    omega

/-- The check of the listed bases in words of eight bits, with a word for the budget.  It has
    no result where a number does not fit, or where more is taken from the budget than is in
    it. -/
def affordWords (bar : RuneBar) (cost : RuneCost) (now : Time) :
    List BaseRune → UInt8 → Option (Except RuneShortage Unit)
  | [], _ => some (.ok ())
  | rune :: rest, deaths => do
    let own ← word? (bar.natural rune now)
    let shortfall := excessWord (cost.word rune) own
    if deaths < shortfall then
      let available ← sumWord? own deaths
      return .error ⟨rune, (cost.word rune).toNat, available.toNat⟩
    else
      let left ← differenceWord? deaths shortfall
      affordWords bar cost now rest left

/-- The whole check in words of eight bits. -/
def affordInWords (bar : RuneBar) (cost : RuneCost) (now : Time) :
    Option (Except RuneShortage Unit) := do
  let deaths ← word? (bar.deaths now)
  bar.affordWords cost now BaseRune.all deaths

theorem count_le_six (bar : RuneBar) (p : RuneSlot → Bool) : bar.count p ≤ 6 :=
  Vector.countP_le_size

/-- With a budget of six at most every number fits. -/
theorem affordWords_eq (bases : List BaseRune) {budget : UInt8} (hbudget : budget.toNat ≤ 6) :
    bar.affordWords cost now bases budget =
      some (bar.affordFrom cost now bases budget.toNat) := by
  induction bases generalizing budget with
  | nil => rfl
  | cons rune rest ih =>
    have hsix : bar.natural rune now ≤ 6 := bar.count_le_six _
    have hsize : UInt8.size = 256 := rfl
    obtain ⟨own, hown, hownNat⟩ := word?_eq (n := bar.natural rune now) (by omega)
    have hexcess := toNat_excessWord (cost.word rune) own
    rw [cost.toNat_word, hownNat] at hexcess
    simp only [affordWords, affordFrom, hown, Option.bind_eq_bind, Option.bind_some,
      UInt8.lt_iff_toNat_lt, hexcess, cost.toNat_word]
    split
    · -- The sum goes into the shortage.
      obtain ⟨sum, hsum, hsumNat⟩ := word?_eq (n := own.toNat + budget.toNat) (by omega)
      simp only [sumWord?, hsum, Option.bind_some, hsumNat]
      rw [hownNat]
      rfl
    · next hlasts =>
      obtain ⟨left, hleft, hleftNat⟩ := differenceWord?_eq (a := budget)
        (b := excessWord (cost.word rune) own) (by omega)
      simp only [hleft, Option.bind_some]
      rw [ih (by omega), hleftNat, hexcess]

/-- No number of the check leaves its word, whatever the cost. -/
theorem affordInWords_eq (bar : RuneBar) (cost : RuneCost) (now : Time) :
    bar.affordInWords cost now = some (bar.afford cost now) := by
  have hsix : bar.deaths now ≤ 6 := bar.count_le_six _
  have hsize : UInt8.size = 256 := rfl
  obtain ⟨deaths, hdeaths, hnat⟩ := word?_eq (n := bar.deaths now) (by omega)
  simp only [affordInWords, hdeaths, Option.bind_eq_bind, Option.bind_some]
  rw [affordWords_eq BaseRune.all (by omega), hnat]
  rfl

/-! ### What keeps a cost affordable -/

theorem isReady_of_le {slot : RuneSlot} {later : Time} (hle : now ≤ later)
    (h : slot.isReady now = true) : slot.isReady later = true := by
  simp only [RuneSlot.isReady, decide_eq_true_eq, Time.le_def] at *
  omega

theorem natural_le_later {later : Time} (hle : now ≤ later) (rune : BaseRune) :
    bar.natural rune now ≤ bar.natural rune later := by
  apply Vector.countP_mono_left
  intro slot _ h
  obtain ⟨hbase, hdeath, hready⟩ := isNatural_iff.mp h
  exact isNatural_iff.mpr ⟨hbase, hdeath, isReady_of_le hle hready⟩

theorem deaths_le_later {later : Time} (hle : now ≤ later) :
    bar.deaths now ≤ bar.deaths later := by
  apply Vector.countP_mono_left
  intro slot _ h
  obtain ⟨hdeath, hready⟩ := isReadyDeath_iff.mp h
  exact isReadyDeath_iff.mpr ⟨hdeath, isReady_of_le hle hready⟩

/-- Runes only come back. -/
theorem afford_later {later : Time} (h : bar.afford cost now = .ok ()) (hle : now ≤ later) :
    bar.afford cost later = .ok () := by
  rw [afford_eq_ok_iff_lack] at *
  have hlack : tally (bar.lack cost later) BaseRune.all ≤ tally (bar.lack cost now) BaseRune.all :=
    tally_le fun rune _ => Nat.sub_le_sub_left (natural_le_later hle rune) _
  have hdeaths : bar.deaths now ≤ bar.deaths later := deaths_le_later hle
  omega

/-- What asks for less of no base more is short of no more. -/
theorem afford_cheaper {cheaper : RuneCost} (h : bar.afford cost now = .ok ())
    (hle : ∀ rune, cheaper.need rune ≤ cost.need rune) : bar.afford cheaper now = .ok () := by
  rw [afford_eq_ok_iff_lack] at *
  have hlack : tally (bar.lack cheaper now) BaseRune.all ≤ tally (bar.lack cost now) BaseRune.all :=
    tally_le fun rune _ => Nat.sub_le_sub_right (hle rune) _
  omega

/-- A bar has a rune less in one base at most, and for that one a Death rune more. -/
structure Converts (bar after : RuneBar) (now : Time) (base : BaseRune) : Prop where
  natural : ∀ rune, bar.natural rune now ≤
    after.natural rune now + (if rune = base then after.deaths now - bar.deaths now else 0)
  deaths : bar.deaths now ≤ after.deaths now

/-- Marking a slot as a Death rune moves its rune, if that one is ready, from the base of the
    slot to the Death runes. -/
theorem converts_withSlot (bar : RuneBar) (i : Fin 6) (now : Time) :
    bar.Converts (bar.withSlot i { bar.slot i with death := true }) now (bar.slot i).base := by
  set marked : RuneSlot := { bar.slot i with death := true } with hmarked
  have hnatural := fun rune => bar.count_withSlot i marked (isNatural rune now)
  have hdeaths := bar.count_withSlot i marked (isReadyDeath now)
  have hnone : ∀ rune, isNatural rune now marked = false := by simp [isNatural, hmarked]
  have hready : isReadyDeath now marked = (bar.slot i).isReady now := by
    simp [isReadyDeath, hmarked, RuneSlot.isReady]
  simp only [hnone, hready, Bool.false_eq_true, if_false, Nat.add_zero] at hnatural hdeaths
  constructor
  · intro rune
    have hrune := hnatural rune
    by_cases h : isNatural rune now (bar.slot i) = true
    · -- The one rune that leaves its base.
      obtain ⟨hbase, hdeath, hback⟩ := isNatural_iff.mp h
      have hnever : isReadyDeath now (bar.slot i) = false := by simp [isReadyDeath, hdeath]
      simp only [h, hnever, hback, hbase, Bool.false_eq_true, if_true, if_false] at *
      simp only [natural, deaths] at *
      omega
    · rw [if_neg h] at hrune
      simp only [natural] at *
      omega
  · have hback : isReadyDeath now (bar.slot i) = true → (bar.slot i).isReady now = true :=
      fun h => (isReadyDeath_iff.mp h).2
    simp only [deaths] at *
    split at hdeaths
    · next h => simp only [hback h, if_true] at hdeaths; omega
    · omega

/-- Who could pay still can: what the base of the converted rune is short of by now, the new
    Death rune makes up for. -/
theorem Converts.afford {after : RuneBar} {base : BaseRune} (h : bar.Converts after now base)
    (hok : bar.afford cost now = .ok ()) : after.afford cost now = .ok () := by
  rw [afford_eq_ok_iff_lack] at *
  have hdeaths := h.deaths
  have hlack : tally (after.lack cost now) BaseRune.all ≤
      tally (bar.lack cost now) BaseRune.all + (after.deaths now - bar.deaths now) := by
    refine tally_le_add (a := base) (by decide) fun rune _ => ?_
    have hrune := h.natural rune
    unfold lack
    omega
  omega

/-- Converting any slot, also one that there is not, leaves a cost affordable. -/
theorem afford_convert (h : bar.afford cost now = .ok ()) (i : Nat) :
    ((bar.convert? i).getD bar).afford cost now = .ok () := by
  unfold convert?
  split
  · next hi => exact (bar.converts_withSlot ⟨i, hi⟩ now).afford h
  · exact h

/-! ### The check -/

/-- The check of a cost passes exactly if the ready Death runes make up for what all bases
    together are short of, and fails with the first base for which they do not suffice any
    more.  Words of eight bits hold all its numbers, whatever the cost.  What passes keeps
    passing: later, for a cost that is nowhere higher, and with any slot converted. -/
theorem afford_exact (bar : RuneBar) (cost : RuneCost) (now : Time) :
    (bar.afford cost now = .ok () ↔
        tally (bar.lack cost now) BaseRune.all ≤ bar.deaths now) ∧
      (∀ s, bar.afford cost now = .error s ↔ bar.FirstShort cost now s) ∧
      bar.affordInWords cost now = some (bar.afford cost now) ∧
      (bar.afford cost now = .ok () →
        (∀ later, now ≤ later → bar.afford cost later = .ok ()) ∧
        (∀ cheaper : RuneCost, (∀ rune, cheaper.need rune ≤ cost.need rune) →
          bar.afford cheaper now = .ok ()) ∧
        ∀ i, ((bar.convert? i).getD bar).afford cost now = .ok ()) := by
  refine ⟨afford_eq_ok_iff_lack, afford_eq_error_iff, bar.affordInWords_eq cost now, ?_⟩
  intro h
  exact ⟨fun later hle => afford_later h hle, fun cheaper hle => afford_cheaper h hle,
    afford_convert h⟩

/-- With a Frost slot converted three Unholy runes can be paid beside two of Blood, also a
    second later, and for two Unholy runes, and with a Blood slot converted; four of them
    cannot, and the largest cost there is falls short of Blood already. -/
theorem afford_exact_one_death :
    let bar := ((RuneBar.new (Time.ofWholeSeconds 10)).convert? 3).getD (RuneBar.new Time.zero)
    bar.afford { blood := 2, unholy := 3 } Time.zero = .ok () ∧
      bar.afford { blood := 2, unholy := 3 } (Time.ofWholeSeconds 1) = .ok () ∧
      bar.afford { blood := 2, unholy := 2 } Time.zero = .ok () ∧
      ((bar.convert? 0).getD bar).afford { blood := 2, unholy := 3 } Time.zero = .ok () ∧
      bar.afford { blood := 2, unholy := 4 } Time.zero = .error ⟨.unholy, 4, 3⟩ ∧
      bar.affordInWords { blood := 255, frost := 255, unholy := 255 } Time.zero =
        some (.error ⟨.blood, 255, 3⟩) := by
  intro bar
  have hok : bar.afford { blood := 2, unholy := 3 } Time.zero = .ok () := rfl
  obtain ⟨hlater, hcheaper, hconvert⟩ :=
    (afford_exact bar { blood := 2, unholy := 3 } Time.zero).2.2.2 hok
  have hshort : bar.FirstShort { blood := 2, unholy := 4 } Time.zero ⟨.unholy, 4, 3⟩ :=
    ⟨by decide, by decide, by decide, by decide⟩
  have hless : ∀ rune, RuneCost.need { blood := 2, unholy := 2 } rune ≤
      RuneCost.need { blood := 2, unholy := 3 } rune := by
    intro rune
    cases rune <;> decide
  refine ⟨hok, hlater _ (by decide), hcheaper _ hless, hconvert 0,
    ((afford_exact bar _ _).2.1 _).mpr hshort, ?_⟩
  rw [(afford_exact bar _ _).2.2.1]
  rfl

end RuneBar

end ActionPriority
