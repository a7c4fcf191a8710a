import ActionPriority.Proofs.Time.Lengths
import ActionPriority.Scenario.Basic

/-! # What Is Wrong with a Scenario

    A description can make no sense in several places at once.  `Scenario.faults` lists them all,
    each told from its own part of the description, in the order in which they are read: the
    targets that have no room, the cooldown of the rune bar, its Death runes, and then spell after
    spell the cooldown and the period.

    Setting up a scenario stops at the first of them.  That is a property of each step
    (`FailsFirst`), which steps in a row have together (`FailsFirst.bind`, `FailsFirst.mapM`).  So
    it fails with the first fault, and succeeds if there are none (`Scenario.failsFirst_build`);
    and there are none in a valid description (`Scenario.faults_eq_nil_iff`).
-/

namespace ActionPriority

/-! ### Failing with the first fault -/

/-- The computation fails with the first of the faults, and succeeds if there are none. -/
def FailsFirst {ε α : Type} (x : Except ε α) (faults : List ε) : Prop :=
  match x with
  | .ok _ => faults = []
  | .error cause => faults.head? = some cause

namespace FailsFirst

variable {ε α β : Type} {x : Except ε α} {faults more : List ε}

theorem exists_ok_iff (h : FailsFirst x faults) : (∃ a, x = .ok a) ↔ faults = [] := by
  cases x with
  | ok a =>
    have hnone : faults = [] := h
    exact iff_of_true ⟨a, rfl⟩ hnone
  | error cause =>
    have hfirst : faults.head? = some cause := h
    refine iff_of_false (fun ⟨a, ha⟩ => nomatch ha) ?_
    rintro rfl
    cases hfirst

theorem eq_error_iff (h : FailsFirst x faults) {cause : ε} :
    x = .error cause ↔ faults.head? = some cause := by
  cases x with
  | ok a =>
    have hnone : faults = [] := h
    rw [hnone]
    exact iff_of_false nofun nofun
  | error other =>
    have hfirst : faults.head? = some other := h
    rw [hfirst]
    exact ⟨fun he => by cases he; rfl, fun he => by cases he; rfl⟩

theorem pure (a : α) : FailsFirst (pure a : Except ε α) [] := rfl

/-- Of two steps the second is only taken if nothing is wrong with the first. -/
theorem bind {f : α → Except ε β} (h : FailsFirst x faults)
    (hf : ∀ a, x = .ok a → FailsFirst (f a) more) : FailsFirst (x >>= f) (faults ++ more) := by
  cases x with
  | ok a =>
    have hnone : faults = [] := h
    rw [hnone]
    exact hf a rfl
  | error cause =>
    have hfirst : faults.head? = some cause := h
    show (faults ++ more).head? = some cause
    rw [List.head?_append, hfirst]
    rfl

/-- A last step that cannot fail adds no fault. -/
theorem bind_pure {f : α → β} (h : FailsFirst x faults) :
    FailsFirst (x >>= fun a => Pure.pure (f a)) faults := by
  have hboth := h.bind fun a _ => FailsFirst.pure (ε := ε) (f a)
  rw [List.append_nil] at hboth
  exact hboth

theorem mapM {f : α → Except ε β} {faultsOf : α → List ε} {l : List α}
    (h : ∀ a, FailsFirst (f a) (faultsOf a)) : FailsFirst (l.mapM f) (l.flatMap faultsOf) := by
  induction l with
  | nil => rfl
  | cons a rest ih =>
    rw [List.mapM_cons, List.flatMap_cons]
    exact (h a).bind fun b _ => ih.bind_pure

theorem mapM_option {f : α → Except ε β} {faultsOf : α → List ε} {o : Option α}
    (h : ∀ a, FailsFirst (f a) (faultsOf a)) :
    FailsFirst (o.mapM f) (o.toList.flatMap faultsOf) := by
  cases o with
  | none => rfl
  | some a =>
    rw [Option.toList_some, List.flatMap_singleton]
    exact (h a).bind_pure

end FailsFirst

/-! ### Seconds -/

/-- Why seconds are no length of time, if they are none. -/
def Time.refusal? (x : Float) : Option SecondsError :=
  if x < 0.0 then some .negative
  else if x < secondsLimit then none
  else some .tooBig

theorem Time.refusal?_eq_none_iff (x : Float) : refusal? x = none ↔ IsLength x := by
  unfold refusal?
  constructor
  · intro h
    split at h
    · cases h
    next hneg =>
    split at h
    · next hrange => exact ⟨Binary64.isNaN_of_lt hrange, hneg, hrange⟩
    · cases h
  · intro h
    rw [if_neg h.notNegative, if_pos h.inRange]

/-- Seconds that are no length of time are refused for this reason. -/
theorem Time.ofSeconds_of_refusal {x : Float} {cause : SecondsError}
    (h : refusal? x = some cause) : ofSeconds x = .error cause := by
  unfold refusal? at h
  unfold ofSeconds
  split at h
  · next hneg =>
    cases h
    rw [if_pos hneg]
  next hneg =>
  split at h
  · cases h
  next hrange =>
  cases h
  rw [if_neg hneg, if_neg hrange]

/-- What is wrong with the seconds of a field. -/
def fieldFaults (field : String) (x : Float) : List SetupError :=
  (Time.refusal? x).toList.map (.seconds field x)

theorem fieldFaults_eq_nil_iff {field : String} {x : Float} :
    fieldFaults field x = [] ↔ Time.IsLength x := by
  rw [fieldFaults, List.map_eq_nil_iff, Option.toList_eq_nil_iff, Time.refusal?_eq_none_iff]

theorem failsFirst_fieldTime (field : String) (x : Float) :
    FailsFirst (fieldTime field x) (fieldFaults field x) := by
  unfold fieldTime fieldFaults
  cases hrefusal : Time.refusal? x with
  | none =>
    obtain ⟨t, ht⟩ := (Time.exists_ofSeconds_iff x).mpr ((Time.refusal?_eq_none_iff x).mp hrefusal)
    rw [ht]
    rfl
  | some cause =>
    rw [Time.ofSeconds_of_refusal hrefusal]
    rfl

/-! ### Spells -/

/-- What is wrong with a periodic effect. -/
def PeriodicSpec.faults (p : PeriodicSpec) : List SetupError :=
  fieldFaults "tick_period_secs" p.periodSeconds

/-- What is wrong with a spell: its cooldown, and then the period of its effect. -/
def SpellSpec.faults (s : SpellSpec) : List SetupError :=
  fieldFaults "cooldown_secs" s.cooldownSeconds ++ s.periodic.toList.flatMap PeriodicSpec.faults

theorem PeriodicSpec.failsFirst_toPeriodic (p : PeriodicSpec) :
    FailsFirst p.toPeriodic p.faults :=
  (failsFirst_fieldTime _ _).bind_pure

theorem SpellSpec.failsFirst_toSpell (s : SpellSpec) : FailsFirst s.toSpell s.faults := by
  refine (failsFirst_fieldTime _ _).bind fun cooldown _ => ?_
  exact (FailsFirst.mapM_option PeriodicSpec.failsFirst_toPeriodic).bind_pure

/-! ### The rune bar -/

/-- Slots are counted from one to six. -/
def IsSlotNumber (slot : UInt8) : Prop := 1 ≤ slot.toNat ∧ slot.toNat ≤ 6

instance (slot : UInt8) : Decidable (IsSlotNumber slot) :=
  inferInstanceAs (Decidable (1 ≤ slot.toNat ∧ slot.toNat ≤ 6))

theorem IsSlotNumber.pred_lt {slot : UInt8} (h : IsSlotNumber slot) : slot.toNat - 1 < 6 := by
  obtain ⟨_, hlast⟩ := h
  omega

/-- The slot of that number, counted from zero. -/
def IsSlotNumber.index {slot : UInt8} (h : IsSlotNumber slot) : Fin 6 :=
  ⟨slot.toNat - 1, h.pred_lt⟩

/-- What is wrong with a rune bar: its cooldown, and then the slots that do not exist. -/
def RuneBarSpec.faults (r : RuneBarSpec) : List SetupError :=
  r.cooldownSeconds.toList.flatMap (fieldFaults "rune_cd_secs") ++
    (r.deathSlots.filter fun slot => !decide (IsSlotNumber slot)).map .deathSlot

/-- A slot that exists can be converted, and no other can. -/
theorem convert?_slotNumber (bar : RuneBar) (slot : UInt8) :
    (if slot = 0 then none else bar.convert? (slot.toNat - 1)) =
      if h : IsSlotNumber slot then
        some (bar.withSlot h.index { bar.slot h.index with death := true })
      else none := by
  have hzero : slot = 0 ↔ slot.toNat = 0 := UInt8.toNat_inj.symm
  unfold RuneBar.convert?
  by_cases hslot : IsSlotNumber slot
  · obtain ⟨hle, hlast⟩ := hslot
    have hne : ¬ slot = 0 := by rw [hzero]; omega
    have hlt : slot.toNat - 1 < 6 := by omega
    rw [if_neg hne, dif_pos hlt, dif_pos ⟨hle, hlast⟩]
    rfl
  · rw [dif_neg hslot]
    by_cases hfirst : slot = 0
    · rw [if_pos hfirst]
    · have hlt : ¬ slot.toNat - 1 < 6 := by
        intro hlt
        refine hslot ⟨?_, by omega⟩
        rw [hzero] at hfirst
        omega
      rw [if_neg hfirst, dif_neg hlt]

theorem failsFirst_withDeathSlots (bar : RuneBar) (slots : List UInt8) :
    FailsFirst (withDeathSlots bar slots)
      ((slots.filter fun slot => !decide (IsSlotNumber slot)).map .deathSlot) := by
  induction slots generalizing bar with
  | nil => rfl
  | cons slot rest ih =>
    rw [withDeathSlots, convert?_slotNumber]
    by_cases hslot : IsSlotNumber slot
    · have hfine : ¬ (!decide (IsSlotNumber slot)) = true := by simpa using hslot
      rw [dif_pos hslot, List.filter_cons, if_neg hfine]
      exact ih _
    · have hwrong : (!decide (IsSlotNumber slot)) = true := by simpa using hslot
      rw [dif_neg hslot, List.filter_cons, if_pos hwrong]
      rfl

theorem RuneBarSpec.failsFirst_toBar (r : RuneBarSpec) (cooldown : Time) :
    FailsFirst (r.toBar cooldown) r.faults := by
  unfold toBar faults
  cases hseconds : r.cooldownSeconds with
  | none => exact failsFirst_withDeathSlots _ _
  | some seconds =>
    rw [Option.toList_some, List.flatMap_singleton]
    exact (failsFirst_fieldTime _ _).bind fun cooldown _ => failsFirst_withDeathSlots _ _

theorem SpellSpec.faults_eq_nil_iff (s : SpellSpec) :
    s.faults = [] ↔
      Time.IsLength s.cooldownSeconds ∧ ∀ p ∈ s.periodic, Time.IsLength p.periodSeconds := by
  simp only [faults, PeriodicSpec.faults, List.append_eq_nil_iff, List.flatMap_eq_nil_iff,
    Option.mem_toList, Option.mem_def, fieldFaults_eq_nil_iff]

theorem RuneBarSpec.faults_eq_nil_iff (r : RuneBarSpec) :
    r.faults = [] ↔
      (∀ x ∈ r.cooldownSeconds, Time.IsLength x) ∧ ∀ slot ∈ r.deathSlots, IsSlotNumber slot := by
  simp only [faults, List.append_eq_nil_iff, List.flatMap_eq_nil_iff, Option.mem_toList,
    Option.mem_def, fieldFaults_eq_nil_iff, List.map_eq_nil_iff, List.filter_eq_nil_iff,
    Bool.not_eq_true', decide_eq_false_iff_not, Decidable.not_not]

/-! ### Targets -/

namespace Scenario

/-- Each target takes up one place of the roster. -/
theorem failsFirst_addTargets (e : Encounter) (targets : List TargetSpec)
    (h : e.roster.length ≤ Encounter.maxTargets) :
    FailsFirst (addTargets e targets)
      ((targets.drop (Encounter.maxTargets - e.roster.length)).map
        fun t => .noRoom t.label ⟨Encounter.maxTargets⟩) := by
  induction targets generalizing e with
  | nil =>
    rw [List.drop_nil]
    rfl
  | cons t rest ih =>
    rw [addTargets]
    by_cases hroom : e.roster.length < Encounter.maxTargets
    · obtain ⟨after, hadd, hlength⟩ : ∃ after, e.addTarget t.label t.stats = .ok after ∧
          after.roster.length = e.roster.length + 1 := ⟨_, if_pos hroom, List.length_append ..⟩
      -- One place fewer is left for the rest.
      have hleft : Encounter.maxTargets - e.roster.length =
          (Encounter.maxTargets - after.roster.length) + 1 := by omega
      rw [hadd, hleft, List.drop_succ_cons]
      refine ih after ?_
      rw [hlength]
      exact hroom
    · have hadd : e.addTarget t.label t.stats = .error ⟨Encounter.maxTargets⟩ := if_neg hroom
      have hfull : Encounter.maxTargets - e.roster.length = 0 := by omega
      rw [hadd, hfull]
      rfl

end Scenario

/-! ### The whole description -/

namespace Scenario

/-- Everything that is wrong with a scenario, in the order in which it is read. -/
def faults (s : Scenario) : List SetupError :=
  (s.targets.drop Encounter.maxTargets).map (fun t => .noRoom t.label ⟨Encounter.maxTargets⟩) ++
    (s.player.runes.toList.flatMap RuneBarSpec.faults ++ s.player.spells.flatMap SpellSpec.faults)

/-- Setting up a scenario fails with the first of its faults. -/
theorem failsFirst_build (s : Scenario) (settings : Settings) (seed : UInt64) :
    FailsFirst (s.build settings seed) s.faults := by
  refine (failsFirst_addTargets _ _ (Nat.zero_le _)).bind fun e _ => ?_
  refine (FailsFirst.mapM_option fun r => r.failsFirst_toBar _).bind fun runes _ => ?_
  exact (FailsFirst.mapM SpellSpec.failsFirst_toSpell).bind_pure

/-- A description that makes sense. -/
structure Valid (s : Scenario) : Prop where
  room : s.targets.length ≤ Encounter.maxTargets
  runeCooldown : ∀ r ∈ s.player.runes, ∀ x ∈ r.cooldownSeconds, Time.IsLength x
  deathSlots : ∀ r ∈ s.player.runes, ∀ slot ∈ r.deathSlots, IsSlotNumber slot
  cooldowns : ∀ spell ∈ s.player.spells, Time.IsLength spell.cooldownSeconds
  periods : ∀ spell ∈ s.player.spells, ∀ p ∈ spell.periodic, Time.IsLength p.periodSeconds

/-- The descriptions without faults are the valid ones. -/
theorem faults_eq_nil_iff (s : Scenario) : s.faults = [] ↔ s.Valid := by
  simp only [faults, List.append_eq_nil_iff, List.map_eq_nil_iff, List.drop_eq_nil_iff,
    List.flatMap_eq_nil_iff, Option.mem_toList, Option.mem_def, RuneBarSpec.faults_eq_nil_iff,
    SpellSpec.faults_eq_nil_iff]
  constructor
  · rintro ⟨hroom, hrunes, hspells⟩
    exact ⟨hroom, fun r hr => (hrunes r hr).1, fun r hr => (hrunes r hr).2,
      fun spell hspell => (hspells spell hspell).1, fun spell hspell => (hspells spell hspell).2⟩
  · intro h
    exact ⟨h.room, fun r hr => ⟨h.runeCooldown r hr, h.deathSlots r hr⟩,
      fun spell hspell => ⟨h.cooldowns spell hspell, h.periods spell hspell⟩⟩

end Scenario

end ActionPriority
