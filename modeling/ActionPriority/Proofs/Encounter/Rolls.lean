import ActionPriority.Encounter.Casting
import ActionPriority.Proofs.Encounter.Advancing
import ActionPriority.Scenario.Basic

/-! # Rolls

    Hits are rolled, and what they come to is added up.  Nothing else in an encounter looks at
    the dice or at the damage.  `Encounter.SameUpToRolls` relates two encounters that differ in
    these two at most, and every way in which an encounter goes on keeps the relation:

    * a cast succeeds in both or fails in both, with the same obstacle,
    * the same ticks fire, in the same order,
    * the clock jumps to the same next event,
    * and setting up a scenario from two seeds starts from there.
-/

namespace ActionPriority

/-! ### Outcomes -/

/-- The two outcomes are the same failure, or related results. -/
def SameOutcome {ε α : Type} (related : α → α → Prop) : Except ε α → Except ε α → Prop
  | .error cause, .error cause' => cause = cause'
  | .ok a, .ok a' => related a a'
  | .error _, .ok _ => False
  | .ok _, .error _ => False

namespace SameOutcome

variable {ε ε' α β : Type} {r : α → α → Prop} {q : β → β → Prop} {x x' : Except ε α}

theorem refl (x : Except ε α) : SameOutcome Eq x x := by
  cases x <;> rfl

/-- Either both fail alike, or both have results that are related. -/
theorem cases (h : SameOutcome r x x') :
    (∃ cause, x = .error cause ∧ x' = .error cause) ∨
      ∃ a a', x = .ok a ∧ x' = .ok a' ∧ r a a' := by
  match x, x' with
  | .error cause, .error cause' =>
    obtain rfl : cause = cause' := h
    exact Or.inl ⟨cause, rfl, rfl⟩
  | .ok a, .ok a' => exact Or.inr ⟨a, a', rfl, rfl, h⟩
  | .error _, .ok _ => exact h.elim
  | .ok _, .error _ => exact h.elim

/-- What goes on alike from related results has the same outcome. -/
theorem bind {f f' : α → Except ε β} (h : SameOutcome r x x')
    (hf : ∀ a a', r a a' → SameOutcome q (f a) (f' a')) :
    SameOutcome q (x >>= f) (x' >>= f') := by
  rcases h.cases with ⟨cause, rfl, rfl⟩ | ⟨a, a', rfl, rfl, ha⟩
  · rfl
  · exact hf a a' ha

theorem map {f f' : α → β} (h : SameOutcome r x x') (hf : ∀ a a', r a a' → q (f a) (f' a')) :
    SameOutcome q (x.map f) (x'.map f') := by
  rcases h.cases with ⟨cause, rfl, rfl⟩ | ⟨a, a', rfl, rfl, ha⟩
  · rfl
  · exact hf a a' ha

theorem mapError (h : SameOutcome r x x') (f : ε → ε') :
    SameOutcome r (x.mapError f) (x'.mapError f) := by
  rcases h.cases with ⟨cause, rfl, rfl⟩ | ⟨a, a', rfl, rfl, ha⟩
  · rfl
  · exact ha

end SameOutcome

/-! ### Encounters that differ in rolls -/

namespace Encounter

/-- The two encounters differ in the damage done and in the dice at most. -/
def SameUpToRolls (e e' : Encounter) : Prop :=
  ∃ damage dice, e' = { e with damage, dice }

namespace SameUpToRolls

variable {e e' : Encounter}

theorem clock (h : e.SameUpToRolls e') : e'.clock = e.clock := by
  obtain ⟨damage, dice, rfl⟩ := h
  rfl

theorem combatants (h : e.SameUpToRolls e') : e'.combatants = e.combatants := by
  obtain ⟨damage, dice, rfl⟩ := h
  rfl

theorem casts (h : e.SameUpToRolls e') : e'.casts = e.casts := by
  obtain ⟨damage, dice, rfl⟩ := h
  rfl

theorem isFinished (h : e.SameUpToRolls e') : e'.isFinished = e.isFinished := by
  obtain ⟨damage, dice, rfl⟩ := h
  rfl

theorem nextEvent (h : e.SameUpToRolls e') : e'.nextEvent = e.nextEvent := by
  obtain ⟨damage, dice, rfl⟩ := h
  rfl

/-! ### Casting -/

theorem checkCast (h : e.SameUpToRolls e') (caster : CombatantId) (spell : SpellId)
    (target : CombatantId) :
    e'.checkCast caster spell target = e.checkCast caster spell target := by
  obtain ⟨damage, dice, rfl⟩ := h
  rfl

/-- The hit of a spell is rolled in both, or in neither. -/
theorem afterHit (h : e.SameUpToRolls e') (amount critChance : Float) :
    (e.afterHit amount critChance).SameUpToRolls (e'.afterHit amount critChance) := by
  obtain ⟨damage, dice, rfl⟩ := h
  unfold Encounter.afterHit
  split
  · exact ⟨_, _, rfl⟩
  · exact ⟨_, _, rfl⟩

theorem modify (h : e.SameUpToRolls e') (id : CombatantId) (f : Combatant → Combatant) :
    (e.modify id f).SameUpToRolls (e'.modify id f) := by
  obtain ⟨damage, dice, rfl⟩ := h
  exact ⟨damage, dice, rfl⟩

theorem afterCast (h : e.SameUpToRolls e') (c : Combatant) (definition : Spell)
    (runes : Option RuneBar) (target : CombatantId) (targetStats : Stats) :
    e'.afterCast c definition runes target targetStats =
      e.afterCast c definition runes target targetStats := by
  obtain ⟨damage, dice, rfl⟩ := h
  rfl

theorem land (h : e.SameUpToRolls e') (c : Combatant) (definition : Spell)
    (runes : Option RuneBar) (caster target : CombatantId) (targetStats : Stats) :
    (e.land c definition runes caster target targetStats).SameUpToRolls
      (e'.land c definition runes caster target targetStats) := by
  have hbegun := h.modify caster fun c => e.afterCast c definition runes target targetStats
  obtain ⟨damage, dice, hhit⟩ :=
    hbegun.afterHit (Damage.modified definition.directDamage c.stats targetStats)
      c.stats.critChance
  unfold Encounter.land
  simp only [h.afterCast]
  rw [hhit]
  exact ⟨damage, dice, rfl⟩

/-- A cast succeeds in both or in neither. -/
theorem cast (h : e.SameUpToRolls e') (caster : CombatantId) (spell : SpellId)
    (target : CombatantId) :
    SameOutcome SameUpToRolls (e.cast caster spell target) (e'.cast caster spell target) := by
  have hfind : ∀ id, e'.find id = e.find id := by
    intro id
    rw [find, find, combatant?, combatant?, h.combatants]
  have hpay : ∀ c definition, e'.payRunes c definition = e.payRunes c definition := by
    intro c definition
    rw [payRunes, payRunes, h.clock]
  unfold Encounter.cast
  simp only [h.checkCast, hfind, hpay]
  refine (SameOutcome.refl _).bind ?_
  rintro _ _ rfl
  refine (SameOutcome.refl _).bind ?_
  rintro aimed _ rfl
  refine (SameOutcome.refl _).bind ?_
  rintro c _ rfl
  refine (SameOutcome.refl _).bind ?_
  rintro definition _ rfl
  refine (SameOutcome.refl _).bind ?_
  rintro runes _ rfl
  exact h.land c definition runes caster target aimed.stats

/-! ### The clock -/

theorem nextDue? (h : e.SameUpToRolls e') (limit : Time) :
    e'.nextDue? limit = e.nextDue? limit := by
  obtain ⟨damage, dice, rfl⟩ := h
  rfl

theorem fire (h : e.SameUpToRolls e') (p : PendingTick) :
    (e.fire p).SameUpToRolls (e'.fire p) := by
  obtain ⟨damage, dice, rfl⟩ := h
  exact ⟨_, _, rfl⟩

theorem fireUntil (h : e.SameUpToRolls e') (limit : Time) :
    (e.fireUntil limit).SameUpToRolls (e'.fireUntil limit) := by
  fun_induction Encounter.fireUntil e limit generalizing e' with
  | case1 e hnone =>
    rw [fireUntil_of_none (h.nextDue? limit ▸ hnone)]
    exact h
  | case2 e p hsome ih =>
    have hsome' : e'.nextDue? limit = some p := by rw [h.nextDue?, hsome]
    rw [fireUntil_of_some hsome']
    exact ih (h.fire p)

theorem advanceTo (h : e.SameUpToRolls e') (t : Time) :
    (e.advanceTo t).SameUpToRolls (e'.advanceTo t) := by
  have hlimit : min t e'.endTime = min t e.endTime := by
    obtain ⟨damage, dice, rfl⟩ := h
    rfl
  unfold Encounter.advanceTo
  dsimp only
  rw [hlimit]
  obtain ⟨damage, dice, hfired⟩ := h.fireUntil (min t e.endTime)
  rw [hfired]
  exact ⟨damage, dice, rfl⟩

end SameUpToRolls

/-! ### Setting up -/

theorem new_sameUpToRolls (settings : Settings) (seed seed' : UInt64) :
    (new settings seed).SameUpToRolls (new settings seed') := ⟨_, _, rfl⟩

end Encounter

namespace Scenario

open Encounter

theorem addTargets_sameUpToRolls {e e' : Encounter} (h : e.SameUpToRolls e')
    (targets : List TargetSpec) :
    SameOutcome SameUpToRolls (addTargets e targets) (addTargets e' targets) := by
  induction targets generalizing e e' with
  | nil => exact h
  | cons t rest ih =>
    obtain ⟨damage, dice, rfl⟩ := h
    simp only [addTargets, addTarget]
    by_cases hroom : e.roster.length < maxTargets
    · simp only [hroom, if_true]
      exact ih ⟨damage, dice, rfl⟩
    · simp only [hroom, if_false]
      rfl

/-- From two seeds a scenario is set up alike. -/
theorem build_sameUpToRolls (s : Scenario) (settings : Settings) (seed seed' : UInt64) :
    SameOutcome (fun a b => a.1.SameUpToRolls b.1 ∧ a.2 = b.2) (s.build settings seed)
      (s.build settings seed') := by
  have htargets := addTargets_sameUpToRolls (new_sameUpToRolls settings seed seed') s.targets
  unfold build
  refine htargets.bind ?_
  intro e e' h
  refine (SameOutcome.refl _).bind ?_
  rintro runes _ rfl
  refine (SameOutcome.refl _).bind ?_
  rintro spells _ rfl
  obtain ⟨damage, dice, rfl⟩ := h
  exact ⟨⟨damage, dice, rfl⟩, rfl⟩

end Scenario

end ActionPriority
