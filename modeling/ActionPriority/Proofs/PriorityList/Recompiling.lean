import ActionPriority.Proofs.PriorityList.InertEntries
import ActionPriority.Proofs.PriorityList.SeedIndependence
import ActionPriority.Proofs.PriorityList.WholeTrials

/-! # Compiling Again

    Of an encounter nothing is read in compiling but the profile of the caster and the roster, so
    that a list compiles to the same wherever these are the same (`Rotation.compile_congr`).

    A trial only casts and lets time pass, which changes no profile.  So compiling the list again
    at any moment of a trial gives the rotation with which the trial has begun
    (`Rotation.compile_settled`).
-/

namespace ActionPriority

open Encounter (Op)

theorem Encounter.SameProfiles.compile {e e' : Encounter} (h : e.SameProfiles e')
    (list : PriorityList) (caster : CombatantId) (catalog : Catalog) :
    Rotation.compile list e' caster catalog = Rotation.compile list e caster catalog :=
  Rotation.compile_congr (h.combatant? caster) h.roster list catalog

/-! ### Moments of a trial -/

theorem Encounter.Op.IsCastOrJump.steers {op : Op} (h : op.IsCastOrJump) : op.Steers := by
  cases op with
  | cast caster spell target => trivial
  | advanceTo t => trivial
  | _ => exact h.elim

/-- Neither casts nor jumps of the clock change a profile, and rounds have nothing else. -/
theorem Trial.Rounds.sameProfiles {t last : Trial} {log : List (Time × Decision)}
    {sofar rest : List Op} (h : Trial.Rounds t log (sofar ++ rest) last) :
    t.encounter.SameProfiles (t.encounter.run sofar) := by
  refine .run fun op hop => ?_
  exact (h.isCastOrJump op (List.mem_append_left _ hop)).steers

/-- A scenario is set up with the same profiles whatever the seed is. -/
theorem Scenario.exists_build_sameProfiles {s : Scenario} {settings : Settings} {seed : UInt64}
    {e : Encounter} {player : CombatantId} (h : s.build settings seed = .ok (e, player))
    (seed' : UInt64) :
    ∃ e', s.build settings seed' = .ok (e', player) ∧ e.SameProfiles e' := by
  rcases (s.build_sameUpToRolls settings seed seed').cases with
    ⟨cause, hthis, _⟩ | ⟨⟨e₁, p⟩, ⟨e', p'⟩, hthis, hthat, hrolls, hplayer⟩
  · rw [hthis] at h
    cases h
  · rw [hthis] at h
    cases h
    obtain rfl : player = p' := hplayer
    refine ⟨e', hthat, ?_, ?_⟩
    · rw [hrolls.combatants]
    · obtain ⟨damage, dice, rfl⟩ := hrolls
      rfl

/-- What a list compiles to depends on the label and the spells of the caster, on whether it has
    a rune bar, and on the roster.  So it is the same

    * in any two encounters that agree on these,
    * after any steering,
    * at every moment of a trial that begins with the compiled list,
    * and for every seed from which the scenario is set up. -/
theorem Rotation.compile_settled {e e' : Encounter} {caster : CombatantId} {c c' : Combatant}
    (h : e.combatant? caster = some c) (h' : e'.combatant? caster = some c')
    (hlabel : c'.label = c.label) (hspells : c'.spells = c.spells)
    (hruns : c'.runes.isSome = c.runes.isSome) (hroster : e'.roster = e.roster)
    (list : PriorityList) :
    Rotation.compile list e' caster .standard = Rotation.compile list e caster .standard ∧
      (∀ ops : List Op, (∀ op ∈ ops, op.Steers) →
        Rotation.compile list (e.run ops) caster .standard =
          Rotation.compile list e caster .standard) ∧
      (∃ r d, Rotation.compile list e caster .standard = .ok (r, d) ∧
        let t : Trial := { rotation := r, encounter := e }
        ∃ ops, Trial.Rounds t t.decisions ops t.run ∧
          ∀ sofar rest, ops = sofar ++ rest →
            Rotation.compile list (e.run sofar) caster .standard = .ok (r, d)) ∧
      ∀ (scenario : Scenario) settings seed seed', scenario.build settings seed = .ok (e, caster) →
        ∃ e₂, scenario.build settings seed' = .ok (e₂, caster) ∧
          Rotation.compile list e₂ caster .standard =
            Rotation.compile list e caster .standard := by
  have hprofile : (e'.combatant? caster).map Combatant.profile =
      (e.combatant? caster).map Combatant.profile := by
    rw [h, h']
    simp only [Option.map_some, Combatant.profile, hlabel, hspells, hruns]
  refine ⟨compile_congr hprofile hroster list _, ?_, ?_, ?_⟩
  · intro ops hops
    exact (Encounter.SameProfiles.run hops).compile list caster _
  · obtain ⟨r, d, hcompile, _⟩ := compile_eq_ok h list .standard
    obtain ⟨ops, hrounds⟩ := Trial.rounds_run { rotation := r, encounter := e }
    refine ⟨r, d, hcompile, ops, hrounds, ?_⟩
    rintro sofar rest rfl
    rw [← hcompile]
    exact hrounds.sameProfiles.compile list caster _
  · intro scenario settings seed seed' hbuild
    obtain ⟨e₂, hbuild', hsame⟩ := Scenario.exists_build_sameProfiles hbuild seed'
    exact ⟨e₂, hbuild', hsame.compile list caster _⟩

/-- To somebody who compiles the plague list it is all the same that time has passed, and that the
    knight has become faster and aims at nobody. -/
theorem Rotation.compile_settled_plague :
    let changed := Encounter.duel.modify ⟨1⟩ fun c => { c with stats.haste := 2.0, aim := none }
    let later : Encounter := { changed with clock := Time.ofWholeSeconds 5 }
    Rotation.compile plagueList later ⟨1⟩ .standard =
      Rotation.compile plagueList Encounter.duel ⟨1⟩ .standard := by
  intro changed later
  have hknight : ∃ c c', Encounter.duel.combatant? ⟨1⟩ = some c ∧ later.combatant? ⟨1⟩ = some c' ∧
      c'.label = c.label ∧ c'.spells = c.spells ∧ c'.runes.isSome = c.runes.isSome :=
    ⟨_, _, rfl, rfl, rfl, rfl, rfl⟩
  obtain ⟨c, c', h, h', hlabel, hspells, hruns⟩ := hknight
  have hroster : later.roster = Encounter.duel.roster := rfl
  exact (compile_settled h h' hlabel hspells hruns hroster plagueList).1

end ActionPriority
