import ActionPriority.Proofs.Encounter.Steps

/-! # Steering

    Of the operations some only steer an encounter: targets enter and leave the fight, combatants
    take aim, spells are cast, rune bars are used, statistics change and time passes.  Under
    these nobody joins, and what a combatant is called, what it knows and whether it uses runes
    (`Combatant.Profile`) stays as it is.  One step keeps it (`SameProfiles.perform`), and so does
    any run of them (`SameProfiles.run`).
-/

namespace ActionPriority

/-! ### Profiles -/

/-- What steering does not change about a combatant. -/
structure Combatant.Profile where
  label : String
  spells : List Spell
  usesRunes : Bool

/-- The profile of a combatant. -/
def Combatant.profile (c : Combatant) : Profile where
  label := c.label
  spells := c.spells
  usesRunes := c.runes.isSome

namespace Encounter

/-- The same combatants have joined, with the same profiles, and the roster is the same. -/
structure SameProfiles (e e' : Encounter) : Prop where
  profiles : e'.combatants.map Combatant.profile = e.combatants.map Combatant.profile
  roster : e'.roster = e.roster

/-- The operation only steers. -/
def Op.Steers : Op → Prop
  | .setEnabled _ _ => True
  | .setAim _ _ => True
  | .setStats _ _ => True
  | .moveRunes _ _ => True
  | .cast _ _ _ => True
  | .advanceTo _ => True
  | _ => False

/-- Whoever has a rune bar has one after paying, and whoever has none gets none by it. -/
theorem isSome_payRunes {e : Encounter} {c : Combatant} {definition : Spell}
    {runes : Option RuneBar} (h : e.payRunes c definition = .ok runes) :
    runes.isSome = c.runes.isSome := by
  unfold payRunes at h
  split at h
  · next hnone =>
    cases h
    rw [hnone]
  · next bar hbar =>
    split at h
    · cases h
      rw [hbar]
      rfl
    · cases h

theorem land_roster (e : Encounter) (c : Combatant) (definition : Spell)
    (runes : Option RuneBar) (caster target : CombatantId) (targetStats : Stats) :
    (e.land c definition runes caster target targetStats).roster = e.roster := by
  unfold land afterHit
  dsimp only
  split <;> rfl

namespace SameProfiles

variable {e e' e'' : Encounter}

theorem refl (e : Encounter) : e.SameProfiles e := ⟨rfl, rfl⟩

theorem trans (h : e.SameProfiles e') (h' : e'.SameProfiles e'') : e.SameProfiles e'' :=
  ⟨h'.profiles.trans h.profiles, h'.roster.trans h.roster⟩

/-- Everybody is found again with the same profile. -/
theorem combatant? (h : e.SameProfiles e') (id : CombatantId) :
    (e'.combatant? id).map Combatant.profile = (e.combatant? id).map Combatant.profile :=
  map_combatant?_of_map h.profiles id

/-! ### Steps -/

/-- One combatant is changed, but not its profile. -/
theorem modify {id : CombatantId} {f : Combatant → Combatant}
    (h : ∀ c, e.combatant? id = some c → (f c).profile = c.profile) :
    e.SameProfiles (e.modify id f) :=
  ⟨map_combatants_modify h, rfl⟩

/-- Everybody is changed, but nobody's profile. -/
theorem map {f : Combatant → Combatant} (h : ∀ c, (f c).profile = c.profile) :
    e.SameProfiles { e with combatants := e.combatants.map f } := by
  refine ⟨?_, rfl⟩
  rw [List.map_map]
  exact List.map_congr_left fun c _ => h c

theorem setEnabled {id : CombatantId} {enabled : Bool} {after : Encounter}
    (h : e.setEnabled? id enabled = some after) : e.SameProfiles after := by
  have hchanged : e.SameProfiles (e.modify id fun c => { c with enabled }) := modify fun _ _ => rfl
  obtain rfl := setEnabled?_eq_some h
  cases enabled with
  | true => exact hchanged
  | false => exact hchanged.trans (map fun _ => rfl)

theorem cast {caster target : CombatantId} {spell : SpellId} {after : Encounter}
    (h : e.cast caster spell target = .ok after) : e.SameProfiles after := by
  constructor
  · refine map_combatants_cast (fun c definition runes targetStats hpay => ?_) h
    simp only [Combatant.profile, afterCast, isSome_payRunes hpay]
  · -- The hit of the spell changes nobody.
    obtain ⟨_, _, _, _, _, _, _, _, rfl⟩ := cast_eq_ok h
    exact land_roster ..

theorem advanceTo (e : Encounter) (t : Time) : e.SameProfiles (e.advanceTo t) := by
  constructor
  · exact map_combatants_advanceTo (fun _ _ => rfl) t
  · exact e.roster_fireUntil _

/-- Steering keeps all profiles. -/
theorem perform {op : Op} (h : op.Steers) : e.SameProfiles (e.perform op) := by
  cases op with
  | addPlayer label stats | addTarget label stats => exact h.elim
  | learn id spell => exact h.elim
  | setRunes id runes => exact h.elim
  | setEnabled id enabled =>
    rw [Encounter.perform]
    cases hset : e.setEnabled? id enabled with
    | none => exact refl e
    | some after => exact setEnabled hset
  | setAim id aim =>
    rw [Encounter.perform, setAim?]
    split
    · exact modify fun _ _ => rfl
    · exact refl e
  | setStats id stats => exact modify fun _ _ => rfl
  | moveRunes id m =>
    refine modify fun c _ => ?_
    simp only [Combatant.profile, Option.isSome_map]
  | cast caster spell target =>
    rw [Encounter.perform]
    cases hcast : e.cast caster spell target with
    | error cause => exact refl e
    | ok after => exact cast hcast
  | advanceTo t => exact advanceTo e t

/-- So does any amount of it. -/
theorem run {ops : List Op} (h : ∀ op ∈ ops, op.Steers) : e.SameProfiles (e.run ops) := by
  induction ops generalizing e with
  | nil => exact refl e
  | cons op rest ih =>
    obtain ⟨hop, hrest⟩ := List.forall_mem_cons.mp h
    exact (perform hop).trans (ih hrest)

end SameProfiles

end Encounter

end ActionPriority
