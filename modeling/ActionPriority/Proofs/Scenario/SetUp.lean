import Mathlib.Data.List.Pairwise
import ActionPriority.Proofs.Encounter.Steps
import ActionPriority.Proofs.Lists
import ActionPriority.Proofs.Runes.Timers
import ActionPriority.Proofs.Scenario.Faults

/-! # What a Scenario Sets Up

    A valid scenario sets up an encounter that is as described: the targets in the order of the
    description, and after them the player with its rune bar and its spells
    (`Scenario.SetsUp`).

    * Targets join one after another.  After each of them the encounter is the one that has just
      these targets (`Scenario.fielded`), so that in the end it is the one that has them all
      (`Scenario.addTargets_fielded`).
    * Whether a slot starts with a Death rune depends on its own number alone, however often and
      in whatever order the numbers are listed (`death_withDeathSlots`).
    * Learning a spell anew forgets the old one and puts the new one last.  What remains of a list
      of spells is each of them as it comes last (`Combatant.foldl_learn`).
-/

namespace ActionPriority

/-! ### Spells learned in turn -/

section Keys

variable {α β κ : Type} [DecidableEq κ] {key : α → κ} {key' : β → κ}

/-- Of several members with one key the last is kept: a member stays if its key does not come
    again. -/
theorem pwFilter_key_cons (x : α) (rest : List α) :
    (x :: rest).pwFilter (key · ≠ key ·) =
      if key x ∈ rest.map key then rest.pwFilter (key · ≠ key ·)
      else x :: rest.pwFilter (key · ≠ key ·) := by
  -- Whoever has another key than `z` has another one than `y`, or `y` has another one than `z`.
  have hlater : (∀ y ∈ rest.pwFilter (key · ≠ key ·), key x ≠ key y) ↔ key x ∉ rest.map key := by
    rw [List.forall_mem_pwFilter fun {x y z} (hxz : key x ≠ key z) => ?_]
    · simp [eq_comm]
    · by_cases hxy : key x = key y
      · exact Or.inr (hxy ▸ hxz)
      · exact Or.inl hxy
  split
  · next hagain => exact List.pwFilter_cons_of_neg (mt hlater.mp (not_not_intro hagain))
  · next hlast => exact List.pwFilter_cons_of_pos (hlater.mpr hlast)

/-- Lists in pairs with the same keys keep their last members in pairs. -/
theorem forall₂_pwFilter_key {r : α → β → Prop} {l : List α} {l' : List β}
    (h : List.Forall₂ r l l') (hkey : ∀ a b, r a b → key' b = key a) :
    List.Forall₂ r (l.pwFilter (key · ≠ key ·)) (l'.pwFilter (key' · ≠ key' ·)) := by
  induction h with
  | nil => exact .nil
  | @cons a b rest rest' hab hrest ih =>
    rw [pwFilter_key_cons, pwFilter_key_cons, hkey a b hab, map_eq_of_forall₂ hrest hkey]
    split
    · exact ih
    · exact .cons hab ih

end Keys

/-- A combatant who learns some spells in turn knows, of the spells known before, those that are
    not learned anew, and then each of the new ones as it came last. -/
theorem Combatant.foldl_learn (spells : List Spell) (c : Combatant) :
    spells.foldl learn c =
      { c with
        spells := (c.spells.filter fun s => s.id ∉ spells.map Spell.id) ++
          spells.pwFilter (·.id ≠ ·.id) } := by
  induction spells generalizing c with
  | nil => simp
  | cons spell rest ih =>
    -- Forgetting the first spell, and then the others, is forgetting all of them.
    have hknown : (c.spells.filter fun s => s.id ≠ spell.id).filter
        (fun s => s.id ∉ rest.map Spell.id) =
        c.spells.filter fun s => s.id ∉ (spell :: rest).map Spell.id := by
      rw [List.filter_filter]
      refine List.filter_congr fun s _ => ?_
      rw [← Bool.decide_and]
      refine decide_eq_decide.mpr ?_
      rw [List.map_cons, List.mem_cons, not_or, and_comm]
    rw [List.foldl_cons, ih, learn, List.filter_append, hknown, pwFilter_key_cons,
      List.append_assoc]
    -- The first spell is forgotten itself if it comes again.
    by_cases hagain : spell.id ∈ rest.map Spell.id
    · rw [if_pos hagain, List.filter_cons_of_neg (by simpa using hagain)]
      rfl
    · rw [if_neg hagain, List.filter_cons_of_pos (by simpa using hagain)]
      rfl

/-! ### The rune bar -/

/-- The listed slots hold Death runes besides those that held one before, and nothing else about
    the bar is changed. -/
theorem withDeathSlots_eq_ok {bar after : RuneBar} {slots : List UInt8}
    (h : withDeathSlots bar slots = .ok after) :
    after.cooldown = bar.cooldown ∧ after.regen = bar.regen ∧
      ∀ i : Fin 6, after.slot i =
        { bar.slot i with
          death := (bar.slot i).death || slots.any fun slot => slot.toNat = i.val + 1 } := by
  induction slots generalizing bar with
  | nil =>
    cases h
    exact ⟨rfl, rfl, fun i => by simp⟩
  | cons slot rest ih =>
    rw [withDeathSlots, convert?_slotNumber] at h
    by_cases hslot : IsSlotNumber slot
    · rw [dif_pos hslot] at h
      obtain ⟨hcooldown, hregen, hslots⟩ := ih h
      refine ⟨hcooldown, hregen, fun i => ?_⟩
      -- Numbers of slots begin at one, and places in the bar at zero.
      have hplace : i = hslot.index ↔ slot.toNat = i.val + 1 := by
        obtain ⟨hle, _⟩ := hslot
        rw [Fin.ext_iff]
        show i.val = slot.toNat - 1 ↔ _
        omega
      rw [hslots, RuneBar.slot_withSlot, List.any_cons]
      by_cases hi : i = hslot.index
      · rw [if_pos hi, ← hi]
        simp [hplace.mp hi]
      · rw [if_neg hi]
        have hother : ¬ slot.toNat = i.val + 1 := fun hn => hi (hplace.mpr hn)
        simp [hother]
    · rw [dif_neg hslot] at h
      cases h

/-- The bar of a description: its cooldown, or else that of the settings, all runes ready, and
    Death runes in the listed slots. -/
structure RuneBarSpec.SetsUp (settings : Settings) (r : RuneBarSpec) (bar : RuneBar) : Prop where
  cooldown :
    match r.cooldownSeconds with
    | none => bar.cooldown = settings.runeCooldown
    | some seconds => Time.ofSeconds seconds = .ok bar.cooldown
  regen : bar.regen =
    match r.regen with
    | none => 1.0
    | some multiplier => if multiplier.isFinite && multiplier > 0.0 then multiplier else 1.0
  paired : bar.Paired
  death : ∀ i : Fin 6,
    (bar.slot i).death = true ↔ ∃ slot ∈ r.deathSlots, slot.toNat = i.val + 1
  ready : ∀ i : Fin 6, (bar.slot i).readyAt = Time.zero

theorem fieldTime_eq_ok {field : String} {x : Float} {t : Time} (h : fieldTime field x = .ok t) :
    Time.ofSeconds x = .ok t := by
  unfold fieldTime at h
  cases hseconds : Time.ofSeconds x with
  | error cause =>
    rw [hseconds] at h
    cases h
  | ok length =>
    rw [hseconds] at h
    cases h
    rfl

/-- In a new bar all runes are ready, and none is a Death rune. -/
theorem slot_new (cooldown : Time) (i : Fin 6) :
    ((RuneBar.new cooldown).slot i).death = false ∧
      ((RuneBar.new cooldown).slot i).readyAt = Time.zero :=
  match i with
  | 0 | 1 | 2 | 3 | 4 | 5 => ⟨rfl, rfl⟩

/-- The bar before any rune is converted. -/
def RuneBarSpec.plainBar (r : RuneBarSpec) (cooldown : Time) : RuneBar :=
  match r.regen with
  | some multiplier => (RuneBar.new cooldown).withRegen multiplier
  | none => RuneBar.new cooldown

/-- The multiplier does not show in the cooldown or in the slots. -/
theorem RuneBarSpec.plainBar_eq (r : RuneBarSpec) (cooldown : Time) :
    (r.plainBar cooldown).cooldown = cooldown ∧
      (r.plainBar cooldown).slot = (RuneBar.new cooldown).slot := by
  unfold plainBar
  cases r.regen <;> exact ⟨rfl, rfl⟩

/-- What is set up is a plain bar with the cooldown of the description or else that of the
    settings, in which the listed slots are converted. -/
theorem RuneBarSpec.toBar_eq_ok {r : RuneBarSpec} {standard : Time} {bar : RuneBar}
    (h : r.toBar standard = .ok bar) :
    ∃ cooldown,
      (match r.cooldownSeconds with
        | none => cooldown = standard
        | some seconds => Time.ofSeconds seconds = .ok cooldown) ∧
      withDeathSlots (r.plainBar cooldown) r.deathSlots = .ok bar := by
  unfold toBar at h
  cases hseconds : r.cooldownSeconds with
  | none =>
    rw [hseconds] at h
    exact ⟨standard, rfl, h⟩
  | some seconds =>
    rw [hseconds] at h
    obtain ⟨cooldown, hcooldown, h⟩ := exists_of_bind_eq_ok h
    exact ⟨cooldown, fieldTime_eq_ok hcooldown, h⟩

theorem RuneBarSpec.setsUp_toBar {settings : Settings} {r : RuneBarSpec} {bar : RuneBar}
    (h : r.toBar settings.runeCooldown = .ok bar) : r.SetsUp settings bar := by
  obtain ⟨cooldown, hseconds, hdeath⟩ := toBar_eq_ok h
  obtain ⟨hcooldown, hregen, hslots⟩ := withDeathSlots_eq_ok hdeath
  obtain ⟨hplain, hnew⟩ := r.plainBar_eq cooldown
  rw [hnew] at hslots
  constructor
  case cooldown =>
    rw [hcooldown, hplain]
    exact hseconds
  case regen =>
    rw [hregen]
    unfold plainBar
    cases r.regen <;> rfl
  case paired =>
    intro rune
    rw [hslots, hslots]
    exact RuneBar.paired_new cooldown rune
  case death =>
    intro i
    rw [hslots, (slot_new cooldown i).1]
    simp
  case ready =>
    intro i
    rw [hslots]
    exact (slot_new cooldown i).2

/-! ### Spells -/

/-- The periodic effect of a description. -/
structure PeriodicSpec.SetsUp (p : PeriodicSpec) (periodic : Periodic) : Prop where
  tickDamage : periodic.tickDamage = p.tickDamage
  period : Time.ofSeconds p.periodSeconds = .ok periodic.period
  ticks : periodic.ticks = p.ticks.toNat
  hasted : periodic.hasted = p.hasted

/-- The spell of a description. -/
structure SpellSpec.SetsUp (s : SpellSpec) (spell : Spell) : Prop where
  id : spell.id = s.id
  label : spell.label = s.label
  cooldown : Time.ofSeconds s.cooldownSeconds = .ok spell.cooldown
  cost : spell.cost = s.cost
  directDamage : spell.directDamage = s.directDamage
  onGlobalCooldown : spell.onGlobalCooldown = s.onGlobalCooldown
  periodic : Option.Rel PeriodicSpec.SetsUp s.periodic spell.periodic

theorem PeriodicSpec.setsUp_toPeriodic {p : PeriodicSpec} {periodic : Periodic}
    (h : p.toPeriodic = .ok periodic) : p.SetsUp periodic := by
  obtain ⟨period, hperiod, h⟩ := exists_of_bind_eq_ok h
  cases h
  exact ⟨rfl, fieldTime_eq_ok hperiod, rfl, rfl⟩

theorem SpellSpec.setsUp_toSpell {s : SpellSpec} {spell : Spell} (h : s.toSpell = .ok spell) :
    s.SetsUp spell := by
  obtain ⟨cooldown, hcooldown, h⟩ := exists_of_bind_eq_ok h
  obtain ⟨periodic, hperiodic, h⟩ := exists_of_bind_eq_ok h
  cases h
  refine ⟨rfl, rfl, fieldTime_eq_ok hcooldown, rfl, rfl, rfl, ?_⟩
  exact rel_of_mapM_eq_ok (fun _ _ => PeriodicSpec.setsUp_toPeriodic) hperiodic

/-! ### Targets -/

namespace Scenario

variable {settings : Settings} {seed : UInt64}

/-- A target that has joined in that place. -/
def fieldedTarget (place : Nat) (t : TargetSpec) : Combatant where
  id := ⟨place⟩
  label := t.label
  role := .target place
  stats := t.stats

/-- The encounter with some targets and nobody else, before anything has happened. -/
def fielded (settings : Settings) (seed : UInt64) (targets : List TargetSpec) : Encounter :=
  { Encounter.new settings seed with
    combatants := targets.mapIdx fieldedTarget
    roster := (List.range targets.length).map CombatantId.mk }

theorem length_roster_fielded (targets : List TargetSpec) :
    (fielded settings seed targets).roster.length = targets.length := by
  simp [fielded]

theorem nextId_fielded (targets : List TargetSpec) :
    (fielded settings seed targets).nextId = ⟨targets.length⟩ := by
  simp [fielded, Encounter.nextId]

/-- A target that joins others takes the next place, and nobody takes aim at it. -/
theorem addTarget_fielded {targets : List TargetSpec} (t : TargetSpec)
    (h : targets.length < Encounter.maxTargets) :
    (fielded settings seed targets).addTarget t.label t.stats =
      .ok (fielded settings seed (targets ++ [t])) := by
  have hcombatants : (targets.mapIdx fieldedTarget ++ [fieldedTarget targets.length t]).map
      (Encounter.takeAim ⟨targets.length⟩) = (targets ++ [t]).mapIdx fieldedTarget := by
    rw [← List.mapIdx_concat]
    -- Only players take aim, and there is none yet.
    refine map_eq_self fun c hc => if_neg ?_
    obtain ⟨place, _, rfl⟩ := List.mem_mapIdx.mp hc
    exact fun hplayer => nomatch hplayer.1
  rw [Encounter.addTarget, length_roster_fielded, if_pos h, nextId_fielded]
  unfold fielded
  rw [List.length_append, List.length_singleton, List.range_succ, List.map_append, ← hcombatants]
  rfl

theorem addTargets_fielded {targets more : List TargetSpec} {e : Encounter}
    (h : addTargets (fielded settings seed targets) more = .ok e) :
    e = fielded settings seed (targets ++ more) := by
  induction more generalizing targets with
  | nil =>
    cases h
    rw [List.append_nil]
  | cons t rest ih =>
    rw [addTargets] at h
    by_cases hroom : targets.length < Encounter.maxTargets
    · rw [addTarget_fielded t hroom] at h
      rw [ih h, List.append_assoc]
      rfl
    · have hfull : (fielded settings seed targets).addTarget t.label t.stats =
          .error ⟨Encounter.maxTargets⟩ := if_neg ((length_roster_fielded targets).symm ▸ hroom)
      rw [hfull] at h
      cases h

end Scenario

/-! ### The whole encounter -/

/-- The player of a description.  Of several definitions of one spell it knows the last, and it
    knows the spells in the order of these. -/
structure PlayerSpec.SetsUp (settings : Settings) (p : PlayerSpec) (c : Combatant) : Prop where
  label : c.label = p.label
  role : c.role = .player
  stats : c.stats = p.stats
  enabled : c.enabled = true
  runes : Option.Rel (RuneBarSpec.SetsUp settings) p.runes c.runes
  spells : List.Forall₂ SpellSpec.SetsUp (p.spells.pwFilter (·.id ≠ ·.id)) c.spells

namespace Scenario

/-- The encounter is the one that a scenario describes, and `player` is its player. -/
structure SetsUp (s : Scenario) (settings : Settings) (seed : UInt64) (e : Encounter)
    (player : CombatantId) : Prop where
  sameSettings : e.settings = settings
  clock : e.clock = Time.zero
  damage : e.damage = 0.0
  casts : e.casts = 0
  dice : e.dice = Dice.ofSeed seed
  /-- The targets take the first places, in their order. -/
  roster : e.roster = (List.range s.targets.length).map CombatantId.mk
  /-- The player takes the next one, and aims at the first target if there is one. -/
  combatants : ∃ c, e.combatants = s.targets.mapIdx fieldedTarget ++ [c] ∧ c.id = player ∧
    c.aim = e.roster.head? ∧ s.player.SetsUp settings c
  identity : player = ⟨s.targets.length⟩
  /-- Nobody has done anything yet. -/
  newcomers : ∀ c ∈ e.combatants, Encounter.Newcomer c

/-- The player that joins some targets, with a rune bar and spells. -/
def fieldedPlayer (s : Scenario) (runes : Option RuneBar) (spells : List Spell) : Combatant where
  id := ⟨s.targets.length⟩
  label := s.player.label
  role := .player
  stats := s.player.stats
  runes := runes
  spells := spells.pwFilter (·.id ≠ ·.id)
  aim := ((List.range s.targets.length).map CombatantId.mk).head?

/-- What is set up is all there is: the targets, the player, and nothing else. -/
theorem build_eq_fielded {s : Scenario} {e : Encounter} {player : CombatantId}
    (h : s.build settings seed = .ok (e, player)) :
    ∃ runes spells,
      s.player.runes.mapM (·.toBar settings.runeCooldown) = .ok runes ∧
      s.player.spells.mapM SpellSpec.toSpell = .ok spells ∧
      player = ⟨s.targets.length⟩ ∧
      e = { fielded settings seed s.targets with
        combatants := s.targets.mapIdx fieldedTarget ++ [s.fieldedPlayer runes spells] } := by
  obtain ⟨joined, runes, spells, hjoined, rfl, rfl, hrunes, hspells⟩ := build_eq_ok h
  refine ⟨runes, spells, hrunes, hspells, ?_⟩
  have hjoined : addTargets (fielded settings seed []) s.targets = .ok joined := hjoined
  obtain rfl := addTargets_fielded hjoined
  rw [List.nil_append]
  have hid : (fielded settings seed s.targets).nextId = ⟨s.targets.length⟩ :=
    nextId_fielded s.targets
  rw [hid]
  refine ⟨rfl, ?_⟩
  -- The player has come last, and so is the one who is given the rune bar and the spells.
  have hplayer := modify_append_length (s.targets.mapIdx fieldedTarget)
    (s.fieldedPlayer none []) (fun c => spells.foldl Combatant.learn { c with runes })
  rw [List.length_mapIdx, Combatant.foldl_learn] at hplayer
  unfold Encounter.modify Encounter.addPlayer
  rw [hid]
  exact congrArg (fun combatants => { fielded settings seed s.targets with combatants }) hplayer

theorem setsUp_of_build {s : Scenario} {e : Encounter} {player : CombatantId}
    (h : s.build settings seed = .ok (e, player)) : s.SetsUp settings seed e player := by
  obtain ⟨runes, spells, hrunes, hspells, rfl, rfl⟩ := build_eq_fielded h
  constructor
  case combatants =>
    refine ⟨_, rfl, rfl, rfl, rfl, rfl, rfl, rfl, ?_, ?_⟩
    · exact rel_of_mapM_eq_ok (fun _ _ => RuneBarSpec.setsUp_toBar) hrunes
    · refine forall₂_pwFilter_key ?_ fun _ _ => SpellSpec.SetsUp.id
      exact forall₂_of_mapM_eq_ok (fun _ _ => SpellSpec.setsUp_toSpell) hspells
  case newcomers =>
    intro c hc
    rcases List.mem_append.mp hc with hc | hc
    · obtain ⟨place, _, rfl⟩ := List.mem_mapIdx.mp hc
      exact ⟨rfl, rfl, rfl⟩
    · cases List.mem_singleton.mp hc
      exact ⟨rfl, rfl, rfl⟩
  all_goals rfl

/-- Setting up a scenario succeeds exactly if the scenario is valid, and otherwise fails with the
    first of its faults: those of the targets come first, then the cooldown of the rune bar and its
    Death runes, and then spell after spell the cooldown and the period.  What is set up is as
    described. -/
theorem built_as_described (s : Scenario) (settings : Settings) (seed : UInt64) :
    ((∃ e player, s.build settings seed = .ok (e, player)) ↔ s.Valid) ∧
    (∀ cause, s.build settings seed = .error cause ↔ s.faults.head? = some cause) ∧
    ∀ e player, s.build settings seed = .ok (e, player) → s.SetsUp settings seed e player := by
  have hfails := s.failsFirst_build settings seed
  refine ⟨?_, fun cause => hfails.eq_error_iff, fun e player => setsUp_of_build⟩
  rw [← s.faults_eq_nil_iff, ← hfails.exists_ok_iff, Prod.exists]

/-- A knight who has the same spell twice knows it as it came last, and a slot that is listed twice
    holds one Death rune. -/
theorem built_as_described_knight :
    let s : Scenario :=
      { player :=
          { label := "Knight"
            runes := some { deathSlots := [2, 2] }
            spells :=
              [{ id := ⟨1⟩, label := "Strike" }, { id := ⟨2⟩, label := "Fever" },
                { id := ⟨1⟩, label := "Great Strike", cooldownSeconds := 1.5 }] }
        targets := [{ label := "Dummy" }, { label := "Scarecrow" }] }
    ∃ e c bar, s.build {} 1 = .ok (e, ⟨2⟩) ∧ e.combatant? ⟨2⟩ = some c ∧ c.aim = some ⟨0⟩ ∧
      c.spells.map Spell.label = ["Fever", "Great Strike"] ∧ c.runes = some bar ∧
      ∀ i, (bar.slot i).death = true ↔ i = 1 := by
  intro s
  obtain ⟨hvalid, _, hsets⟩ := built_as_described s {} 1
  have hs : s.Valid := s.faults_eq_nil_iff.mp (List.isEmpty_iff.mp (by decide +kernel))
  obtain ⟨e, player, hbuild⟩ := hvalid.mpr hs
  have h := hsets e player hbuild
  obtain rfl := h.identity
  obtain ⟨c, hcombatants, _, haim, hplayer⟩ := h.combatants
  have hlabels := map_eq_of_forall₂ hplayer.spells fun _ _ => SpellSpec.SetsUp.label
  obtain ⟨bar, hrunes, hbar⟩ : ∃ bar, c.runes = some bar ∧
      RuneBarSpec.SetsUp {} { deathSlots := [2, 2] } bar := by
    have hrunes := hplayer.runes
    generalize c.runes = runes at hrunes
    cases hrunes with
    | some hbar => exact ⟨_, rfl, hbar⟩
  refine ⟨e, c, bar, hbuild, ?_, ?_, hlabels, hrunes, fun i => ?_⟩
  · rw [Encounter.combatant?, hcombatants]
    rfl
  · rw [haim, h.roster]
    rfl
  · rw [hbar.death]
    revert i
    decide

end Scenario

end ActionPriority
