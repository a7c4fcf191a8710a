import ActionPriority.Proofs.Encounter.Steering

/-! # The Roster

    Combatants are kept in a table in the order in which they join, and the targets among them
    once more in the roster.  The two are written in one operation, with a way out between them:
    when the roster is full, the target that was to join does not.

    * `Encounter.enlist` lets a target join piece by piece.  What it has changed when it finds the
      roster full stays changed, and that is nothing (`enlist_of_full`).
    * Only joining touches the roster, or the identity and the role of anybody
      (`badges_perform`).  The invariant is that the badges of the targets are the members of the
      roster with their places (`Reachable.targetBadges`), and all that the table and the roster
      have to do with each other follows from it (`Reachable.rosterAgrees`).
    * Default aims are set in two places, when a player joins and when a target does.  Whoever has
      not been told where to aim aims at the first target, if there is one
      (`AimsFirst.perform`).
-/

namespace ActionPriority

/-- Is it one of the targets? -/
def Combatant.isTarget (c : Combatant) : Bool := c.place?.isSome

/-! ### Views -/

/-- What joining settles about a combatant for good. -/
structure Combatant.Badge where
  id : CombatantId
  role : Role

/-- The badge of a combatant. -/
def Combatant.badge (c : Combatant) : Badge where
  id := c.id
  role := c.role

/-- The badge is that of a target. -/
def Combatant.Badge.isTarget (b : Badge) : Bool :=
  match b.role with
  | .player => false
  | .target _ => true

/-- What only joining and taking aim change about a combatant. -/
structure Combatant.Standing where
  badge : Badge
  aim : Option CombatantId

/-- The standing of a combatant. -/
def Combatant.standing (c : Combatant) : Standing where
  badge := c.badge
  aim := c.aim

theorem Combatant.isTarget_badge (c : Combatant) : c.badge.isTarget = c.isTarget := by
  unfold badge Badge.isTarget isTarget place?
  cases c.role <;> rfl

namespace Encounter

/-! ### Joining piece by piece -/

/-- The roster takes in a target and tells its place, or has no room for it. -/
def pushTarget (e : Encounter) (id : CombatantId) : Option Nat × Encounter :=
  if e.roster.length < maxTargets then
    (some e.roster.length, { e with roster := e.roster ++ [id] })
  else (none, e)

/-- A target joins: it is given an identity, its place in the roster, and then its place in the
    table, and players without an aim aim at it. -/
def enlist (e : Encounter) (label : String) (stats : Stats) :
    Except RosterFull CombatantId × Encounter :=
  let id := e.nextId
  match e.pushTarget id with
  | (none, e) => (.error ⟨maxTargets⟩, e)
  | (some place, e) =>
    let joined : Combatant := { id, label, role := .target place, stats }
    let e : Encounter := { e with combatants := e.combatants ++ [joined] }
    (.ok id, { e with combatants := e.combatants.map (takeAim id) })

section Enlist

variable {e : Encounter}

/-- A full roster refuses the target, and all is as before. -/
theorem enlist_of_full (h : ¬ e.roster.length < maxTargets) (label : String) (stats : Stats) :
    e.enlist label stats = (.error ⟨maxTargets⟩, e) ∧
      e.addTarget label stats = .error ⟨maxTargets⟩ := by
  have hpush : e.pushTarget e.nextId = (none, e) := if_neg h
  constructor
  · simp only [enlist, hpush]
  · exact if_neg h

/-- While there is room, a target joins piece by piece as it does at once. -/
theorem enlist_of_room (h : e.roster.length < maxTargets) (label : String) (stats : Stats) :
    ∃ after, e.enlist label stats = (.ok e.nextId, after) ∧
      e.addTarget label stats = .ok after := by
  have hpush : e.pushTarget e.nextId =
      (some e.roster.length, { e with roster := e.roster ++ [e.nextId] }) := if_pos h
  refine ⟨_, ?_, if_pos h⟩
  simp only [enlist, hpush]

end Enlist

/-! ### Only joining touches badges -/

/-- The operation makes somebody join, if it is not refused. -/
def Op.Joins : Op → Prop
  | .addPlayer _ _ => True
  | .addTarget _ _ => True
  | _ => False

/-- The operation has to do with aims. -/
def Op.Aims : Op → Prop
  | .setAim _ _ => True
  | _ => False

section Views

variable {e : Encounter}

theorem standings_setEnabled {id : CombatantId} {enabled : Bool} {after : Encounter}
    (h : e.setEnabled? id enabled = some after) :
    after.combatants.map Combatant.standing = e.combatants.map Combatant.standing ∧
      after.roster = e.roster := by
  have hmodify : (e.modify id fun c => { c with enabled }).combatants.map Combatant.standing =
      e.combatants.map Combatant.standing :=
    map_combatants_modify (f := fun c => { c with enabled }) fun _ _ => rfl
  obtain rfl := setEnabled?_eq_some h
  cases enabled with
  | true => exact ⟨hmodify, rfl⟩
  | false =>
    refine ⟨?_, rfl⟩
    rw [← hmodify]
    -- Stopping effects changes nobody's standing.
    exact (List.map_map ..).trans (List.map_congr_left fun c _ => rfl)

/-- Operations other than joining and taking aim keep all standings, and the roster. -/
theorem standings_perform {op : Op} (hjoins : ¬ op.Joins) (haims : ¬ op.Aims) :
    (e.perform op).combatants.map Combatant.standing = e.combatants.map Combatant.standing ∧
      (e.perform op).roster = e.roster := by
  cases op with
  | addPlayer label stats | addTarget label stats => exact absurd trivial hjoins
  | setAim id aim => exact absurd trivial haims
  | setEnabled id enabled =>
    rw [perform]
    cases hset : e.setEnabled? id enabled with
    | none => exact ⟨rfl, rfl⟩
    | some after => exact standings_setEnabled hset
  | setStats id stats =>
    exact ⟨map_combatants_modify (f := fun c => { c with stats }) fun _ _ => rfl, rfl⟩
  | learn id spell =>
    exact ⟨map_combatants_modify (f := fun c => c.learn spell) fun _ _ => rfl, rfl⟩
  | setRunes id runes =>
    exact ⟨map_combatants_modify (f := fun c => { c with runes }) fun _ _ => rfl, rfl⟩
  | moveRunes id m =>
    exact ⟨map_combatants_modify (f := fun c => { c with runes := c.runes.map (·.move m) })
      fun _ _ => rfl, rfl⟩
  | cast caster spell target =>
    rw [perform]
    cases hcast : e.cast caster spell target with
    | error cause => exact ⟨rfl, rfl⟩
    | ok after =>
      refine ⟨map_combatants_cast (fun _ _ _ _ _ => rfl) hcast, ?_⟩
      obtain ⟨_, _, _, _, _, _, _, _, rfl⟩ := cast_eq_ok hcast
      exact land_roster ..
  | advanceTo t => exact ⟨map_combatants_advanceTo (fun _ _ => rfl) t, e.roster_fireUntil _⟩

/-- Operations other than joining keep all badges, and the roster. -/
theorem badges_perform {op : Op} (hjoins : ¬ op.Joins) :
    (e.perform op).combatants.map Combatant.badge = e.combatants.map Combatant.badge ∧
      (e.perform op).roster = e.roster := by
  by_cases haims : op.Aims
  · cases op with
    | setAim id aim =>
      rw [perform, setAim?]
      split
      · exact ⟨map_combatants_modify (f := fun c => { c with aim }) fun _ _ => rfl, rfl⟩
      · exact ⟨rfl, rfl⟩
    | _ => exact haims.elim
  · obtain ⟨hstandings, hroster⟩ := standings_perform (e := e) hjoins haims
    have hbadges := congrArg (List.map Combatant.Standing.badge) hstandings
    rw [List.map_map, List.map_map] at hbadges
    exact ⟨hbadges, hroster⟩

end Views

/-! ### Targets and their places -/

/-- The badges of the targets are the members of the roster, each with its place. -/
def TargetBadges (e : Encounter) : Prop :=
  (e.combatants.map Combatant.badge).filter Combatant.Badge.isTarget =
    e.roster.zipIdx.map fun member => ⟨member.1, .target member.2⟩

section TargetBadges

variable {e after : Encounter}

theorem TargetBadges.addPlayer (h : e.TargetBadges) (label : String) (stats : Stats) :
    (e.addPlayer label stats).TargetBadges := by
  show (((e.combatants ++ [_]).map Combatant.badge).filter _) = _
  rw [List.map_append, List.filter_append, h]
  exact List.append_nil _

theorem badge_takeAim (id : CombatantId) (c : Combatant) : (takeAim id c).badge = c.badge := by
  unfold takeAim
  split <;> rfl

/-- What joins as a target takes the next place. -/
theorem TargetBadges.addTarget {label : String} {stats : Stats} (h : e.TargetBadges)
    (hadd : e.addTarget label stats = .ok after) : after.TargetBadges := by
  unfold Encounter.addTarget at hadd
  split at hadd
  · cases hadd
    show ((((e.combatants ++ [_]).map (takeAim e.nextId)).map Combatant.badge).filter _) = _
    have hbadges : ∀ l : List Combatant,
        (l.map (takeAim e.nextId)).map Combatant.badge = l.map Combatant.badge := by
      intro l
      rw [List.map_map]
      exact List.map_congr_left fun c _ => badge_takeAim e.nextId c
    rw [hbadges, List.map_append, List.filter_append, h, List.zipIdx_append, List.map_append,
      Nat.zero_add]
    rfl
  · cases hadd

theorem TargetBadges.perform (h : e.TargetBadges) (op : Op) : (e.perform op).TargetBadges := by
  by_cases hjoins : op.Joins
  · cases op with
    | addPlayer label stats => exact h.addPlayer label stats
    | addTarget label stats =>
      rw [Encounter.perform]
      cases hadd : e.addTarget label stats with
      | error full => exact h
      | ok after => exact h.addTarget hadd
    | _ => exact hjoins.elim
  · obtain ⟨hbadges, hroster⟩ := badges_perform (e := e) hjoins
    unfold TargetBadges
    rw [hbadges, hroster]
    exact h

/-- In a reachable encounter targets are in the roster by their places, and nobody else is. -/
theorem Reachable.targetBadges (h : e.Reachable) : e.TargetBadges := by
  induction h with
  | new settings seed => rfl
  | perform op _ ih => exact ih.perform op

/-- The roster is the list of the targets' identities. -/
theorem TargetBadges.roster_eq (h : e.TargetBadges) :
    e.roster = (e.combatants.filter Combatant.isTarget).map Combatant.id := by
  have hids := congrArg (List.map Combatant.Badge.id) h
  rw [List.filter_map, List.map_map, List.map_map] at hids
  have hfilter : e.combatants.filter (Combatant.Badge.isTarget ∘ Combatant.badge) =
      e.combatants.filter Combatant.isTarget :=
    List.filter_congr fun c _ => c.isTarget_badge
  rw [hfilter] at hids
  calc e.roster = e.roster.zipIdx.map Prod.fst := (List.zipIdx_map_fst 0 e.roster).symm
    _ = (e.combatants.filter Combatant.isTarget).map Combatant.id := hids.symm

/-- Each member of the roster is the identity of a combatant who has its place. -/
theorem TargetBadges.exists_combatant (h : e.TargetBadges) {place : Nat} {id : CombatantId}
    (hplace : e.roster[place]? = some id) :
    ∃ c : Combatant, c ∈ e.combatants ∧ c.id = id ∧ c.role = .target place := by
  have hmem : (⟨id, .target place⟩ : Combatant.Badge) ∈
      (e.combatants.map Combatant.badge).filter Combatant.Badge.isTarget := by
    rw [h]
    exact List.mem_map.mpr ⟨(id, place), List.mem_zipIdx_iff_getElem?.mpr hplace, rfl⟩
  obtain ⟨c, hc, hbadge⟩ := List.mem_map.mp (List.mem_filter.mp hmem).1
  exact ⟨c, hc, congrArg Combatant.Badge.id hbadge, congrArg Combatant.Badge.role hbadge⟩

end TargetBadges

/-! ### The table and the roster -/

/-- The table of combatants and the roster agree. -/
structure RosterAgrees (e : Encounter) : Prop where
  /-- The identity of a combatant is its place in the table. -/
  ids : ∀ (i : Nat) (c : Combatant), e.combatants[i]? = some c → c.id = ⟨i⟩
  /-- The roster has the targets, and nobody else, in the order of the table. -/
  roster : e.roster = (e.combatants.filter Combatant.isTarget).map Combatant.id
  /-- They are found by it. -/
  targets : e.targets = e.combatants.filter Combatant.isTarget
  nodup : e.roster.Nodup
  /-- A target knows its place in the roster. -/
  places : ∀ (place : Nat) (id : CombatantId), e.roster[place]? = some id →
    ∃ c, e.combatant? id = some c ∧ c.role = .target place
  room : e.roster.length ≤ maxTargets
  /-- Only a full roster refuses a target, and then all is as before. -/
  refusal : ∀ label stats,
    e.roster.length = maxTargets ∧ e.enlist label stats = (.error ⟨maxTargets⟩, e) ∨
    e.roster.length < maxTargets ∧
      e.enlist label stats = (.ok e.nextId, e.perform (.addTarget label stats))

section Agrees

variable {e : Encounter}

theorem Reachable.length_roster_le (h : e.Reachable) : e.roster.length ≤ maxTargets := by
  induction h with
  | new settings seed => exact Nat.zero_le _
  | @perform e op _ ih =>
    by_cases hjoins : op.Joins
    · cases op with
      | addPlayer label stats => exact ih
      | addTarget label stats =>
        rw [Encounter.perform, addTarget]
        split
        · next hroom =>
          show (e.roster ++ [_]).length ≤ maxTargets
          rw [List.length_append]
          exact hroom
        · exact ih
      | _ => exact hjoins.elim
    · rw [(badges_perform hjoins).2]
      exact ih

/-- Whoever is in the table is found by the own identity. -/
theorem Reachable.combatant?_id (h : e.Reachable) {c : Combatant} (hc : c ∈ e.combatants) :
    e.combatant? c.id = some c := by
  obtain ⟨i, hi⟩ := List.mem_iff_getElem?.mp hc
  have hfound : e.combatant? ⟨i⟩ = some c := hi
  rw [h.id_eq hfound]
  exact hfound

/-- Nobody's identity comes twice in the table. -/
theorem Reachable.nodup_ids (h : e.Reachable) : (e.combatants.map Combatant.id).Nodup := by
  refine List.pairwise_map.mpr (List.pairwise_iff_getElem.mpr ?_)
  intro i j hi hj hlt hsame
  have hfound : e.combatant? ⟨i⟩ = some e.combatants[i] := List.getElem?_eq_getElem hi
  have hother : e.combatant? ⟨j⟩ = some e.combatants[j] := List.getElem?_eq_getElem hj
  rw [h.id_eq hfound, h.id_eq hother] at hsame
  cases hsame
  exact Nat.lt_irrefl _ hlt

theorem Reachable.rosterAgrees (h : e.Reachable) : e.RosterAgrees where
  ids := by
    intro i c hc
    have hfound : e.combatant? ⟨i⟩ = some c := hc
    exact h.id_eq hfound
  roster := h.targetBadges.roster_eq
  targets := by
    have hfound : ∀ c ∈ e.combatants.filter Combatant.isTarget,
        (e.combatant? ∘ Combatant.id) c = some c :=
      fun c hc => h.combatant?_id (List.mem_filter.mp hc).1
    rw [targets, h.targetBadges.roster_eq, List.filterMap_map, List.filterMap_congr hfound]
    exact List.filterMap_some
  nodup := by
    rw [h.targetBadges.roster_eq]
    exact h.nodup_ids.sublist (List.filter_sublist.map _)
  places := by
    intro place id hplace
    obtain ⟨c, hc, rfl, hrole⟩ := h.targetBadges.exists_combatant hplace
    exact ⟨c, h.combatant?_id hc, hrole⟩
  room := h.length_roster_le
  refusal := by
    intro label stats
    by_cases hroom : e.roster.length < maxTargets
    · obtain ⟨after, henlist, hadd⟩ := enlist_of_room hroom label stats
      right
      rw [Encounter.perform, hadd]
      exact ⟨hroom, henlist⟩
    · left
      have hfull := Nat.le_antisymm h.length_roster_le (Nat.le_of_not_lt hroom)
      exact ⟨hfull, (enlist_of_full hroom label stats).1⟩

end Agrees

/-! ### Default aims -/

/-- The player of that identity, if there is one, aims at the first target, if there is one. -/
def AimsFirst (id : CombatantId) (e : Encounter) : Prop :=
  ∀ c, e.combatant? id = some c → c.role = .player → c.aim = e.roster.head?

/-- In the course of some operations the combatant is told where to aim.  Whoever has not joined
    cannot be told. -/
def SetsAim (id : CombatantId) : Encounter → List Op → Prop
  | _, [] => False
  | e, op :: rest =>
    (∃ aim, op = .setAim id aim ∧ (e.setAim? id aim).isSome = true) ∨ SetsAim id (e.perform op) rest

section Aims

variable {e : Encounter} {id : CombatantId}

/-- Whoever is found after somebody has joined was there before, or is the one who joined. -/
theorem of_getElem?_concat {l : List Combatant} {joined c : Combatant} {i : Nat}
    (h : (l ++ [joined])[i]? = some c) : l[i]? = some c ∨ c = joined := by
  by_cases hlt : i < l.length
  · left
    rw [List.getElem?_append_left hlt] at h
    exact h
  · right
    rw [List.getElem?_append_right (Nat.le_of_not_lt hlt)] at h
    exact List.mem_singleton.mp (List.mem_of_getElem? h)

theorem AimsFirst.addPlayer (h : e.AimsFirst id) (label : String) (stats : Stats) :
    (e.addPlayer label stats).AimsFirst id := by
  intro c hc hrole
  rcases of_getElem?_concat hc with hbefore | hjoined
  · exact h c hbefore hrole
  · rw [hjoined]
    rfl

/-- A player who aims at the first target keeps doing so when another joins, and one who aims at
    nobody, since there was no target, aims at the one that joins. -/
theorem AimsFirst.addTarget {after : Encounter} {label : String} {stats : Stats}
    (h : e.AimsFirst id) (hadd : e.addTarget label stats = .ok after) : after.AimsFirst id := by
  unfold Encounter.addTarget at hadd
  split at hadd
  · cases hadd
    intro c hc hrole
    obtain ⟨c₀, hc₀, rfl⟩ := Option.map_eq_some_iff.mp ((List.getElem?_map ..).symm.trans hc)
    have hrole₀ : c₀.role = .player := by
      rw [← hrole]
      exact (congrArg Combatant.Badge.role (badge_takeAim e.nextId c₀)).symm
    rcases of_getElem?_concat hc₀ with hbefore | hjoined
    · have haim : c₀.aim = e.roster.head? := h c₀ hbefore hrole₀
      show (takeAim e.nextId c₀).aim = (e.roster ++ [e.nextId]).head?
      unfold takeAim
      cases hroster : e.roster with
      | nil =>
        -- There was no target to aim at, and now there is the one that joins.
        rw [hroster, List.head?_nil] at haim
        rw [if_pos ⟨hrole₀, haim⟩]
        rfl
      | cons first others =>
        rw [hroster, List.head?_cons] at haim
        have hsome : ¬ (c₀.role = .player ∧ c₀.aim = none) := by
          rintro ⟨_, hnone⟩
          rw [haim] at hnone
          cases hnone
        rw [if_neg hsome, haim]
        rfl
    · rw [hjoined] at hrole₀
      cases hrole₀
  · cases hadd

/-- As long as a player is not told where to aim, it aims at the first target. -/
theorem AimsFirst.perform {op : Op} (h : e.AimsFirst id)
    (hop : ¬ ∃ aim, op = .setAim id aim ∧ (e.setAim? id aim).isSome = true) :
    (e.perform op).AimsFirst id := by
  by_cases hjoins : op.Joins
  · cases op with
    | addPlayer label stats => exact h.addPlayer label stats
    | addTarget label stats =>
      rw [Encounter.perform]
      cases hadd : e.addTarget label stats with
      | error full => exact h
      | ok after => exact h.addTarget hadd
    | _ => exact hjoins.elim
  by_cases haims : op.Aims
  · cases op with
    | setAim other aim =>
      rw [Encounter.perform]
      cases hset : e.setAim? other aim with
      | none => exact h
      | some after =>
        have hne : other ≠ id := by
          rintro rfl
          exact hop ⟨aim, rfl, by rw [hset]; rfl⟩
        unfold setAim? at hset
        split at hset
        · cases hset
          intro c hc hrole
          -- It is somebody else who takes aim.
          have hindex : other.index ≠ id.index := by
            intro he
            cases other; cases id; cases he
            exact hne rfl
          rw [Option.getD_some, combatant?_modify, Option.map_eq_some_iff] at hc
          obtain ⟨c₀, hc₀, rfl⟩ := hc
          rw [if_neg hindex] at hrole ⊢
          exact h c₀ hc₀ hrole
        · cases hset
    | _ => exact haims.elim
  · obtain ⟨hstandings, hroster⟩ := standings_perform (e := e) hjoins haims
    intro c hc hrole
    have hsame := map_combatant?_of_map hstandings id
    rw [hc, Option.map_some] at hsame
    obtain ⟨c₀, hc₀, hstanding⟩ := Option.map_eq_some_iff.mp hsame.symm
    have hrole₀ : c₀.role = c.role := congrArg (·.badge.role) hstanding
    have haim₀ : c₀.aim = c.aim := congrArg Combatant.Standing.aim hstanding
    rw [← haim₀, hroster]
    exact h c₀ hc₀ (hrole₀.trans hrole)

theorem AimsFirst.run {ops : List Op} (h : e.AimsFirst id) (hnever : ¬ e.SetsAim id ops) :
    (e.run ops).AimsFirst id := by
  induction ops generalizing e with
  | nil => exact h
  | cons op rest ih =>
    obtain ⟨hop, hrest⟩ := not_or.mp hnever
    exact ih (h.perform hop) hrest

end Aims

/-- After any operations the table of combatants and the roster agree, and a target that finds the
    roster full has changed nothing.  A player who has never been told where to aim aims at the
    first target, if there is one, in whatever order players and targets have joined. -/
theorem roster_agrees (settings : Settings) (seed : UInt64) (ops : List Op) :
    ((Encounter.new settings seed).run ops).RosterAgrees ∧
    ∀ id c, ((Encounter.new settings seed).run ops).combatant? id = some c → c.role = .player →
      ¬ (Encounter.new settings seed).SetsAim id ops →
        c.aim = ((Encounter.new settings seed).run ops).roster.head? := by
  have hreachable := (Reachable.new settings seed).run ops
  refine ⟨hreachable.rosterAgrees, ?_⟩
  intro id c hc hrole hnever
  -- In a new encounter there is nobody yet.
  have hnew : (Encounter.new settings seed).AimsFirst id := by
    intro c hc
    cases hc
  exact hnew.run hnever c hc hrole

/-- A squire joins before the two dummies, and the knight joins between them and is told to aim at
    the squire.  In the end the squire aims at the first dummy, though nobody has told it to. -/
theorem roster_agrees_squire :
    let ops : List Op := [.addPlayer "Squire" {}, .addTarget "Dummy" {}, .addPlayer "Knight" {},
      .setAim ⟨2⟩ (some ⟨0⟩), .addTarget "Scarecrow" {}]
    ((Encounter.new {} 1).run ops).roster = [⟨1⟩, ⟨3⟩] ∧
      ∃ c, ((Encounter.new {} 1).run ops).combatant? ⟨0⟩ = some c ∧ c.aim = some ⟨1⟩ := by
  intro ops
  obtain ⟨hagrees, haims⟩ := roster_agrees {} 1 ops
  have hnever : ¬ (Encounter.new {} 1).SetsAim ⟨0⟩ ops := by
    simp [ops, SetsAim]
  refine ⟨hagrees.roster.trans rfl, _, rfl, ?_⟩
  exact haims ⟨0⟩ _ rfl rfl hnever

end Encounter

end ActionPriority
