import ActionPriority.Proofs.Condition.Retargeting
import ActionPriority.Proofs.PriorityList.Aims
import ActionPriority.Proofs.PriorityList.InertEntries
import ActionPriority.Proofs.PriorityList.WholeTrials

/-! # The Fixed Aim

    A list may ask for whomever the player aims at.  In the encounters of a scenario that is the
    first target for good, so the list could as well name that one (`PriorityList.pinned`).

    * The player of a scenario joins after the targets and aims at the first of them
      (`Scenario.aims_of_build`).  A trial has only casts and jumps of the clock, so it stays at
      that (`Cell.resolve_run`).
    * While the aim stands, entries that name it and entries that name the first target act in the
      same cases and do the same (`Scope.related_compileEntry`), and two rotations that differ in
      no more than this go in pairs (`Rotation.Compiles.matches_retarget`).
    * So trials of the list and of the pinned list decide the same throughout and come to the same
      (`PriorityList.pinned_alongside`, `Study.report_pinned`).
-/

namespace ActionPriority

open Checked (Related)

/-! ### Lists -/

/-- The action with each target `r` written as `f r`. -/
def ActionSpec.retarget (f : TargetRef → TargetRef) : ActionSpec → ActionSpec
  | .cast spell target => .cast spell (f target)
  | .wait seconds => .wait seconds

/-- The entry with each target `r` written as `f r`. -/
def EntrySpec.retarget (f : TargetRef → TargetRef) (spec : EntrySpec) : EntrySpec :=
  { spec with
    condition := spec.condition.map (·.retarget f)
    action := spec.action.retarget f }

/-- The list with each target `r` written as `f r`. -/
def PriorityList.retarget (f : TargetRef → TargetRef) (list : PriorityList) : PriorityList where
  entries := list.entries.map (·.retarget f)

/-- The first target of the roster for the current one, and everybody else as they are. -/
def TargetRef.pinned : TargetRef → TargetRef
  | .currentTarget => .place 0
  | r => r

/-- The list that names the first target instead of the current one, in conditions at any depth
    and in actions. -/
def PriorityList.pinned (list : PriorityList) : PriorityList := list.retarget TargetRef.pinned

/-! ### Entries -/

/-- Wherever `inv` holds the actions are ready in the same cases and do the same. -/
structure Action.Alike (inv : Encounter → Prop) (a a' : Action) : Prop where
  isReady : ∀ e, inv e → a'.isReady e = a.isReady e
  execute : ∀ e, inv e → a'.execute e = a.execute e

/-- Entries made of what is alike agree. -/
theorem Entry.Agrees.of_alike {inv : Encounter → Prop} {id : Option Uuid} {c c' : Option Test}
    {a a' : Action} (hc : Option.Rel (Test.Alike inv) c c') (ha : a.Alike inv a') :
    (Entry.mk id c a).Agrees inv (Entry.mk id c' a') := by
  refine ⟨fun e he => ?_, fun e he => (ha.execute e he).symm⟩
  rw [Entry.shouldAct, Entry.shouldAct, ha.isReady e he]
  cases hc with
  | none => rfl
  | some halike => rw [Option.all_some, Option.all_some, halike e he]

namespace Scope

variable {inv : Encounter → Prop} {s : Scope} {f : TargetRef → TargetRef}
  (hf : s.Retargets inv f)

include hf

theorem related_compileAction (spec : ActionSpec) :
    (s.compileAction spec).Related (Action.Alike inv) (s.compileAction (spec.retarget f)) := by
  cases spec with
  | wait seconds => exact .refl (fun _ => ⟨fun _ _ => rfl, fun _ _ => rfl⟩) _
  | cast id target =>
    refine .bind (.refl (fun _ => rfl) (s.spell id)) fun spell spell' hspell => ?_
    obtain rfl : spell = spell' := hspell
    refine .bind (hf target) fun cell cell' halike => .pure ⟨fun e he => ?_, fun e he => ?_⟩
    · rw [Action.isReady, Action.isReady, halike e he]
    · rw [Action.execute, Action.execute, halike e he]

theorem related_compileCondition (condition : Option Expr) :
    (s.compileCondition condition).Related (Option.Rel (Test.Alike inv))
      (s.compileCondition (condition.map (·.retarget f))) := by
  cases condition with
  | none => exact .pure .none
  | some x =>
    exact .bind (related_compileTest (related_compile hf x)) fun _ _ halike => .pure (.some halike)

/-- Written in either way an entry compiles or does not, and it does the same wherever `inv`
    holds. -/
theorem related_compileEntry (spec : EntrySpec) :
    (s.compileEntry spec).Related (Entry.Agrees inv) (s.compileEntry (spec.retarget f)) := by
  obtain ⟨id, hidden, condition, action⟩ := spec
  have hcondition := related_compileCondition hf condition
  have haction := related_compileAction hf action
  unfold Related at hcondition haction ⊢
  rw [result_compileEntry, result_compileEntry]
  dsimp only [EntrySpec.retarget]
  generalize (s.compileCondition condition).result = c at hcondition
  generalize (s.compileCondition (condition.map _)).result = c' at hcondition
  generalize (s.compileAction action).result = a at haction
  generalize (s.compileAction (action.retarget f)).result = a' at haction
  cases hidden with
  | true => exact .none
  | false =>
    cases hcondition with
    | none => exact .none
    | some hc =>
      cases haction with
      | none => exact .none
      | some ha => exact .some (.of_alike hc ha)

end Scope

/-! ### Rotations -/

/-- Written in either way the same entries are at work, and they agree wherever `inv` holds. -/
theorem Rotation.Compiles.matches_retarget {inv : Encounter → Prop} {r r' : Rotation} {s : Scope}
    {list : PriorityList} {f : TargetRef → TargetRef} (hf : s.Retargets inv f)
    (h : r.Compiles s list) (h' : r'.Compiles s (list.retarget f))
    (hwait : r.waitUntil = r'.waitUntil) : r.Matches inv Eq r' := by
  refine ⟨?_, hwait⟩
  rw [h.active_eq, h'.active_eq, PriorityList.retarget, List.zipIdx_map, List.filterMap_map]
  refine List.rel_filterMap ?_ (List.forall₂_same.mpr fun x _ => (rfl : x = x))
  rintro ⟨spec, i⟩ _ rfl
  have hentry := Scope.related_compileEntry hf spec
  unfold Related at hentry
  simp only [Function.comp_apply, Scope.compileAt, Prod.map_apply, id]
  generalize (s.compileEntry spec).result = x at hentry
  generalize (s.compileEntry (spec.retarget f)).result = x' at hentry
  cases hentry with
  | none => exact .none
  | some hagrees => exact .some ⟨rfl, hagrees⟩

/-! ### The first target -/

/-- The combatant comes first in the roster, and is there. -/
structure Encounter.FirstTarget (e : Encounter) (first : CombatantId) : Prop where
  roster : e.roster[0]? = some first
  present : (Cell.fixed first).resolve e = some first

namespace Encounter

variable {e after : Encounter} {first : CombatantId}

theorem takeAim_id (id : CombatantId) (c : Combatant) : (takeAim id c).id = c.id := by
  unfold takeAim
  split <;> rfl

/-- Whoever joins last does not come before the first target. -/
theorem FirstTarget.append (h : e.FirstTarget first) (joined : Combatant)
    (hroster : ∃ more, after.roster = e.roster ++ more)
    (hids : after.combatants.map Combatant.id = (e.combatants ++ [joined]).map Combatant.id) :
    after.FirstTarget first := by
  obtain ⟨more, hroster⟩ := hroster
  have hpresent : (e.combatants.map Combatant.id)[first.index]? = some first := by
    rw [List.getElem?_map]
    exact h.present
  constructor
  · rw [hroster, List.getElem?_append_left (List.getElem?_eq_some_iff.mp h.roster).1]
    exact h.roster
  · show (after.combatants[first.index]?).map Combatant.id = some first
    rw [← List.getElem?_map, hids, List.map_append,
      List.getElem?_append_left (List.getElem?_eq_some_iff.mp hpresent).1]
    exact hpresent

theorem FirstTarget.addTarget {label : String} {stats : Stats} (h : e.FirstTarget first)
    (hadd : e.addTarget label stats = .ok after) : after.FirstTarget first := by
  unfold Encounter.addTarget at hadd
  split at hadd
  · cases hadd
    refine h.append { id := e.nextId, label, role := .target e.roster.length, stats } ⟨_, rfl⟩ ?_
    rw [List.map_map]
    exact List.map_congr_left fun c _ => takeAim_id e.nextId c
  · cases hadd

/-- The first to join a roster is its first target. -/
theorem firstTarget_of_addTarget {label : String} {stats : Stats} (hnone : e.roster = [])
    (hadd : e.addTarget label stats = .ok after) : after.FirstTarget e.nextId := by
  unfold Encounter.addTarget at hadd
  split at hadd
  · cases hadd
    constructor
    · rw [hnone]
      rfl
    · show (List.map _ _)[e.combatants.length]?.map Combatant.id = _
      rw [List.getElem?_map, List.getElem?_concat_length, Option.map_some, Option.map_some,
        takeAim_id]
  · cases hadd

theorem FirstTarget.addTargets {targets : List TargetSpec} (h : e.FirstTarget first)
    (hadd : Scenario.addTargets e targets = .ok after) : after.FirstTarget first := by
  induction targets generalizing e with
  | nil =>
    cases hadd
    exact h
  | cons t rest ih =>
    rw [Scenario.addTargets] at hadd
    split at hadd
    · next hone => exact ih (h.addTarget hone) hadd
    · cases hadd

theorem exists_firstTarget {targets : List TargetSpec} (hnone : e.roster = [])
    (hsome : targets ≠ []) (hadd : Scenario.addTargets e targets = .ok after) :
    ∃ first, after.FirstTarget first := by
  cases targets with
  | nil => exact absurd rfl hsome
  | cons t rest =>
    rw [Scenario.addTargets] at hadd
    split at hadd
    · next hone => exact ⟨_, (firstTarget_of_addTarget hnone hone).addTargets hadd⟩
    · cases hadd

end Encounter

theorem Combatant.stance_foldl_learn (spells : List Spell) (c : Combatant) :
    (spells.foldl Combatant.learn c).stance = c.stance := by
  induction spells generalizing c with
  | nil => rfl
  | cons spell rest ih => exact ih (c.learn spell)

/-- The player of a scenario aims at the first of its targets. -/
theorem Scenario.aims_of_build {s : Scenario} {settings : Settings} {seed : UInt64} {e : Encounter}
    {player : CombatantId} (h : s.build settings seed = .ok (e, player))
    (htargets : s.targets ≠ []) :
    ∃ first, e.FirstTarget first ∧ (Cell.aimOf player).resolve e = some first := by
  obtain ⟨joined, runes, spells, hadd, rfl, rfl, _⟩ := build_eq_ok h
  obtain ⟨first, hfirst⟩ := Encounter.exists_firstTarget rfl htargets hadd
  have hplayer : (joined.addPlayer s.player.label s.player.stats).FirstTarget first :=
    hfirst.append _ ⟨[], (List.append_nil _).symm⟩ rfl
  -- The rune bar and the spells have nothing to do with the aim.
  have hsame : ∀ c : Combatant,
      (spells.foldl Combatant.learn { c with runes }).stance = c.stance :=
    fun c => Combatant.stance_foldl_learn spells { c with runes }
  refine ⟨first, ⟨hplayer.roster, ?_⟩, ?_⟩
  · rw [Cell.resolve_modify hsame]
    exact hplayer.present
  · rw [Cell.resolve_modify hsame]
    show ((joined.combatants ++ [_])[joined.combatants.length]?).bind Combatant.aim = some first
    rw [List.getElem?_concat_length, Option.bind_some, List.head?_eq_getElem?]
    exact hfirst.roster

/-! ### Trials -/

/-- The player aims at that combatant. -/
def Encounter.AimsAt (player first : CombatantId) (e : Encounter) : Prop :=
  (Cell.fixed first).resolve e = (Cell.aimOf player).resolve e

theorem Encounter.AimsAt.perform {player first : CombatantId} {e : Encounter} {op : Encounter.Op}
    (h : e.AimsAt player first) (hop : op.IsCastOrJump) : (e.perform op).AimsAt player first := by
  unfold AimsAt
  rw [Cell.resolve_perform hop, Cell.resolve_perform hop]
  exact h

/-- As long as the caster aims at the first target, the first target may stand for the current
    one. -/
theorem Scope.retargets_pinned {s : Scope} {first : CombatantId} (h : s.roster[0]? = some first) :
    s.Retargets (Encounter.AimsAt s.caster first) TargetRef.pinned := by
  intro target
  cases target with
  | caster | place n => exact .refl (fun _ _ _ => rfl) _
  | currentTarget =>
    have hcell : s.cell (.place 0) = pure (.fixed first) := by
      rw [cell, h]
      rfl
    rw [TargetRef.pinned, hcell]
    exact .pure fun e haims => haims

namespace PriorityList

variable {scenario : Scenario} {settings : Settings} {seed : UInt64} {e : Encounter}
  {player : CombatantId}

/-- With the list and with the pinned list trials go alongside. -/
theorem alongside_pinned (hbuild : scenario.build settings seed = .ok (e, player))
    (htargets : scenario.targets ≠ []) (list : PriorityList) (catalog : Catalog) :
    ∃ r r' messages messages', Rotation.compile list e player catalog = .ok (r, messages) ∧
      Rotation.compile list.pinned e player catalog = .ok (r', messages') ∧
      Trial.Alongside Eq { rotation := r, encounter := e } { rotation := r', encounter := e } := by
  obtain ⟨first, hfirst, haim⟩ := Scenario.aims_of_build hbuild htargets
  obtain ⟨c, hc, _⟩ := Option.bind_eq_some_iff.mp haim
  obtain ⟨r, messages, hcompile, hr, hwait⟩ := Rotation.compile_eq_ok hc list catalog
  obtain ⟨r', messages', hcompile', hr', hwait'⟩ := Rotation.compile_eq_ok hc list.pinned catalog
  have hretargets := (Scope.of e player catalog).retargets_pinned hfirst.roster
  have hmatches := hr.matches_retarget hretargets hr' (hwait.trans hwait'.symm)
  refine ⟨r, r', messages, messages', hcompile, hcompile', ?_⟩
  exact Trial.Matches.alongside ⟨hmatches, rfl, rfl⟩ (fun _ _ hop haims => haims.perform hop)
    (hfirst.present.trans haim.symm)

/-- In a scenario with a target, it does not matter whether a list names the current target or the
    first one of the roster.

    * Either way a trial takes the same decisions at the same instants, and comes to the same
      report and the same encounter.
    * It is so because the player aims at the first target when the trial begins, and whatever is
      done in it, at every moment after that. -/
theorem pinned_alongside (hbuild : scenario.build settings seed = .ok (e, player))
    (htargets : scenario.targets ≠ []) (list : PriorityList) (catalog : Catalog) :
    ∃ r r' messages messages', Rotation.compile list e player catalog = .ok (r, messages) ∧
      Rotation.compile list.pinned e player catalog = .ok (r', messages') ∧
      let t : Trial := { rotation := r, encounter := e }
      let t' : Trial := { rotation := r', encounter := e }
      t'.decisions = t.decisions ∧ t'.run.report = t.run.report ∧
        t'.run.encounter = t.run.encounter ∧
        ∃ first ops, e.roster[0]? = some first ∧ Trial.Rounds t t.decisions ops t.run ∧
          ∀ sofar rest, ops = sofar ++ rest →
            (Cell.aimOf player).resolve (e.run sofar) = some first := by
  obtain ⟨r, r', messages, messages', hcompile, hcompile', halongside⟩ :=
    alongside_pinned hbuild htargets list catalog
  obtain ⟨first, hfirst, haim⟩ := Scenario.aims_of_build hbuild htargets
  obtain ⟨ops, hrounds⟩ := Trial.rounds_run { rotation := r, encounter := e }
  refine ⟨r, r', messages, messages', hcompile, hcompile', halongside.decisions_eq.symm,
    halongside.report.symm, halongside.encounter.symm, first, ops, hfirst.roster, hrounds, ?_⟩
  rintro sofar rest rfl
  rw [Cell.resolve_run fun op hop => hrounds.isCastOrJump op (List.mem_append_left _ hop)]
  exact haim

/-- A knight with a spell that burns a target, and two targets for it. -/
def twoDummies : Scenario where
  player :=
    { label := "Knight"
      spells :=
        [{ id := ⟨1⟩
           label := "Burn"
           periodic := some { tickDamage := 5.0, periodSeconds := 3.0, ticks := 4 } }] }
  targets := [{ label := "Left" }, { label := "Right" }]

/-- The knight burns its target whenever that does not burn already. -/
def keepBurning : PriorityList where
  entries :=
    [{ condition := some (.not (.effectActive ⟨1⟩ .currentTarget))
       action := .cast ⟨1⟩ .currentTarget }]

/-- It is the left one that keeps burning. -/
theorem pinned_alongside_keep_burning :
    keepBurning.pinned.entries.map (·.action) = [.cast ⟨1⟩ (.place 0)] ∧
      ∃ e player r r' messages messages', twoDummies.build {} 0 = .ok (e, player) ∧
        Rotation.compile keepBurning e player .standard = .ok (r, messages) ∧
        Rotation.compile keepBurning.pinned e player .standard = .ok (r', messages') ∧
        (Trial.mk r' e 0).run.report = (Trial.mk r e 0).run.report := by
  have hbuilds : (twoDummies.build {} 0).toOption.isSome = true := by decide +kernel
  have htargets : twoDummies.targets ≠ [] := List.cons_ne_nil _ _
  refine ⟨rfl, ?_⟩
  cases hbuild : twoDummies.build {} 0 with
  | error cause =>
    rw [hbuild] at hbuilds
    cases hbuilds
  | ok built =>
    obtain ⟨e, player⟩ := built
    obtain ⟨r, r', messages, messages', hcompile, hcompile', _, hreport, _⟩ :=
      pinned_alongside hbuild htargets keepBurning .standard
    exact ⟨e, player, r, r', messages, messages', rfl, hcompile, hcompile', hreport⟩

end PriorityList

/-- The trials of a study with targets come to the same either way, down to the reasons why one
    cannot begin. -/
theorem Study.report_pinned (s : Study) (htargets : s.scenario.targets ≠ []) (settings : Settings)
    (seed : UInt64) :
    ({ s with list := s.list.pinned } : Study).report settings seed = s.report settings seed := by
  unfold report begin
  cases hbuild : s.scenario.build settings seed with
  | error cause => rfl
  | ok built =>
    obtain ⟨e, player⟩ := built
    obtain ⟨r, r', messages, messages', hcompile, hcompile', halongside⟩ :=
      PriorityList.alongside_pinned hbuild htargets s.list .standard
    simp only [Except.mapError, bind, Except.bind, hcompile, hcompile', pure, Except.pure,
      halongside.report]

end ActionPriority
