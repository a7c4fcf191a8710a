import ActionPriority.Proofs.Encounter.Rolls
import ActionPriority.Proofs.PriorityList.Reachable
import ActionPriority.Proofs.PriorityList.Reading

/-! # Independence of the Seed

    The trials of a study differ in their seeds alone, and the seed shows in the damage alone.
    No condition, no check of a cast and no jump of the clock looks at the dice or at the
    damage, so two trials that differ in rolls at most take the same decision, and differ in
    rolls at most afterwards (`Trial.SameUpToRolls.step`).  By induction over a run they take
    the same decisions all along (`Study.trials_agree`).
-/

namespace ActionPriority

/-! ### Conditions -/

section Conditions

variable {e e' : Encounter}

theorem IntTerm.eval_sameUpToRolls (h : e.SameUpToRolls e') (t : IntTerm) :
    t.eval e' = t.eval e := by
  obtain ⟨damage, dice, rfl⟩ := h
  cases t <;> rfl

theorem FloatTerm.eval_sameUpToRolls (h : e.SameUpToRolls e') (t : FloatTerm) :
    t.eval e' = t.eval e := by
  cases t with
  | literal value => rfl
  | ofInt term => rw [FloatTerm.eval, FloatTerm.eval, term.eval_sameUpToRolls h]
  | increase measure effect periodic =>
    obtain ⟨damage, dice, rfl⟩ := h
    rfl

/-- The least time left among effects is looked up in the combatants alone. -/
theorem leastRemaining_sameUpToRolls (h : e.SameUpToRolls e') (refs : List EffectRef)
    (best : Time) : Spread.leastRemaining e' refs best = Spread.leastRemaining e refs best := by
  obtain ⟨damage, dice, rfl⟩ := h
  induction refs generalizing best with
  | nil => rfl
  | cons r rest ih =>
    simp only [Spread.leastRemaining, ih]
    rfl

theorem TimeTerm.eval_sameUpToRolls (h : e.SameUpToRolls e') (t : TimeTerm) :
    t.eval e' = t.eval e := by
  cases t with
  | lowestRemaining spread =>
    have hrefs : spread.enabledRefs e' = spread.enabledRefs e := by
      obtain ⟨damage, dice, rfl⟩ := h
      rfl
    rw [TimeTerm.eval, TimeTerm.eval, Spread.lowestRemaining, Spread.lowestRemaining, hrefs,
      leastRemaining_sameUpToRolls h]
  | _ =>
    obtain ⟨damage, dice, rfl⟩ := h
    rfl

namespace Test

mutual

/-- No test looks at the dice or at the damage. -/
theorem eval_sameUpToRolls (h : e.SameUpToRolls e') : ∀ t : Test, t.eval e' = t.eval e
  | .literal _ => rfl
  | .all operands => evalAll_sameUpToRolls h operands
  | .any operands => evalAny_sameUpToRolls h operands
  | .not operand => congrArg (!·) (eval_sameUpToRolls h operand)
  | .compareBool op lhs rhs => by
    rw [eval, eval, eval_sameUpToRolls h lhs, eval_sameUpToRolls h rhs]
  | .compareInt op lhs rhs => by
    rw [eval, eval, lhs.eval_sameUpToRolls h, rhs.eval_sameUpToRolls h]
  | .compareFloat op lhs rhs => by
    rw [eval, eval, lhs.eval_sameUpToRolls h, rhs.eval_sameUpToRolls h]
  | .compareTime op lhs rhs => by
    rw [eval, eval, lhs.eval_sameUpToRolls h, rhs.eval_sameUpToRolls h]
  | .effectActive effect => by
    obtain ⟨damage, dice, rfl⟩ := h
    rfl
  | .activeOnAll spread => by
    obtain ⟨damage, dice, rfl⟩ := h
    rfl
  | .slotActive caster slot => by
    obtain ⟨damage, dice, rfl⟩ := h
    rfl
  | .slotDeath caster slot => by
    obtain ⟨damage, dice, rfl⟩ := h
    rfl

theorem evalAll_sameUpToRolls (h : e.SameUpToRolls e') :
    ∀ l : List Test, evalAll e' l = evalAll e l
  | [] => rfl
  | t :: rest => by
    rw [evalAll, evalAll, eval_sameUpToRolls h t, evalAll_sameUpToRolls h rest]

theorem evalAny_sameUpToRolls (h : e.SameUpToRolls e') :
    ∀ l : List Test, evalAny e' l = evalAny e l
  | [] => rfl
  | t :: rest => by
    rw [evalAny, evalAny, eval_sameUpToRolls h t, evalAny_sameUpToRolls h rest]

end

end Test

end Conditions

/-! ### Actions and entries -/

section Entries

variable {e e' : Encounter}

theorem Cell.resolve_sameUpToRolls (h : e.SameUpToRolls e') (cell : Cell) :
    cell.resolve e' = cell.resolve e := by
  obtain ⟨damage, dice, rfl⟩ := h
  rfl

theorem Action.isReady_sameUpToRolls (h : e.SameUpToRolls e') (a : Action) :
    a.isReady e' = a.isReady e := by
  cases a with
  | wait length => rfl
  | cast caster spell label target =>
    unfold isReady
    simp only [target.resolve_sameUpToRolls h, h.checkCast]

/-- An action succeeds in both encounters or in neither, and it idles until the same instant. -/
theorem Action.execute_sameUpToRolls (h : e.SameUpToRolls e') (a : Action) :
    SameOutcome (fun x y => x.1.SameUpToRolls y.1 ∧ x.2 = y.2) (a.execute e) (a.execute e') := by
  cases a with
  | wait length =>
    refine ⟨h, ?_⟩
    rw [h.clock]
  | cast caster spell label target =>
    unfold execute
    simp only [target.resolve_sameUpToRolls h]
    cases target.resolve e with
    | none => rfl
    | some id =>
      exact (h.cast caster spell id).map fun _ _ hafter => ⟨hafter, rfl⟩

theorem Entry.shouldAct_sameUpToRolls (h : e.SameUpToRolls e') (x : Entry) :
    x.shouldAct e' = x.shouldAct e := by
  unfold shouldAct
  simp only [Test.eval_sameUpToRolls h, x.action.isReady_sameUpToRolls h]

end Entries

/-! ### Decisions -/

namespace Rotation

variable {e e' : Encounter}

theorem firstReady_sameUpToRolls (h : e.SameUpToRolls e') (r : Rotation) :
    r.firstReady e' = r.firstReady e := by
  unfold firstReady
  simp only [Entry.shouldAct_sameUpToRolls h]

theorem nextDecision_sameUpToRolls (h : e.SameUpToRolls e') (r : Rotation) :
    r.nextDecision e' = r.nextDecision e := by
  unfold nextDecision
  rw [h.clock, h.nextEvent]

/-- A decision point comes to the same decision, and leaves the rotation in the same state. -/
theorem act_sameUpToRolls (h : e.SameUpToRolls e') (r : Rotation) :
    (r.act e').1 = (r.act e).1 ∧ (r.act e').2.1 = (r.act e).2.1 ∧
      (r.act e).2.2.SameUpToRolls (r.act e').2.2 := by
  have hwait : r.isWaiting e' = r.isWaiting e := by rw [isWaiting, isWaiting, h.clock]
  unfold act
  rw [hwait, firstReady_sameUpToRolls h]
  split
  · exact ⟨rfl, rfl, h⟩
  · split
    · exact ⟨rfl, rfl, h⟩
    · next index x _ =>
      rcases (x.action.execute_sameUpToRolls h).cases with
        ⟨cause, hthis, hthat⟩ | ⟨⟨after, wake⟩, ⟨after', wake'⟩, hthis, hthat, hafter, hwake⟩
      · rw [hthis, hthat]
        exact ⟨rfl, rfl, h⟩
      · obtain rfl : wake = wake' := hwake
        rw [hthis, hthat]
        exact ⟨rfl, rfl, hafter⟩

end Rotation

/-! ### Whole trials -/

namespace Trial

/-- The two trials stand at the same place, with encounters that differ in rolls at most. -/
structure SameUpToRolls (t t' : Trial) : Prop where
  rotation : t'.rotation = t.rotation
  acted : t'.acted = t.acted
  encounter : t.encounter.SameUpToRolls t'.encounter

namespace SameUpToRolls

variable {t t' : Trial}

/-- One step takes the same decision in both trials. -/
theorem step (h : t.SameUpToRolls t') :
    t'.step.1 = t.step.1 ∧ t.step.2.SameUpToRolls t'.step.2 := by
  have hact := Rotation.act_sameUpToRolls h.encounter t.rotation
  unfold Trial.step
  rw [h.rotation, h.acted]
  generalize t.rotation.act t.encounter = acts at hact
  generalize t.rotation.act t'.encounter = acts' at hact
  obtain ⟨decision, rotation, e⟩ := acts
  obtain ⟨decision', rotation', e'⟩ := acts'
  obtain ⟨hdecision, hrotation, hafter⟩ := hact
  dsimp only at hdecision hrotation hafter ⊢
  subst hdecision hrotation
  -- The branch depends on the decision and on the count of actions, which are the same.
  split
  · exact ⟨rfl, rfl, rfl, hafter⟩
  · rw [Rotation.nextDecision_sameUpToRolls hafter]
    exact ⟨rfl, rfl, rfl, hafter.advanceTo _⟩

/-- The same decisions are taken at the same instants. -/
theorem decisions (h : t.SameUpToRolls t') : t'.decisions = t.decisions := by
  fun_induction Trial.decisions t generalizing t' with
  | case1 t hfinished =>
    rw [Trial.decisions, h.encounter.isFinished, if_pos hfinished]
  | case2 t hrunning ih =>
    obtain ⟨hdecision, hstep⟩ := h.step
    rw [Trial.decisions, h.encounter.isFinished, if_neg hrunning, ih hstep, hdecision,
      h.encounter.clock]

/-- At the end the trials differ in rolls at most. -/
theorem run (h : t.SameUpToRolls t') : t.run.SameUpToRolls t'.run := by
  fun_induction Trial.run t generalizing t' with
  | case1 t hfinished =>
    rw [Trial.run, h.encounter.isFinished, if_pos hfinished]
    exact h
  | case2 t hrunning ih =>
    rw [Trial.run.eq_def t', h.encounter.isFinished, if_neg hrunning]
    exact ih h.step.2

end SameUpToRolls

/-- The two trials go through the same decisions, and come to the same end but for rolls. -/
structure SameCourse (t t' : Trial) : Prop where
  /-- The same decisions at the same instants. -/
  decisions : t'.decisions = t.decisions
  /-- At the end the rotations stand at the same place. -/
  rotation : t'.run.rotation = t.run.rotation
  /-- All combatants are the same: runes, cooldowns, effects with snapshots and schedules. -/
  combatants : t'.run.encounter.combatants = t.run.encounter.combatants
  /-- Nothing else differs either, apart from the damage done and the dice. -/
  encounter : t.run.encounter.SameUpToRolls t'.run.encounter
  casts : t'.run.report.casts = t.run.report.casts
  duration : t'.run.report.duration = t.run.report.duration

theorem SameUpToRolls.sameCourse {t t' : Trial} (h : t.SameUpToRolls t') : t.SameCourse t' := by
  have hrun := h.run
  exact
    { decisions := h.decisions
      rotation := hrun.rotation
      combatants := hrun.encounter.combatants
      encounter := hrun.encounter
      casts := hrun.encounter.casts
      duration := hrun.encounter.clock }

end Trial

/-! ### The trials of a study -/

theorem Rotation.compile_sameUpToRolls {e e' : Encounter} (h : e.SameUpToRolls e')
    (list : PriorityList) (caster : CombatantId) (catalog : Catalog) :
    Rotation.compile list e' caster catalog = Rotation.compile list e caster catalog := by
  -- Neither the profile of the caster nor the roster is touched by a roll.
  obtain ⟨damage, dice, rfl⟩ := h
  refine Rotation.compile_congr ?_ ?_ list catalog <;> rfl

namespace Study

theorem begin_sameUpToRolls (s : Study) (settings : Settings) (seed seed' : UInt64) :
    SameOutcome (fun x y => x.1.SameUpToRolls y.1 ∧ x.2 = y.2) (s.begin settings seed)
      (s.begin settings seed') := by
  unfold begin
  refine ((s.scenario.build_sameUpToRolls settings seed seed').mapError _).bind ?_
  rintro ⟨e, player⟩ ⟨e', _⟩ ⟨h, rfl⟩
  dsimp only
  rw [Rotation.compile_sameUpToRolls h]
  refine (SameOutcome.refl _).bind ?_
  rintro ⟨rotation, diagnostics⟩ _ rfl
  exact ⟨⟨rfl, rfl, h⟩, rfl⟩

/-- For any two seeds, either no trial of the study can begin, for the same reason, or both
    begin with the same messages and take the same course. -/
theorem trials_agree (s : Study) (settings : Settings) (seed seed' : UInt64) :
    (∃ cause, s.begin settings seed = .error cause ∧ s.begin settings seed' = .error cause) ∨
    ∃ t t' diagnostics, s.begin settings seed = .ok (t, diagnostics) ∧
      s.begin settings seed' = .ok (t', diagnostics) ∧ t.SameCourse t' := by
  rcases (s.begin_sameUpToRolls settings seed seed').cases with
    ⟨cause, hthis, hthat⟩ | ⟨⟨t, diagnostics⟩, ⟨t', diagnostics'⟩, hthis, hthat, h, hmessages⟩
  · exact Or.inl ⟨cause, hthis, hthat⟩
  · obtain rfl : diagnostics = diagnostics' := hmessages
    exact Or.inr ⟨t, t', diagnostics, hthis, hthat, h.sameCourse⟩

end Study

end ActionPriority
