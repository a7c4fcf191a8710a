import ActionPriority.Proofs.Encounter.Atomicity
import ActionPriority.Proofs.PriorityList.Reachable

/-! # Decision Points

    A decision point is one scan through the list, from which at most one action follows.

    * What is found is the first entry that should act; places left empty are passed over
      (`Rotation.Leads`, `Rotation.firstReady_eq_some_iff`).
    * An action that is ready can be carried out (`Action.isReady_iff`).  Its target is looked up
      and its cast is checked once more for that, but in the encounter in which it was ready.
    * So a decision point comes to one of three outcomes (`Rotation.Decides`), and failing is
      none of them (`Rotation.act_decides`).  No decision of a whole trial is one that failed
      (`Trial.not_failed_of_mem_decisions`).
-/

namespace ActionPriority

/-! ### Actions -/

/-- What carrying out an action makes of the encounter, and until when the caster is to idle. -/
inductive Action.Does (e : Encounter) : Action → Encounter → Option Time → Prop where
  | casts {caster : CombatantId} {spell : SpellId} {label : String} {target : Cell}
      {id : CombatantId} {after : Encounter} : target.resolve e = some id →
      e.cast caster spell id = .ok after → Does e (.cast caster spell label target) after none
  | waits (length : Time) : Does e (.wait length) e (some (e.clock + length))

namespace Action

variable {a : Action} {e after : Encounter} {wake : Option Time}

theorem Does.execute (h : a.Does e after wake) : a.execute e = .ok (after, wake) := by
  cases h with
  | casts hresolve hcast =>
    rw [Action.execute, hresolve]
    dsimp only
    rw [hcast]
    rfl
  | waits length => rfl

/-- An action is ready exactly if it can be carried out. -/
theorem isReady_iff : a.isReady e = true ↔ ∃ after wake, a.Does e after wake := by
  cases a with
  | wait length => exact iff_of_true rfl ⟨e, _, .waits length⟩
  | cast caster spell label target =>
    simp only [isReady]
    cases hresolve : target.resolve e with
    | none =>
      refine iff_of_false Bool.false_ne_true ?_
      rintro ⟨after, wake, hdoes⟩
      cases hdoes with
      | casts hfound hcast => cases hresolve.symm.trans hfound
    | some id =>
      -- Nothing but the check can keep the cast from succeeding.
      rw [Encounter.isOk_checkCast_iff, ← Encounter.exists_cast_eq_ok_iff]
      constructor
      · rintro ⟨after, hcast⟩
        exact ⟨after, none, .casts hresolve hcast⟩
      · rintro ⟨after, wake, hdoes⟩
        cases hdoes with
        | casts hfound hcast =>
          cases hresolve.symm.trans hfound
          exact ⟨after, hcast⟩

end Action

/-! ### The first entry that should act -/

/-- The entry is in the list at that place, and is the first one that should act. -/
structure Rotation.Leads (r : Rotation) (e : Encounter) (i : Nat) (x : Entry) : Prop where
  entry : r.entries[i]? = some (some x)
  shouldAct : x.shouldAct e = true
  first : ∀ j < i, ∀ y, r.entries[j]? = some (some y) → y.shouldAct e = false

namespace Rotation

variable {r : Rotation} {e : Encounter} {i : Nat} {x : Entry}

/-- At work are the entries that have compiled, at their places. -/
theorem mem_active_iff : (i, x) ∈ r.active ↔ r.entries[i]? = some (some x) := by
  unfold active
  rw [List.mem_filterMap]
  constructor
  · rintro ⟨⟨entry, j⟩, hmem, hmap⟩
    obtain ⟨y, rfl, hsame⟩ := Option.map_eq_some_iff.mp hmap
    cases hsame
    exact List.mem_zipIdx_iff_getElem?.mp hmem
  · intro hentry
    exact ⟨(some x, i), List.mem_zipIdx_iff_getElem?.mpr hentry, rfl⟩

theorem pairwise_active (r : Rotation) : r.active.Pairwise fun a b => a.1 < b.1 := by
  refine List.pairwise_filterMap.mpr ((pairwise_zipIdx r.entries).imp ?_)
  rintro ⟨entry, j⟩ ⟨entry', k⟩ hlt a ha b hb
  obtain ⟨_, _, rfl⟩ := Option.map_eq_some_iff.mp ha
  obtain ⟨_, _, rfl⟩ := Option.map_eq_some_iff.mp hb
  exact hlt

theorem firstReady_eq_some_iff : r.firstReady e = some (i, x) ↔ r.Leads e i x := by
  rw [firstReady, find?_eq_some_iff_of_pairwise r.pairwise_active, mem_active_iff]
  constructor
  · rintro ⟨hentry, hacts, hfirst⟩
    exact ⟨hentry, hacts, fun j hj y hy => hfirst (j, y) (mem_active_iff.mpr hy) hj⟩
  · rintro ⟨hentry, hacts, hfirst⟩
    exact ⟨hentry, hacts, fun y hy hlt => hfirst y.1 hlt y.2 (mem_active_iff.mp hy)⟩

theorem firstReady_eq_none_iff :
    r.firstReady e = none ↔ ∀ x, some x ∈ r.entries → x.shouldAct e = false := by
  rw [firstReady, List.find?_eq_none]
  constructor
  · intro hnone x hx
    obtain ⟨i, hi⟩ := List.mem_iff_getElem?.mp hx
    exact Bool.not_eq_true _ ▸ hnone (i, x) (mem_active_iff.mpr hi)
  · rintro hnone ⟨i, x⟩ hx
    have hno := hnone x (List.mem_of_getElem? (mem_active_iff.mp hx))
    exact fun hacts => Bool.false_ne_true (hno.symm.trans hacts)

/-- The entry found first is also the one that is selected. -/
theorem select_eq_some_iff : (r.select e).1 = some i ↔ ∃ x, r.Leads e i x := by
  unfold select
  cases hfirst : r.firstReady e with
  | none =>
    constructor
    · intro h
      cases h
    · rintro ⟨x, hleads⟩
      rw [firstReady_eq_some_iff.mpr hleads] at hfirst
      cases hfirst
  | some found =>
    obtain ⟨j, y⟩ := found
    constructor
    · intro h
      cases h
      exact ⟨y, firstReady_eq_some_iff.mp hfirst⟩
    · rintro ⟨x, hleads⟩
      rw [firstReady_eq_some_iff.mpr hleads] at hfirst
      cases hfirst
      rfl

/-! ### Outcomes -/

theorem isWaiting_eq_false_iff :
    r.isWaiting e = false ↔ ∀ wake, r.waitUntil = some wake → wake ≤ e.clock := by
  unfold isWaiting
  cases r.waitUntil with
  | none => simp
  | some wake =>
    rw [Option.any_some, decide_eq_false_iff_not, Time.lt_def, Nat.not_lt]
    exact ⟨fun hle _ h => Option.some.inj h ▸ hle, fun h => h wake rfl⟩

/-- What a decision point may come to: a decision, with the rotation and the encounter after it. -/
inductive Decides (r : Rotation) (e : Encounter) : Decision × Rotation × Encounter → Prop where
  /-- The caster is told to wait beyond now. -/
  | waits {wake : Time} : r.waitUntil = some wake → e.clock < wake →
      Decides r e (.nothingReady, { r with phase := .idle }, e)
  /-- No entry should act. -/
  | rests : (∀ wake, r.waitUntil = some wake → wake ≤ e.clock) →
      (∀ x, some x ∈ r.entries → x.shouldAct e = false) →
      Decides r e (.nothingReady, { r with phase := .idle, waitUntil := none }, e)
  /-- The first entry that should act is carried out. -/
  | acts {i : Nat} {x : Entry} {after : Encounter} {wake : Option Time} :
      (∀ wake, r.waitUntil = some wake → wake ≤ e.clock) → r.Leads e i x →
      x.action.Does e after wake →
      Decides r e (.executed i, { r with phase := .evaluating, waitUntil := wake }, after)

/-- What should act can act. -/
theorem Leads.exists_does (h : r.Leads e i x) : ∃ after wake, x.action.Does e after wake :=
  Action.isReady_iff.mp (Bool.and_eq_true_iff.mp h.shouldAct).2

theorem Decides.act {outcome : Decision × Rotation × Encounter} (h : r.Decides e outcome) :
    r.act e = outcome := by
  unfold Rotation.act
  cases h with
  | waits hwake hlt =>
    have hwaiting : r.isWaiting e = true := by
      rw [isWaiting, hwake]
      exact decide_eq_true hlt
    rw [if_pos hwaiting]
  | rests hpast hnone =>
    rw [isWaiting_eq_false_iff.mpr hpast, firstReady_eq_none_iff.mpr hnone]
    rfl
  | acts hpast hleads hdoes =>
    rw [isWaiting_eq_false_iff.mpr hpast, firstReady_eq_some_iff.mpr hleads]
    simp only [hdoes.execute, Bool.false_eq_true, if_false]

/-- One of the outcomes there always is. -/
theorem exists_decides (r : Rotation) (e : Encounter) : ∃ outcome, r.Decides e outcome := by
  cases hwaiting : r.isWaiting e with
  | true =>
    obtain ⟨wake, hwake, hlt⟩ := (Option.any_eq_true _ _).mp hwaiting
    exact ⟨_, .waits hwake (of_decide_eq_true hlt)⟩
  | false =>
    have hpast := isWaiting_eq_false_iff.mp hwaiting
    cases hfirst : r.firstReady e with
    | none => exact ⟨_, .rests hpast (firstReady_eq_none_iff.mp hfirst)⟩
    | some found =>
      have hleads := firstReady_eq_some_iff.mp hfirst
      obtain ⟨after, wake, hdoes⟩ := hleads.exists_does
      exact ⟨_, .acts hpast hleads hdoes⟩

theorem act_eq_iff {outcome : Decision × Rotation × Encounter} :
    r.act e = outcome ↔ r.Decides e outcome := by
  refine ⟨?_, Decides.act⟩
  rintro rfl
  obtain ⟨outcome, hdecides⟩ := r.exists_decides e
  rw [hdecides.act]
  exact hdecides

theorem not_failed_act (r : Rotation) (e : Encounter) (i : Nat) (cause : CastError) :
    (r.act e).1 ≠ .failed i cause := by
  obtain ⟨outcome, hdecides⟩ := r.exists_decides e
  rw [hdecides.act]
  cases hdecides <;> exact fun h => Decision.noConfusion h

/-- A decision point comes to the one outcome that the rotation and the encounter ask for.

    * While the caster is told to wait, nothing is ready and nothing changes.
    * Otherwise, if no entry should act, nothing is ready, and the encounter stays as it is.
    * Otherwise the first entry that should act is executed.  The encounter is the one after its
      cast; if it is to wait, the encounter stays as it is, and the caster idles for that long.

    Nothing that is found ever fails, and what is executed is what would be selected. -/
theorem act_decides (r : Rotation) (e : Encounter) :
    (∀ outcome, r.act e = outcome ↔ r.Decides e outcome) ∧
      (∀ i cause, (r.act e).1 ≠ .failed i cause) ∧
      (∀ i, (r.select e).1 = some i ↔ ∃ x, r.Leads e i x) ∧
      ∀ i, (r.act e).1 = .executed i → r.select e = (some i, { r with phase := .selected i }) := by
  refine ⟨fun _ => act_eq_iff, r.not_failed_act e, fun _ => select_eq_some_iff, ?_⟩
  intro i hexecuted
  obtain ⟨outcome, hdecides⟩ := r.exists_decides e
  rw [hdecides.act] at hexecuted
  cases hdecides with
  | waits => cases hexecuted
  | rests => cases hexecuted
  | acts hpast hleads hdoes =>
    cases hexecuted
    rw [select, firstReady_eq_some_iff.mpr hleads]

end Rotation

/-! ### Whole trials -/

namespace Trial

theorem step_decision (t : Trial) : t.step.1 = (t.rotation.act t.encounter).1 := by
  unfold step
  dsimp only
  split <;> rfl

/-- No decision of a trial fails. -/
theorem not_failed_of_mem_decisions {t : Trial} {x : Time × Decision} (hx : x ∈ t.decisions)
    (i : Nat) (cause : CastError) : x.2 ≠ .failed i cause := by
  fun_induction decisions t with
  | case1 t hfinished => cases hx
  | case2 t hrunning ih =>
    rcases List.mem_cons.mp hx with rfl | hlater
    · rw [t.step_decision]
      exact t.rotation.not_failed_act t.encounter i cause
    · exact ih hlater

end Trial

end ActionPriority
