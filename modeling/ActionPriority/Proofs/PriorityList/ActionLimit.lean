import ActionPriority.Proofs.PriorityList.Aims
import ActionPriority.Proofs.PriorityList.DecisionPoints

/-! # The Action Limit

    A trial counts the actions that follow one another at an instant, and has the clock moved on
    once the count has come to the limit.  The count is looked at when the next action has been
    carried out already, and that one goes uncounted.

    * What is decided at one instant is a burst: actions up to the limit, and one decision more,
      which may be an action too once all the others are (`Burst`,
      `Trial.decisionsAt_eq_nil_or_burst`).
    * So there can be one action more than the limit says, and no second one
      (`Trial.actionsAt_le`).
    * It does come to that with a spell that costs nothing, starts no cooldown, and is cast
      without a condition (`Trial.decisionsAt_of_tireless`).
-/

namespace ActionPriority

open Encounter (Op)

/-! ### Steps -/

namespace Trial

variable {t : Trial}

/-- What a step can come to: one more action that is counted, or a jump of the clock, after which
    the count starts over. -/
inductive StepsTo (t : Trial) : Decision → Trial → Prop where
  | acts {i : Nat} {r : Rotation} {e : Encounter} :
      t.rotation.act t.encounter = (.executed i, r, e) → t.acted < actionLimit →
      StepsTo t (.executed i) { rotation := r, encounter := e, acted := t.acted + 1 }
  | jumps {decision : Decision} {r : Rotation} {e : Encounter} :
      t.rotation.act t.encounter = (decision, r, e) →
      (hasActed decision = true → actionLimit ≤ t.acted) →
      StepsTo t decision { rotation := r, encounter := e.advanceTo (r.nextDecision e) }

theorem stepsTo_step (t : Trial) : t.StepsTo t.step.1 t.step.2 := by
  unfold step
  generalize hact : t.rotation.act t.encounter = acts
  obtain ⟨decision, r, e⟩ := acts
  dsimp only
  split
  · next hcounts =>
    obtain ⟨hacted, hroom⟩ := Bool.and_eq_true_iff.mp hcounts
    cases decision with
    | executed i => exact .acts hact (of_decide_eq_true hroom)
    | nothingReady | failed i cause => cases hacted
  · next hcounts =>
    refine .jumps hact fun hacted => ?_
    rw [hacted, Bool.true_and, decide_eq_true_eq] at hcounts
    exact Nat.le_of_not_lt hcounts

section Act

variable {decision : Decision} {r : Rotation} {e : Encounter}

/-- An action takes no time. -/
theorem clock_of_act (h : t.rotation.act t.encounter = (decision, r, e)) :
    e.clock = t.encounter.clock := by
  have hclock := (t.rotation.act_clock t.encounter).1
  rw [h] at hclock
  exact hclock

theorem endTime_of_act (h : t.rotation.act t.encounter = (decision, r, e)) :
    e.endTime = t.encounter.endTime := by
  have hsettings := (t.rotation.act_clock t.encounter).2
  rw [h] at hsettings
  rw [Encounter.endTime, Encounter.endTime, hsettings]

/-- It does not bring the end either. -/
theorem isFinished_of_act (h : t.rotation.act t.encounter = (decision, r, e)) :
    e.isFinished = t.encounter.isFinished := by
  rw [Encounter.isFinished, Encounter.isFinished, clock_of_act h, endTime_of_act h]

/-- A jump takes some. -/
theorem clock_lt_of_jump (hrunning : t.encounter.isFinished = false)
    (h : t.rotation.act t.encounter = (decision, r, e)) :
    t.encounter.clock < (e.advanceTo (r.nextDecision e)).clock := by
  rw [← isFinished_of_act h] at hrunning
  have hbefore : e.clock < e.endTime := Nat.lt_of_not_le (of_decide_eq_false hrunning)
  have hnext := r.lt_nextDecision hbefore
  rw [← clock_of_act h, Encounter.clock_advanceTo]
  simp only [Time.lt_def, Time.nanos_max, Time.nanos_min] at *
  omega

end Act

theorem clock_le_step (hrunning : t.encounter.isFinished = false) :
    t.encounter.clock ≤ t.step.2.encounter.clock := by
  have hstep := t.stepsTo_step
  generalize t.step = stepped at hstep
  obtain ⟨decision, next⟩ := stepped
  cases hstep with
  | acts hact _ => exact Nat.le_of_eq (congrArg Time.nanos (clock_of_act hact).symm)
  | jumps hact _ => exact Nat.le_of_lt (clock_lt_of_jump hrunning hact)

/-- Nothing is decided before now. -/
theorem clock_le_of_mem_decisions {x : Time × Decision} (hx : x ∈ t.decisions) :
    t.encounter.clock ≤ x.1 := by
  fun_induction decisions t with
  | case1 t hfinished => cases hx
  | case2 t hrunning ih =>
    rcases List.mem_cons.mp hx with rfl | hlater
    · exact Nat.le_refl _
    · exact Nat.le_trans (clock_le_step (Bool.not_eq_true _ ▸ hrunning)) (ih hlater)

/-! ### One instant -/

/-- The decisions of a trial at one instant. -/
def decisionsAt (t : Trial) (now : Time) : List Decision :=
  (t.decisions.filter fun x => x.1 = now).map Prod.snd

/-- The number of actions of a trial at one instant. -/
def actionsAt (t : Trial) (now : Time) : Nat := (t.decisionsAt now).countP hasActed

theorem decisionsAt_of_finished (h : t.encounter.isFinished = true) (now : Time) :
    t.decisionsAt now = [] := by
  rw [decisionsAt, decisions_of_finished h]
  rfl

theorem decisionsAt_of_running (h : t.encounter.isFinished = false) (now : Time) :
    t.decisionsAt now =
      if t.encounter.clock = now then t.step.1 :: t.step.2.decisionsAt now
      else t.step.2.decisionsAt now := by
  unfold decisionsAt
  rw [decisions_of_running h, List.filter_cons]
  simp only [decide_eq_true_eq]
  split <;> rfl

/-- Nothing is decided any more at an instant that has passed. -/
theorem decisionsAt_of_lt {now : Time} (h : now < t.encounter.clock) : t.decisionsAt now = [] := by
  have hnone : t.decisions.filter (fun x => x.1 = now) = [] := by
    refine List.filter_eq_nil_iff.mpr fun x hx hnow => ?_
    have hle := clock_le_of_mem_decisions hx
    rw [of_decide_eq_true hnow] at hle
    exact Nat.not_lt_of_le hle h
  rw [decisionsAt, hnone]
  rfl

/-- Either the decision is counted and the instant goes on with one action fewer to come, or it is
    the last one of the instant. -/
theorem decisionsAt_clock_cases (hrunning : t.encounter.isFinished = false) :
    (∃ i r e, t.rotation.act t.encounter = (.executed i, r, e) ∧ t.acted < actionLimit ∧
      t.decisionsAt t.encounter.clock =
        .executed i :: (Trial.mk r e (t.acted + 1)).decisionsAt e.clock) ∨
    ∃ decision r e, t.rotation.act t.encounter = (decision, r, e) ∧
      (hasActed decision = true → actionLimit ≤ t.acted) ∧
      t.decisionsAt t.encounter.clock = [decision] := by
  have hstep := t.stepsTo_step
  rw [decisionsAt_of_running hrunning, if_pos rfl]
  generalize t.step = stepped at hstep
  obtain ⟨decision, next⟩ := stepped
  cases hstep with
  | @acts i r e hact hroom =>
    left
    rw [← clock_of_act hact]
    exact ⟨i, r, e, hact, hroom, rfl⟩
  | @jumps decision r e hact hlimit =>
    right
    rw [decisionsAt_of_lt (clock_lt_of_jump hrunning hact)]
    exact ⟨decision, r, e, hact, hlimit, rfl⟩

end Trial

/-! ### Bursts -/

/-- Up to `n` actions, and one decision more.  Only if all the `n` have been actions, that one
    may be an action too. -/
inductive Burst : Nat → List Decision → Prop where
  | last {n : Nat} {decision : Decision} : (0 < n → Trial.hasActed decision = false) →
      Burst n [decision]
  | acts {n i : Nat} {rest : List Decision} : Burst n rest → Burst (n + 1) (.executed i :: rest)

namespace Burst

variable {n : Nat} {decisions : List Decision}

/-- One action more than `n` is the most there can be. -/
theorem countP_le (h : Burst n decisions) : decisions.countP Trial.hasActed ≤ n + 1 := by
  induction h with
  | last _ => exact Nat.le_trans List.countP_le_length (Nat.le_add_left 1 _)
  | acts _ ih =>
    rw [List.countP_cons_of_pos rfl]
    exact Nat.succ_le_succ ih

/-- There is one action more than `n` exactly if the decision after `n` actions is one. -/
theorem lt_countP_iff (h : Burst n decisions) :
    n < decisions.countP Trial.hasActed ↔ ∃ i, decisions[n]? = some (.executed i) := by
  induction h with
  | @last n decision hlast =>
    cases n with
    | zero =>
      cases decision with
      | executed i => exact iff_of_true Nat.one_pos ⟨i, rfl⟩
      | nothingReady | failed i cause => simp [Trial.hasActed]
    | succ n =>
      -- The burst has ended with fewer than `n` actions.
      rw [List.countP_cons_of_neg (Bool.not_eq_true _ ▸ hlast n.succ_pos)]
      simp
  | acts _ ih =>
    rw [List.countP_cons_of_pos rfl, List.getElem?_cons_succ, ← ih]
    exact Nat.succ_lt_succ_iff

/-- All but the last decision are actions. -/
theorem exists_eq_append (h : Burst n decisions) :
    ∃ (indices : List Nat) (last : Decision),
      decisions = indices.map .executed ++ [last] ∧ indices.length ≤ n := by
  induction h with
  | @last n decision _ => exact ⟨[], decision, rfl, n.zero_le⟩
  | @acts n i rest _ ih =>
    obtain ⟨indices, last, rfl, hle⟩ := ih
    exact ⟨i :: indices, last, rfl, Nat.succ_le_succ hle⟩

end Burst

/-! ### The limit -/

namespace Trial

variable {t : Trial}

/-- What is decided from now on at this instant is a burst, of as many actions as the count has
    left. -/
theorem burst_decisionsAt_clock (hrunning : t.encounter.isFinished = false) :
    Burst (actionLimit - t.acted) (t.decisionsAt t.encounter.clock) := by
  -- On the number of actions that the count has left.
  induction hleft : actionLimit - t.acted generalizing t with
  | zero =>
    rcases decisionsAt_clock_cases hrunning with
      ⟨_, _, _, _, hroom, _⟩ | ⟨decision, _, _, _, _, hlast⟩
    · omega
    · rw [hlast]
      exact .last fun hpos => absurd hpos (Nat.lt_irrefl 0)
  | succ n ih =>
    rcases decisionsAt_clock_cases hrunning with
      ⟨i, r, e, hact, _, hmore⟩ | ⟨decision, _, _, _, hlimit, hlast⟩
    · rw [hmore]
      have hleft' : actionLimit - (t.acted + 1) = n := by omega
      exact .acts (ih ((isFinished_of_act hact).trans hrunning) hleft')
    · rw [hlast]
      refine .last fun _ => Bool.eq_false_iff.mpr fun hacted => ?_
      have hspent := hlimit hacted
      omega

/-- So it is at every instant, if the count starts at nothing. -/
theorem decisionsAt_eq_nil_or_burst (now : Time) (h : t.encounter.clock = now → t.acted = 0) :
    t.decisionsAt now = [] ∨ Burst actionLimit (t.decisionsAt now) := by
  fun_induction decisions t with
  | case1 t hfinished => exact Or.inl (decisionsAt_of_finished hfinished now)
  | case2 t hrunning ih =>
    have hrunning := Bool.not_eq_true _ ▸ hrunning
    by_cases hnow : t.encounter.clock = now
    · right
      have hburst := burst_decisionsAt_clock hrunning
      rw [h hnow, hnow] at hburst
      exact hburst
    · -- By then the clock has moved on, and the count has started over.
      rw [decisionsAt_of_running hrunning, if_neg hnow]
      refine ih fun hlater => ?_
      have hstep := t.stepsTo_step
      generalize t.step = stepped at hstep hlater
      obtain ⟨decision, next⟩ := stepped
      cases hstep with
      | acts hact _ => exact absurd ((clock_of_act hact).symm.trans hlater) hnow
      | jumps _ _ => rfl

end Trial

/-! ### Actions that never run out -/

/-- Casting the spell takes neither runes nor time. -/
structure Spell.IsFree (s : Spell) : Prop where
  cost : s.cost.isFree = true
  cooldown : s.cooldown = Time.zero
  globalCooldown : s.onGlobalCooldown = false

instance (s : Spell) : Decidable s.IsFree :=
  decidable_of_iff
    (s.cost.isFree = true ∧ s.cooldown = Time.zero ∧ s.onGlobalCooldown = false)
    ⟨fun ⟨hcost, hcooldown, hglobal⟩ => ⟨hcost, hcooldown, hglobal⟩,
      fun h => ⟨h.cost, h.cooldown, h.globalCooldown⟩⟩

/-- The spell can be cast now, and is free. -/
structure Encounter.FreelyCasts (e : Encounter) (caster : CombatantId) (spell : SpellId)
    (target : CombatantId) : Prop where
  castable : e.checkCast caster spell target = .ok ()
  free : ∀ definition, (e.combatant? caster).bind (·.spell? spell) = some definition →
    definition.IsFree

/-- A spell that is free can be cast again. -/
theorem Encounter.FreelyCasts.again {e after : Encounter} {caster target : CombatantId}
    {spell : SpellId} (h : e.FreelyCasts caster spell target)
    (hcast : e.cast caster spell target = .ok after) : after.FreelyCasts caster spell target := by
  obtain ⟨c, definition, aimed, hc, haimed, hcastable⟩ := checkCast_eq_ok_iff.mp h.castable
  have hfree : definition.IsFree := by
    refine h.free definition ?_
    rw [hc]
    exact hcastable.known
  obtain ⟨c', hc', hbecomes⟩ := combatant?_perform hc (.cast caster spell target)
  obtain ⟨aimed', haimed', hbecomes'⟩ := combatant?_perform haimed (.cast caster spell target)
  rw [perform_of_cast hcast] at hc' haimed'
  have hspells : c'.spell? spell = c.spell? spell := by
    cases hbecomes <;> rfl
  have hready : c'.cooldownReadyAt spell = c.cooldownReadyAt spell := by
    cases hbecomes with
    | stays | aims aim | runes bar => rfl
    | @casts _ _ _ definition' _ _ _ hknown _ =>
      -- The spell that was cast starts no cooldown.
      rw [hcastable.known] at hknown
      cases hknown
      simp only [Combatant.cooldownReadyAt, afterCast, hfree.cooldown, if_true]
  have htargetable : aimed'.isTargetable = aimed.isTargetable := by
    cases hbecomes' <;> rfl
  constructor
  · refine checkCast_eq_ok_iff.mpr ⟨c', definition, aimed', hc', haimed', ?_⟩
    exact
      { known := hspells.trans hcastable.known
        targetable := htargetable.trans hcastable.targetable
        cooldown := by
          rw [hready, cast_clock hcast]
          exact hcastable.cooldown
        globalCooldown := fun hon => absurd hon (Bool.eq_false_iff.mp hfree.globalCooldown)
        runes := Or.inl hfree.cost }
  · intro definition' hdefinition'
    rw [hc', Option.bind_some, hspells, hcastable.known] at hdefinition'
    cases hdefinition'
    exact hfree

/-- The first entry at work casts a free spell, without a condition. -/
inductive Rotation.Tireless (r : Rotation) (e : Encounter) (i : Nat) : Prop where
  | intro {uuid : Option Uuid} {caster id : CombatantId} {spell : SpellId} {label : String}
      {target : Cell} : r.isWaiting e = false →
      r.active.head? = some (i, ⟨uuid, none, .cast caster spell label target⟩) →
      target.resolve e = some id → e.FreelyCasts caster spell id → Tireless r e i

/-- Does the first entry at work cast a free spell, without a condition? -/
def Rotation.isTireless (r : Rotation) (e : Encounter) : Bool :=
  !r.isWaiting e &&
    match r.active.head? with
    | some (_, ⟨_, none, .cast caster spell _ target⟩) =>
      (target.resolve e).any fun id =>
        (e.checkCast caster spell id).isOk &&
          ((e.combatant? caster).bind (·.spell? spell)).all fun definition => definition.IsFree
    | _ => false

theorem Rotation.exists_tireless {r : Rotation} {e : Encounter} (h : r.isTireless e = true) :
    ∃ i, r.Tireless e i := by
  obtain ⟨hwait, hfirst⟩ := Bool.and_eq_true_iff.mp h
  have hwait : r.isWaiting e = false := (Bool.not_eq_true' _).mp hwait
  split at hfirst
  · next i uuid caster spell label target hhead =>
    obtain ⟨id, hresolve, hcast⟩ := (Option.any_eq_true _ _).mp hfirst
    obtain ⟨hcheck, hfree⟩ := Bool.and_eq_true_iff.mp hcast
    refine ⟨i, .intro hwait hhead hresolve ⟨Encounter.isOk_checkCast_iff.mp hcheck, ?_⟩⟩
    intro definition hdefinition
    rw [hdefinition, Option.all_some] at hfree
    exact of_decide_eq_true hfree
  · cases hfirst

/-- It is carried out, and is ready again at once. -/
theorem Rotation.Tireless.act {r : Rotation} {e : Encounter} {i : Nat} (h : r.Tireless e i) :
    ∃ r' after, r.act e = (.executed i, r', after) ∧ r'.Tireless after i := by
  obtain @⟨uuid, caster, id, spell, label, target, hwait, hhead, hresolve, hfree⟩ := h
  obtain ⟨after, hcast⟩ := Encounter.exists_cast_eq_ok_iff.mpr hfree.castable
  have hdoes : (Action.cast caster spell label target).Does e after none := .casts hresolve hcast
  have hfirst : r.firstReady e = some (i, ⟨uuid, none, .cast caster spell label target⟩) := by
    obtain ⟨rest, hactive⟩ := List.head?_eq_some_iff.mp hhead
    have hready := Action.isReady_iff.mpr ⟨after, none, hdoes⟩
    rw [firstReady, hactive]
    exact List.find?_cons_of_pos hready
  have hdecides := Decides.acts (isWaiting_eq_false_iff.mp hwait)
    (firstReady_eq_some_iff.mp hfirst) hdoes
  refine ⟨_, after, hdecides.act, ?_⟩
  have hop : (Op.cast caster spell id).IsCastOrJump := trivial
  have hresolve' : target.resolve after = some id := by
    rw [← Encounter.perform_of_cast hcast, Cell.resolve_perform hop]
    exact hresolve
  exact .intro rfl hhead hresolve' (hfree.again hcast)

namespace Trial

variable {t : Trial}

/-- A rotation that never tires acts until the count is used up, and once more. -/
theorem decisionsAt_of_tireless {i : Nat} (hrunning : t.encounter.isFinished = false)
    (h : t.rotation.Tireless t.encounter i) :
    t.decisionsAt t.encounter.clock =
      List.replicate (actionLimit - t.acted + 1) (.executed i) := by
  induction hleft : actionLimit - t.acted generalizing t with
  | zero =>
    obtain ⟨r, after, hact, _⟩ := h.act
    rcases decisionsAt_clock_cases hrunning with
      ⟨_, _, _, _, hroom, _⟩ | ⟨decision, _, _, hact', _, hlast⟩
    · omega
    · cases hact.symm.trans hact'
      exact hlast
  | succ n ih =>
    obtain ⟨r, after, hact, hagain⟩ := h.act
    rcases decisionsAt_clock_cases hrunning with
      ⟨_, _, _, hact', _, hmore⟩ | ⟨decision, _, _, hact', hlimit, _⟩
    · cases hact.symm.trans hact'
      have hleft' : actionLimit - (t.acted + 1) = n := by omega
      rw [hmore, ih ((isFinished_of_act hact).trans hrunning) hagain hleft']
      rfl
    · cases hact.symm.trans hact'
      have hspent := hlimit rfl
      omega

/-- At one instant a trial carries out one action more than the limit at most.

    * All that is decided there but the last decision are actions, up to the limit.
    * There is one action more exactly if something is still found after that.  So it is wherever
      the first entry at work casts a free spell without a condition. -/
theorem actionsAt_le (h : t.acted = 0) (now : Time) :
    (t.decisionsAt now = [] ∨ ∃ indices last, t.decisionsAt now =
      List.map Decision.executed indices ++ [last] ∧ indices.length ≤ actionLimit) ∧
    t.actionsAt now ≤ actionLimit + 1 ∧
    (actionLimit < t.actionsAt now ↔
      ∃ i, (t.decisionsAt now)[actionLimit]? = some (.executed i)) ∧
    ∀ i, t.encounter.isFinished = false → t.rotation.Tireless t.encounter i →
      t.actionsAt t.encounter.clock = actionLimit + 1 := by
  have hinstant := decisionsAt_eq_nil_or_burst now fun _ => h
  refine ⟨hinstant.imp_right Burst.exists_eq_append, ?_, ?_, ?_⟩
  · unfold actionsAt
    rcases hinstant with hnone | hburst
    · rw [hnone]
      exact Nat.zero_le _
    · exact hburst.countP_le
  · unfold actionsAt
    rcases hinstant with hnone | hburst
    · rw [hnone]
      simp
    · exact hburst.lt_countP_iff
  · intro i hrunning htireless
    rw [actionsAt, decisionsAt_of_tireless hrunning htireless, h, List.countP_replicate]
    rfl

/-- A knight with a strike that is free. -/
def freeStrike : Study where
  scenario :=
    { player :=
        { label := "Knight"
          spells :=
            [{ id := ⟨1⟩, label := "Strike", directDamage := 10.0, onGlobalCooldown := false }] }
      targets := [{ label := "Dummy" }] }
  list := { entries := [{ action := .cast ⟨1⟩ .currentTarget }] }
  plan := {}

/-- At its very first instant the knight strikes once more than the limit says. -/
theorem actionsAt_le_free_strike :
    ∃ t diagnostics, freeStrike.begin {} 0 = .ok (t, diagnostics) ∧ t.acted = 0 ∧
      t.actionsAt Time.zero = 65 := by
  have hlook : (freeStrike.begin {} 0).toOption.any (fun begun =>
      !begun.1.encounter.isFinished && begun.1.encounter.clock = Time.zero &&
        begun.1.acted = 0 && begun.1.rotation.isTireless begun.1.encounter) = true := by
    decide +kernel
  cases hbegin : freeStrike.begin {} 0 with
  | error cause =>
    rw [hbegin] at hlook
    cases hlook
  | ok begun =>
    obtain ⟨t, diagnostics⟩ := begun
    rw [hbegin] at hlook
    simp only [Except.toOption, Option.any_some, Bool.and_eq_true, Bool.not_eq_true',
      decide_eq_true_eq] at hlook
    obtain ⟨⟨⟨hrunning, hclock⟩, hacted⟩, htireless⟩ := hlook
    obtain ⟨i, htireless⟩ := Rotation.exists_tireless htireless
    obtain ⟨_, _, _, hmost⟩ := actionsAt_le hacted Time.zero
    refine ⟨t, diagnostics, rfl, hacted, ?_⟩
    rw [← hclock]
    exact hmost i hrunning htireless

end Trial

end ActionPriority
