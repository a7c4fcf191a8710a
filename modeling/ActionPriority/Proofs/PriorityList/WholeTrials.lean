import ActionPriority.Proofs.Encounter.Scheduled
import ActionPriority.Proofs.PriorityList.Reachable

/-! # Whole Trials

    A trial ends, and it ends where its encounter does.

    * What remains to be done is counted in rounds: at each nanosecond that is left there are
      actions up to the limit, and the jump away from it.  Every round is one fewer
      (`roundsLeft_step_lt`), whatever is in the priority list.
    * All rounds together come to casts and jumps of the clock (`Rounds.encounter_eq`).  No jump
      goes beyond the end of the encounter, and the rounds do not stop before it
      (`Rounds.clock_eq`).
    * No effect loses its ticks by the way, since neither a cast nor a jump disables a target
      (`Encounter.fires_of_isCastOrJump`).
-/

namespace ActionPriority

open Encounter (Op Tick)

namespace Trial

variable {t : Trial}

/-! ### Rounds -/

/-- The most rounds that a trial can still take. -/
def roundsLeft (t : Trial) : Nat := t.nanosLeft * (actionLimit + 1) + (actionLimit - t.acted)

/-- Every round is one fewer to come. -/
theorem roundsLeft_step_lt (h : t.encounter.isFinished = false) :
    t.step.2.roundsLeft < t.roundsLeft := by
  have hrunning : ¬ t.encounter.isFinished = true := by
    rw [h]
    exact Bool.false_ne_true
  unfold roundsLeft
  rcases t.step_progress hrunning with hless | ⟨hsame, hless⟩
  · -- A jump takes a nanosecond at least, which is worth all actions before the limit.
    have hmul := Nat.mul_le_mul_right (actionLimit + 1) (Nat.succ_le_of_lt hless)
    rw [Nat.succ_mul] at hmul
    omega
  · rw [hsame]
    exact Nat.add_lt_add_left hless _

/-- Rounds follow one another until the encounter is over.  The lists have what is decided, with
    the instants, and what is done. -/
inductive Rounds : Trial → List (Time × Decision) → List Op → Trial → Prop where
  | ended {t : Trial} : t.encounter.isFinished = true → Rounds t [] [] t
  | round {t last : Trial} {log : List (Time × Decision)} {ops : List Op} :
      t.encounter.isFinished = false → Rounds t.step.2 log ops last →
        Rounds t ((t.encounter.clock, t.step.1) :: log) (t.operations ++ ops) last

/-- The rounds of every trial come to an end. -/
theorem rounds_run (t : Trial) : ∃ ops, Rounds t t.decisions ops t.run := by
  fun_induction run t with
  | case1 t hfinished =>
    rw [decisions_of_finished hfinished]
    exact ⟨[], .ended hfinished⟩
  | case2 t hrunning ih =>
    have hrunning := Bool.not_eq_true _ ▸ hrunning
    obtain ⟨ops, hrounds⟩ := ih
    rw [decisions_of_running hrunning]
    exact ⟨_, .round hrunning hrounds⟩

namespace Rounds

variable {last : Trial} {log : List (Time × Decision)} {ops : List Op}

theorem length_le (h : Rounds t log ops last) : log.length ≤ t.roundsLeft := by
  induction h with
  | ended _ => exact Nat.zero_le _
  | round hrunning _ ih => exact Nat.lt_of_le_of_lt ih (roundsLeft_step_lt hrunning)

/-- The encounter is run by the operations of the rounds. -/
theorem encounter_eq (h : Rounds t log ops last) : last.encounter = t.encounter.run ops := by
  induction h with
  | ended _ => rfl
  | round _ _ ih => rw [ih, encounter_step, Encounter.run_append]

theorem isCastOrJump (h : Rounds t log ops last) : ∀ op ∈ ops, op.IsCastOrJump := by
  induction h with
  | ended _ => exact nofun
  | round _ _ ih =>
    intro op hop
    rcases List.mem_append.mp hop with hnow | hlater
    · exact isCastOrJump_of_mem_operations hnow
    · exact ih op hlater

theorem isFinished (h : Rounds t log ops last) : last.encounter.isFinished = true := by
  induction h with
  | ended hfinished => exact hfinished
  | round _ _ ih => exact ih

/-- Nothing is decided any more once the encounter is over. -/
theorem lt_endTime (h : Rounds t log ops last) : ∀ x ∈ log, x.1 < t.encounter.endTime := by
  induction h with
  | ended _ => exact nofun
  | @round t last log ops hrunning _ ih =>
    intro x hx
    rcases List.mem_cons.mp hx with rfl | hx
    · exact Nat.lt_of_not_le (of_decide_eq_false hrunning)
    · rw [← t.endTime_step]
      exact ih x hx

/-- The rounds end at the very end of the encounter. -/
theorem clock_eq (h : Rounds t log ops last) (hreachable : t.encounter.Reachable) :
    last.encounter.clock = t.encounter.endTime := by
  have hle := (hreachable.run ops).clock_le_endTime
  have hge : last.encounter.endTime ≤ last.encounter.clock := of_decide_eq_true h.isFinished
  rw [Encounter.endTime_run] at hle
  rw [h.encounter_eq, Encounter.endTime_run] at hge
  rw [h.encounter_eq]
  exact Time.ext (Nat.le_antisymm hle hge)

end Rounds

end Trial

/-! ### Ticks -/

/-- One of some operations applies the effect of the tick anew, which is still to fire. -/
def Encounter.Renews (e : Encounter) (x : Tick) (ops : List Op) : Prop :=
  ∃ before op after, ops = before ++ op :: after ∧ x ∈ (e.run before).scheduled ∧
    (e.run before).Reapplies ⟨x.owner⟩ x.key.spell x.key.target op

namespace Encounter

variable {e : Encounter} {x : Tick} {ops : List Op}

theorem Op.IsCastOrJump.not_disables {op : Op} (h : op.IsCastOrJump) (target : CombatantId) :
    ¬ e.Disables target op := by
  cases op with
  | setEnabled id enabled => exact h.elim
  | _ => exact id

/-- What is due by casts and jumps that leave nothing due by `limit` fires in them, unless its
    effect is applied anew. -/
theorem fires_of_isCastOrJump {limit : Time} (hx : x ∈ e.scheduled) (hdue : x.due ≤ limit)
    (hops : ∀ op ∈ ops, op.IsCastOrJump) (hnone : ∀ y ∈ (e.run ops).scheduled, limit < y.due) :
    x ∈ e.log ops ∨ e.Renews x ops := by
  rcases fires_or_stays_run hx ops with
    hfires | hstays | ⟨before, op, after, rfl, hstill, htaken⟩
  · exact Or.inl hfires
  · exact absurd (hnone x hstays) (Nat.not_lt_of_le hdue)
  · -- Of the two things that could take it away, only an application is left.
    right
    refine ⟨before, op, after, rfl, hstill, ?_⟩
    have hop := hops op (List.mem_append_right _ List.mem_cons_self)
    by_contra hkeeps
    exact htaken ⟨hkeeps, hop.not_disables _⟩

end Encounter

namespace Trial

variable {t : Trial}

/-- The trial goes right to the end of its encounter, by these operations. -/
structure Completes (t : Trial) (ops : List Op) : Prop where
  rounds : Rounds t t.decisions ops t.run
  bounded : t.decisions.length ≤ t.nanosLeft * (actionLimit + 1) + (actionLimit - t.acted)
  /-- What is done is done before the end. -/
  before : ∀ x ∈ t.decisions, x.1 < t.encounter.endTime
  encounter : t.run.encounter = t.encounter.run ops
  clock : t.run.encounter.clock = t.encounter.endTime
  duration : t.run.report.duration = t.encounter.settings.duration
  /-- No tick is left that is due by the end. -/
  nothingDue : ∀ x ∈ t.run.encounter.scheduled, t.encounter.endTime < x.due
  /-- Whenever a tick is scheduled by the end, it fires later on, unless a cast applies its
      effect anew before that. -/
  fires : ∀ sofar rest x, ops = sofar ++ rest → x ∈ (t.encounter.run sofar).scheduled →
    x.due ≤ t.encounter.endTime →
      x ∈ (t.encounter.run sofar).log rest ∨ (t.encounter.run sofar).Renews x rest

/-- A trial in a reachable encounter that ends before the last instant completes it, whatever
    its rotation is. -/
theorem run_completes (h : t.encounter.Reachable)
    (hends : t.encounter.settings.duration < Time.never) : ∃ ops, t.Completes ops := by
  obtain ⟨ops, hrounds⟩ := t.rounds_run
  have hclock := hrounds.clock_eq h
  have hrun := hrounds.encounter_eq
  have hnone : ∀ x ∈ (t.encounter.run ops).scheduled, t.encounter.endTime < x.due := by
    -- What is scheduled lies ahead of the clock, which has come to the end.
    intro x hx
    have hsettings := t.encounter.settings_run ops
    have hahead := (h.run ops).lt_due (hsettings.symm ▸ hends) hx
    rw [← hrun, hclock] at hahead
    exact hahead
  refine ⟨ops, ?_⟩
  exact
    { rounds := hrounds
      bounded := hrounds.length_le
      before := hrounds.lt_endTime
      encounter := hrun
      clock := hclock
      duration := hclock.trans t.encounter.endTime_eq_duration
      nothingDue := hrun.symm ▸ hnone
      fires := by
        rintro sofar rest x rfl hx hdue
        rw [Encounter.run_append] at hnone
        refine Encounter.fires_of_isCastOrJump hx hdue ?_ hnone
        intro op hop
        exact hrounds.isCastOrJump op (List.mem_append_right _ hop) }

/-- A trial of the duel in which the knight casts the plague as often as it can, and is told to
    idle for a nanosecond whenever it cannot. -/
def duelTrial : Trial where
  rotation :=
    { caster := ⟨1⟩
      entries := [
        some ⟨none, none, .cast ⟨1⟩ Encounter.plague.id Encounter.plague.label (.aimOf ⟨1⟩)⟩,
        none,
        some ⟨none, none, .wait (Time.ofNanos 1)⟩] }
  encounter := Encounter.duel

/-- However short the knight idles, the trial lasts as long as the duel. -/
theorem run_completes_duel :
    duelTrial.encounter.Reachable ∧ duelTrial.encounter.settings.duration < Time.never ∧
      ∃ ops, duelTrial.Completes ops ∧
        duelTrial.run.report.duration = Time.ofWholeSeconds 180 := by
  have hreachable : duelTrial.encounter.Reachable := (Encounter.Reachable.new {} 1).run _
  have hends : duelTrial.encounter.settings.duration < Time.never := by decide
  obtain ⟨ops, hcompletes⟩ := run_completes hreachable hends
  exact ⟨hreachable, hends, ops, hcompletes, hcompletes.duration⟩

end Trial

end ActionPriority
