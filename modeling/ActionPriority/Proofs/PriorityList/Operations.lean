import ActionPriority.Proofs.Encounter.Steps
import ActionPriority.PriorityList.Trial

/-! # What a Trial Does to its Encounter

    A decision point carries out one action at most, and a step of a trial may then move the
    clock.  So a step comes to a few operations on the encounter in a row
    (`Trial.encounter_step`), and there are only two kinds of them, casts and jumps of the clock
    (`Trial.isCastOrJump_of_mem_operations`).  What holds of all operations, or of these two,
    holds of trials.
-/

namespace ActionPriority

open Encounter (Op)

/-! ### Operations -/

/-- What an action does to the encounter.  Waiting does nothing to it. -/
def Action.operations (a : Action) (e : Encounter) : List Op :=
  match a with
  | .cast caster spell _ target => (target.resolve e).toList.map fun id => .cast caster spell id
  | .wait _ => []

/-- What a rotation does at a decision point. -/
def Rotation.operations (r : Rotation) (e : Encounter) : List Op :=
  if r.isWaiting e then [] else ((r.firstReady e).map fun x => x.2.action.operations e).getD []

/-- What one step of a trial does. -/
def Trial.operations (t : Trial) : List Op :=
  let (decision, rotation, e) := t.rotation.act t.encounter
  t.rotation.operations t.encounter ++
    if hasActed decision && t.acted < actionLimit then []
    else [.advanceTo (rotation.nextDecision e)]

/-- The operation is a cast, or a jump of the clock. -/
def Encounter.Op.IsCastOrJump : Op → Prop
  | .cast _ _ _ => True
  | .advanceTo _ => True
  | _ => False

/-! ### Actions and decision points -/

/-- An action that succeeds has done its operations, and those of one that fails are refused. -/
theorem Action.run_operations (a : Action) (e : Encounter) :
    e.run (a.operations e) =
      match a.execute e with
      | .ok (after, _) => after
      | .error _ => e := by
  cases a with
  | wait length => rfl
  | cast caster spell label target =>
    simp only [operations, execute]
    cases target.resolve e with
    | none => rfl
    | some id =>
      show (e.cast caster spell id).toOption.getD e = _
      dsimp only
      cases e.cast caster spell id with
      | error cause => rfl
      | ok after => rfl

theorem Action.isCastOrJump_of_mem_operations {a : Action} {e : Encounter} {op : Op}
    (h : op ∈ a.operations e) : op.IsCastOrJump := by
  cases a with
  | wait length => cases h
  | cast caster spell label target =>
    obtain ⟨id, _, rfl⟩ := List.mem_map.mp h
    trivial

theorem Rotation.encounter_act (r : Rotation) (e : Encounter) :
    (r.act e).2.2 = e.run (r.operations e) := by
  unfold act operations
  split
  · rfl
  · cases r.firstReady e with
    | none => rfl
    | some found =>
      rw [Option.map_some, Option.getD_some, found.2.action.run_operations e]
      dsimp only
      cases found.2.action.execute e with
      | error cause => rfl
      | ok result => rfl

theorem Rotation.isCastOrJump_of_mem_operations {r : Rotation} {e : Encounter} {op : Op}
    (h : op ∈ r.operations e) : op.IsCastOrJump := by
  unfold operations at h
  split at h
  · cases h
  · cases hfirst : r.firstReady e with
    | none =>
      rw [hfirst] at h
      cases h
    | some found =>
      rw [hfirst] at h
      exact Action.isCastOrJump_of_mem_operations h

/-! ### Steps -/

namespace Trial

variable {t : Trial}

/-- A step of a trial is some operations in a row. -/
theorem encounter_step (t : Trial) : t.step.2.encounter = t.encounter.run t.operations := by
  have hact := t.rotation.encounter_act t.encounter
  unfold step operations
  generalize t.rotation.act t.encounter = acts at hact
  obtain ⟨decision, rotation, e⟩ := acts
  dsimp only at hact ⊢
  rw [Encounter.run_append, ← hact]
  split <;> rfl

theorem isCastOrJump_of_mem_operations {op : Op} (h : op ∈ t.operations) : op.IsCastOrJump := by
  unfold operations at h
  dsimp only at h
  rcases List.mem_append.mp h with hact | hjump
  · exact Rotation.isCastOrJump_of_mem_operations hact
  · split at hjump
    · cases hjump
    · cases List.mem_singleton.mp hjump
      trivial

theorem endTime_step (t : Trial) : t.step.2.encounter.endTime = t.encounter.endTime := by
  rw [encounter_step, Encounter.endTime_run]

end Trial

end ActionPriority
