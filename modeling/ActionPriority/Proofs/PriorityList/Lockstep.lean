import ActionPriority.Proofs.PriorityList.Reachable
import Mathlib.Data.List.Forall2

/-! # Rotations in Lockstep

    Two rotations may differ in their entries, and still never differ in what they do.  It is
    enough that the entries at work in them can be told one for one, in turn, so that those of a
    pair act in the same cases and do the same (`Rotation.Matches`).  The places at which they
    stand need not be the same: `index` says which place of one is which of the other.

    A decision point then finds both entries of a pair or neither (`Matches.firstReady`), and
    leaves the two encounters equal (`Matches.act`).  By induction over a run the same holds of
    whole trials (`Trial.Matches.alongside`).  The entries of a pair need to agree only where
    `inv` holds, which may be anything that casts and jumps of the clock keep.
-/

namespace ActionPriority

variable {inv : Encounter → Prop} {index : Nat → Nat → Prop}

/-- Wherever `inv` holds, the entries act in the same cases and do the same. -/
structure Entry.Agrees (inv : Encounter → Prop) (x y : Entry) : Prop where
  shouldAct : ∀ e, inv e → x.shouldAct e = y.shouldAct e
  execute : ∀ e, inv e → x.action.execute e = y.action.execute e

theorem Entry.Agrees.refl (x : Entry) : x.Agrees inv x := ⟨fun _ _ => rfl, fun _ _ => rfl⟩

/-- The decisions are the same but for the places of the entries. -/
inductive Decision.Corresponds (index : Nat → Nat → Prop) : Decision → Decision → Prop where
  | executed {i j : Nat} : index i j → Corresponds index (.executed i) (.executed j)
  | nothingReady : Corresponds index .nothingReady .nothingReady
  | failed {i j : Nat} (cause : CastError) : index i j →
      Corresponds index (.failed i cause) (.failed j cause)

theorem Decision.Corresponds.hasActed {d d' : Decision} (h : d.Corresponds index d') :
    Trial.hasActed d = Trial.hasActed d' := by
  cases h <;> rfl

theorem Decision.Corresponds.eq {d d' : Decision} (h : d.Corresponds Eq d') : d = d' := by
  cases h with
  | executed hplace => rw [hplace]
  | nothingReady => rfl
  | failed cause hplace => rw [hplace]

/-- Casts and jumps in a row keep what each of them keeps. -/
theorem Encounter.keeps_run {e : Encounter} {ops : List Op}
    (hkeeps : ∀ e op, op.IsCastOrJump → inv e → inv (e.perform op)) (h : inv e)
    (hops : ∀ op ∈ ops, op.IsCastOrJump) : inv (e.run ops) := by
  induction ops generalizing e with
  | nil => exact h
  | cons op rest ih =>
    have hop := hkeeps e op (hops op List.mem_cons_self) h
    exact ih hop fun op' hop' => hops op' (List.mem_cons_of_mem _ hop')

/-! ### Decision points -/

/-- The entries at work in the two rotations go in pairs, and both idle until the same
    instant. -/
structure Rotation.Matches (inv : Encounter → Prop) (index : Nat → Nat → Prop)
    (r r' : Rotation) : Prop where
  active : List.Forall₂ (fun x y => index x.1 y.1 ∧ x.2.Agrees inv y.2) r.active r'.active
  waitUntil : r.waitUntil = r'.waitUntil

namespace Rotation.Matches

variable {r r' : Rotation} {e : Encounter}

theorem isWaiting (h : r.Matches inv index r') (e : Encounter) :
    r.isWaiting e = r'.isWaiting e := by
  rw [Rotation.isWaiting, Rotation.isWaiting, h.waitUntil]

theorem nextDecision (h : r.Matches inv index r') (e : Encounter) :
    r.nextDecision e = r'.nextDecision e := by
  rw [Rotation.nextDecision, Rotation.nextDecision, h.waitUntil]

/-- What is found first in one rotation is paired with what is found first in the other. -/
theorem firstReady (h : r.Matches inv index r') (hinv : inv e) :
    Option.Rel (fun x y => index x.1 y.1 ∧ x.2.Agrees inv y.2) (r.firstReady e)
      (r'.firstReady e) := by
  refine rel_find? h.active ?_
  rintro x y ⟨_, hagrees⟩
  exact hagrees.shouldAct e hinv

/-- A decision point comes to corresponding decisions, and to the same encounter. -/
theorem act (h : r.Matches inv index r') (hinv : inv e) :
    (r.act e).1.Corresponds index (r'.act e).1 ∧
      (r.act e).2.1.Matches inv index (r'.act e).2.1 ∧ (r.act e).2.2 = (r'.act e).2.2 := by
  have hfirst := h.firstReady hinv
  unfold Rotation.act
  rw [h.isWaiting]
  split
  · exact ⟨.nothingReady, ⟨h.active, h.waitUntil⟩, rfl⟩
  · generalize r.firstReady e = found at hfirst
    generalize r'.firstReady e = found' at hfirst
    -- Either both find nothing, or they find the entries of a pair.
    cases hfirst with
    | none => exact ⟨.nothingReady, ⟨h.active, rfl⟩, rfl⟩
    | some hpair =>
      obtain ⟨hindex, hagrees⟩ := hpair
      dsimp only
      rw [hagrees.execute e hinv]
      split
      · exact ⟨.executed hindex, ⟨h.active, rfl⟩, rfl⟩
      · exact ⟨.failed _ hindex, ⟨h.active, rfl⟩, rfl⟩

end Rotation.Matches

/-! ### Whole trials -/

namespace Trial

/-- The two trials stand at the same place, with rotations that go in pairs. -/
structure Matches (inv : Encounter → Prop) (index : Nat → Nat → Prop) (t t' : Trial) :
    Prop where
  rotation : t.rotation.Matches inv index t'.rotation
  encounter : t.encounter = t'.encounter
  acted : t.acted = t'.acted

/-- The two trials take corresponding decisions at the same instants, and come to the same. -/
structure Alongside (index : Nat → Nat → Prop) (t t' : Trial) : Prop where
  decisions : List.Forall₂ (fun x y => x.1 = y.1 ∧ x.2.Corresponds index y.2) t.decisions
    t'.decisions
  /-- At the end everything in the encounters is the same. -/
  encounter : t.run.encounter = t'.run.encounter
  report : t.run.report = t'.run.report

/-- If entries also keep their places, the decisions are the same. -/
theorem Alongside.decisions_eq {t t' : Trial} (h : t.Alongside Eq t') :
    t.decisions = t'.decisions := by
  have hall : List.Forall₂ Eq t.decisions t'.decisions :=
    h.decisions.imp fun _ _ hsame => Prod.ext hsame.1 hsame.2.eq
  rwa [List.forall₂_eq_eq_eq] at hall

/-- A step of a trial keeps what casts and jumps keep. -/
theorem keeps_step {t : Trial} (hkeeps : ∀ e op, op.IsCastOrJump → inv e → inv (e.perform op))
    (hinv : inv t.encounter) : inv t.step.2.encounter := by
  rw [encounter_step]
  exact Encounter.keeps_run hkeeps hinv fun _ => isCastOrJump_of_mem_operations

namespace Matches

variable {t t' : Trial}

theorem step (h : t.Matches inv index t') (hinv : inv t.encounter) :
    t.step.1.Corresponds index t'.step.1 ∧ t.step.2.Matches inv index t'.step.2 := by
  have hact := h.rotation.act hinv
  unfold Trial.step
  rw [← h.encounter, h.acted]
  generalize t.rotation.act t.encounter = acts at hact
  generalize t'.rotation.act t.encounter = acts' at hact
  obtain ⟨decision, rotation, e⟩ := acts
  obtain ⟨decision', rotation', e'⟩ := acts'
  obtain ⟨hdecision, hrotation, hafter⟩ := hact
  dsimp only at hdecision hrotation hafter ⊢
  subst hafter
  -- The branch depends on whether something was done, and the jump on how long to idle.
  rw [hdecision.hasActed, hrotation.nextDecision]
  split
  · exact ⟨hdecision, hrotation, rfl, rfl⟩
  · exact ⟨hdecision, hrotation, rfl, rfl⟩

theorem decisions (h : t.Matches inv index t')
    (hkeeps : ∀ e op, op.IsCastOrJump → inv e → inv (e.perform op)) (hinv : inv t.encounter) :
    List.Forall₂ (fun x y => x.1 = y.1 ∧ x.2.Corresponds index y.2) t.decisions t'.decisions := by
  fun_induction Trial.decisions t generalizing t' with
  | case1 t hfinished =>
    rw [Trial.decisions, ← h.encounter, if_pos hfinished]
    exact .nil
  | case2 t hrunning ih =>
    obtain ⟨hdecision, hstep⟩ := h.step hinv
    have hinv' := keeps_step hkeeps hinv
    rw [Trial.decisions.eq_def t', ← h.encounter, if_neg hrunning]
    exact .cons ⟨rfl, hdecision⟩ (ih hstep hinv')

theorem run (h : t.Matches inv index t')
    (hkeeps : ∀ e op, op.IsCastOrJump → inv e → inv (e.perform op)) (hinv : inv t.encounter) :
    t.run.Matches inv index t'.run := by
  fun_induction Trial.run t generalizing t' with
  | case1 t hfinished =>
    rw [Trial.run, ← h.encounter, if_pos hfinished]
    exact h
  | case2 t hrunning ih =>
    have hinv' := keeps_step hkeeps hinv
    rw [Trial.run.eq_def t', ← h.encounter, if_neg hrunning]
    exact ih (h.step hinv).2 hinv'

/-- Trials whose rotations go in pairs go alongside to the end. -/
theorem alongside (h : t.Matches inv index t')
    (hkeeps : ∀ e op, op.IsCastOrJump → inv e → inv (e.perform op)) (hinv : inv t.encounter) :
    t.Alongside index t' := by
  have hrun := h.run hkeeps hinv
  refine ⟨h.decisions hkeeps hinv, hrun.encounter, ?_⟩
  rw [report, report, hrun.encounter]

end Matches

end Trial

end ActionPriority
