import ActionPriority.Proofs.Encounter.Lifetime
import ActionPriority.Proofs.Encounter.Steps

/-! # What Becomes of a Scheduled Tick

    A tick that an effect has before it fires, or stays scheduled, as long as the effect is not
    applied anew and its target is not disabled (`fires_or_stays_perform`).  Over some
    operations it fires in one of them, is still scheduled after them, or one of them takes it
    away (`fires_or_stays_run`).

    A scheduled tick lies ahead of the clock (`Reachable.lt_due`), so when the clock has come to
    its instant it is scheduled no more.
-/

namespace ActionPriority

namespace Encounter

section Scheduled

variable {e : Encounter} {x : Tick}

/-- The scheduled ticks are those that effects have before them. -/
theorem mem_scheduled :
    x ∈ e.scheduled ↔ ∃ f, e.effect? ⟨x.owner⟩ x.key.spell x.key.target = some f ∧
      f.snapshot = x.snapshot ∧ x.due ∈ f.instants := by
  constructor
  · intro h
    obtain ⟨⟨c, owner⟩, hc, hx⟩ := List.mem_flatMap.mp h
    obtain ⟨⟨key, f⟩, hf, hx⟩ := List.mem_flatMap.mp hx
    obtain ⟨due, hdue, rfl⟩ := List.mem_map.mp hx
    exact ⟨f, effect?_eq_some.mpr ⟨c, List.mem_zipIdx_iff_getElem?.mp hc, hf⟩, rfl, hdue⟩
  · rintro ⟨f, hf, hsnapshot, hdue⟩
    obtain ⟨c, hc, hentry⟩ := effect?_eq_some.mp hf
    refine List.mem_flatMap.mpr ⟨(c, x.owner), List.mem_zipIdx_iff_getElem?.mpr hc, ?_⟩
    refine List.mem_flatMap.mpr ⟨(x.key, f), hentry, List.mem_map.mpr ⟨x.due, hdue, ?_⟩⟩
    dsimp only
    rw [hsnapshot]

/-- Firing divides the schedule into what fires and what is left. -/
theorem scheduled_fireUntil_perm (e : Encounter) (limit : Time) :
    e.scheduled.Perm (e.firings limit ++ (e.fireUntil limit).scheduled) := by
  fun_induction fireUntil e limit with
  | case1 e hnone => rw [firings_of_none hnone, List.nil_append]
  | case2 e p hsome ih =>
    rw [firings_of_some hsome]
    exact (scheduled_fire_perm (nextDue?_mem hsome)).trans (ih.cons _)

/-- The operation leaves the effect alone that the tick belongs to. -/
def SparesTick (e : Encounter) (x : Tick) (op : Op) : Prop :=
  e.Spares ⟨x.owner⟩ x.key.spell x.key.target op

theorem fires_or_stays_perform {op : Op} (h : x ∈ e.scheduled) (hspares : e.SparesTick x op) :
    x ∈ e.firingsOf op ∨ x ∈ (e.perform op).scheduled := by
  rcases op.quiet_or_advances with hquiet | ⟨t, rfl⟩
  · obtain ⟨f, hf, hsnapshot, hdue⟩ := mem_scheduled.mp h
    exact Or.inr (mem_scheduled.mpr
      ⟨f, effect?_perform_of_quiet hf hspares hquiet, hsnapshot, hdue⟩)
  · exact List.mem_append.mp ((e.scheduled_fireUntil_perm _).mem_iff.mp h)

/-- What is scheduled fires, or stays scheduled, or is taken away while it still is. -/
theorem fires_or_stays_run (h : x ∈ e.scheduled) (ops : List Op) :
    x ∈ e.log ops ∨ x ∈ (e.run ops).scheduled ∨
      ∃ before op after, ops = before ++ op :: after ∧ x ∈ (e.run before).scheduled ∧
        ¬ (e.run before).SparesTick x op := by
  induction ops generalizing e with
  | nil => exact Or.inr (Or.inl h)
  | cons op rest ih =>
    by_cases hspares : e.SparesTick x op
    · rcases fires_or_stays_perform h hspares with hfires | hstays
      · exact Or.inl (List.mem_append_left _ hfires)
      · rcases ih hstays with hfires | hstays | ⟨before, op', after, rfl, hstill, htaken⟩
        · exact Or.inl (List.mem_append_right _ hfires)
        · exact Or.inr (Or.inl hstays)
        · exact Or.inr (Or.inr ⟨op :: before, op', after, rfl, hstill, htaken⟩)
    · exact Or.inr (Or.inr ⟨[], op, rest, rfl, h, hspares⟩)

/-- Before the last instant every scheduled tick lies ahead. -/
theorem Reachable.lt_due (h : e.Reachable) (hends : e.settings.duration < Time.never)
    (hx : x ∈ e.scheduled) : e.clock < x.due := by
  obtain ⟨q, hq, _, _, hle⟩ := exists_pending_of_scheduled hx
  obtain ⟨c, s, hc, hf, hs, hdue⟩ := mem_pending hq
  have hahead := h.ticksAhead c (List.mem_of_getElem? hc) q.effect (List.mem_map.mpr ⟨_, hf, rfl⟩)
    s hs
  have hlast := h.clock_lt_never hends
  rcases hahead with hlt | hnever
  · rw [← hdue] at hlt
    exact Nat.lt_of_lt_of_le hlt hle
  · rw [hnever] at hlast
    exact absurd hlast (Nat.lt_irrefl _)

end Scheduled

end Encounter

end ActionPriority
