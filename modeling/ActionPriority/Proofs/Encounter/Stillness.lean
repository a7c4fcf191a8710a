import ActionPriority.Proofs.Condition.Forecast
import ActionPriority.Proofs.Encounter.Activity
import ActionPriority.Proofs.Encounter.Ticks

/-! # Stillness

    What can be asked about an encounter between two events has the same answer all the time:
    whether a spell can be cast on a target, whether a rune slot is ready, how many runes of a
    type there are, and whether an effect is active (`SameAnswers`).

    None of the questions reads the clock but by comparing it with an instant that is an event.
    So nothing is missed by going from one event to the next: advancing to an instant before the
    next event fires nothing, takes nothing from the dice, and leaves the event where it is.
-/

namespace ActionPriority

namespace Encounter

/-- Two states of an encounter give the same answers: who can cast what on whom, and what there
    is of runes and of effects. -/
structure SameAnswers (e after : Encounter) : Prop where
  castable : ∀ caster spell target,
    after.checkCast caster spell target = .ok () ↔ e.checkCast caster spell target = .ok ()
  slotReady : ∀ caster slot,
    after.readRunes caster false (·.isActive slot after.clock) =
      e.readRunes caster false (·.isActive slot e.clock)
  /-- The runes of a type, with the Death runes that can stand in for it. -/
  ready : ∀ caster type,
    after.readRunes caster 0 (·.ready type after.clock) =
      e.readRunes caster 0 (·.ready type e.clock)
  /-- The runes of a type by themselves. -/
  natural : ∀ caster type,
    after.readRunes caster 0 (·.naturalOf type after.clock) =
      e.readRunes caster 0 (·.naturalOf type e.clock)
  running : ∀ caster spell target,
    after.isRunning caster spell target = e.isRunning caster spell target

section Quiet

variable {e : Encounter} {u : Time}

theorem QuietUntil.sameAnswers (h : e.QuietUntil u) : e.SameAnswers { e with clock := u } where
  castable := h.checkCast_iff
  slotReady _ slot := readRunes_congr fun _ hc _ hbar => (h.sameReady hc hbar).isActive_eq slot
  ready _ type := readRunes_congr fun _ hc _ hbar => (h.sameReady hc hbar).ready_eq type
  natural _ type := readRunes_congr fun _ hc _ hbar => (h.sameReady hc hbar).naturalOf_eq type
  running _ _ _ := rfl

/-- Up to the next event advancing moves the clock and nothing else, no tick fires, the next
    event stays where it is, and every answer stays the same.  Before the end the next event lies
    ahead, and not after the end. -/
theorem Reachable.still_until_nextEvent (h : e.Reachable) :
    (∀ u, e.clock ≤ u → u < e.nextEvent →
      e.advanceTo u = { e with clock := u } ∧
        e.firings u = [] ∧
        (e.advanceTo u).nextEvent = e.nextEvent ∧
        e.SameAnswers (e.advanceTo u)) ∧
      (e.isFinished = false → e.clock < e.nextEvent ∧ e.nextEvent ≤ e.endTime) := by
  constructor
  · intro u hnow hnext
    have hquiet : e.QuietUntil u := ⟨hnow, hnext⟩
    have hadvance := hquiet.advanceTo h.ticksAhead
    refine ⟨hadvance, firings_of_none (hquiet.nextDue?_eq_none h.ticksAhead), ?_, ?_⟩
    · rw [hadvance]
      exact hquiet.nextEvent_eq
    · rw [hadvance]
      exact hquiet.sameAnswers
  · intro hrunning
    have hbefore : e.clock < e.endTime := by
      have hno := of_decide_eq_false hrunning
      simp only [Time.le_def, Time.lt_def] at *
      omega
    exact ⟨lt_nextEvent hbefore, e.nextEvent_le_endTime⟩

end Quiet

/-- The plague, cast at once, ticks after two seconds, and the global cooldown is over after one
    and a half.  A second after the cast nothing has changed. -/
theorem still_until_nextEvent_plague :
    let e := (duel.perform (.setRunes ⟨1⟩ (RuneBar.new (Time.ofWholeSeconds 10)))).perform
      (.cast ⟨1⟩ plague.id ⟨0⟩)
    let u := Time.ofWholeSeconds 1
    e.Reachable ∧ e.clock ≤ u ∧ u < e.nextEvent ∧ e.isFinished = false ∧
      e.nextEvent = Time.ofMillis 1500 ∧ e.nextEvent ≤ e.endTime ∧
      e.advanceTo u = { e with clock := u } ∧
      (e.advanceTo u).nextEvent = Time.ofMillis 1500 ∧
      (e.advanceTo u).isRunning ⟨1⟩ plague.id ⟨0⟩ = true ∧
      (e.advanceTo u).readRunes ⟨1⟩ 0 (·.ready (.base .frost) (e.advanceTo u).clock) = 2 ∧
      ¬ (e.advanceTo u).checkCast ⟨1⟩ plague.id ⟨0⟩ = .ok () := by
  intro e u
  have hreachable : e.Reachable := (((Reachable.new {} 1).run _).perform _).perform _
  have hnow : e.clock ≤ u := by decide
  have hevent : e.nextEvent = Time.ofMillis 1500 := by decide +kernel
  have hnext : u < e.nextEvent := by
    rw [hevent]
    decide
  have hrunning : e.isFinished = false := by decide
  obtain ⟨hstill, hahead⟩ := hreachable.still_until_nextEvent
  obtain ⟨hadvance, _, hsame, hanswers⟩ := hstill u hnow hnext
  refine ⟨hreachable, hnow, hnext, hrunning, hevent, (hahead hrunning).2, hadvance,
    hsame.trans hevent, ?_, ?_, ?_⟩
  · rw [hanswers.running]
    decide
  · rw [hanswers.ready]
    decide
  · rw [hanswers.castable]
    decide

end Encounter

end ActionPriority
