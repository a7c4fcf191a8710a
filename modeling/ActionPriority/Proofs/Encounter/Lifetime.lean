import ActionPriority.Proofs.Encounter.OneEffect

/-! # The Lifetime of an Effect

    From its application on an effect runs its course by itself.  Whatever happens in between,
    its ticks come a period apart, each by the snapshot of the application, and it lasts until
    the last of them.  Only two things cut it short: applying it anew, and disabling its target.

    * The invariant is that the effect stands as a new one does after the ticks that are due by
      now (`Application.Stands`).
    * One operation keeps the invariant, and fires just the ticks that come due in it
      (`Stands.perform`).  By induction over the operations this holds of all of them together
      (`Stands.run`).
    * How a new effect stands after its due ticks has a closed form, and so has its whole
      lifetime (`Application.runs_its_course`).
-/

namespace ActionPriority

namespace Encounter

/-! ### The ticks of a run -/

/-- The ticks that fire in an operation.  Only time makes them fire. -/
def firingsOf (e : Encounter) : Op → List Tick
  | .advanceTo t => e.firings (min t e.endTime)
  | _ => []

/-- The ticks that fire in the course of some operations. -/
def log (e : Encounter) : List Op → List Tick
  | [] => []
  | op :: rest => e.firingsOf op ++ log (e.perform op) rest

end Encounter

/-! ### Applications -/

/-- The application of a periodic effect. -/
structure Application where
  caster : CombatantId
  spell : SpellId
  target : CombatantId
  /-- The instant of the application. -/
  start : Time
  ticks : Nat
  snapshot : Snapshot

namespace Application

open Encounter (Op Tick)

/-- What the effect is known by. -/
def key (a : Application) : EffectKey := ⟨a.spell, a.target⟩

/-- The effect as it is applied. -/
def fresh (a : Application) : Effect := .applied a.start a.ticks a.snapshot

/-- How many of its ticks are due by `now`. -/
def dueBy (a : Application) (now : Time) : Nat :=
  Effect.dueBy a.start a.snapshot.period a.ticks now

/-- The instant of its last tick in nanoseconds. -/
def endNano (a : Application) : Nat := a.start.nanos + a.ticks * a.snapshot.period.nanos

/-- The tick that comes after `i` others. -/
def tick (a : Application) (i : Nat) : Tick :=
  ⟨a.caster.index, a.key, a.snapshot, a.start + a.snapshot.period.times (i + 1)⟩

/-- The ticks after `t` and up to `u`. -/
def ticksBetween (a : Application) (t u : Time) : List Tick :=
  (List.range' (a.dueBy t) (a.dueBy u - a.dueBy t)).map a.tick

/-- A cast applies the effect now, with the snapshot of the statistics that caster and target
    have now. -/
structure Begins (a : Application) (e begun : Encounter) : Prop where
  cast : e.cast a.caster a.spell a.target = .ok begun
  now : a.start = e.clock
  captured : ∃ c aimed definition p, e.combatant? a.caster = some c ∧
    e.combatant? a.target = some aimed ∧ c.spell? a.spell = some definition ∧
    definition.periodic = some p ∧ a.ticks = p.ticks ∧
    a.snapshot = Snapshot.take p c.stats aimed.stats

/-- None of some operations applies the effect anew or disables its target. -/
def Undisturbed (a : Application) : Encounter → List Op → Prop
  | _, [] => True
  | e, op :: rest => e.Spares a.caster a.spell a.target op ∧ a.Undisturbed (e.perform op) rest

/-- The effect stands as it does after the ticks that are due by now. -/
structure Stands (a : Application) (e : Encounter) : Prop where
  started : a.start ≤ e.clock
  effect : e.effect? a.caster a.spell a.target =
    some (Effect.tick^[a.dueBy e.clock] a.fresh)

/-! ### Due ticks -/

section DueTicks

variable {a : Application} {t u v : Time}

theorem dueBy_mono (a : Application) (h : t ≤ u) : a.dueBy t ≤ a.dueBy u :=
  Effect.dueBy_mono _ _ _ h

/-- By the later of two instants as many are due as by the one that has more due. -/
theorem dueBy_max (a : Application) (t u : Time) :
    a.dueBy (max t u) = max (a.dueBy t) (a.dueBy u) := by
  rcases Nat.le_total t.nanos u.nanos with hle | hle
  · have hmono : a.dueBy t ≤ a.dueBy u := a.dueBy_mono hle
    have hlater : max t u = u := by
      apply Time.ext
      rw [Time.nanos_max]
      omega
    rw [hlater]
    omega
  · have hmono : a.dueBy u ≤ a.dueBy t := a.dueBy_mono hle
    have hlater : max t u = t := by
      apply Time.ext
      rw [Time.nanos_max]
      omega
    rw [hlater]
    omega

/-- No tick is due yet at the application itself. -/
theorem dueBy_start (a : Application) : a.dueBy a.start = 0 := by
  rw [dueBy, Effect.dueBy, Nat.sub_self, Nat.zero_div, Nat.min_zero]

theorem ticksBetween_self (a : Application) (t : Time) : a.ticksBetween t t = [] := by
  rw [ticksBetween, Nat.sub_self]
  rfl

theorem ticksBetween_start (a : Application) (u : Time) :
    a.ticksBetween a.start u = (List.range (a.dueBy u)).map a.tick := by
  rw [ticksBetween, dueBy_start, Nat.sub_zero, List.range_eq_range']

/-- The ticks of two stretches of time, one after the other, are those of both together. -/
theorem ticksBetween_append (a : Application) (htu : t ≤ u) (huv : u ≤ v) :
    a.ticksBetween t u ++ a.ticksBetween u v = a.ticksBetween t v := by
  have hfirst := a.dueBy_mono htu
  have hsecond := a.dueBy_mono huv
  have hnext : a.dueBy u = a.dueBy t + 1 * (a.dueBy u - a.dueBy t) := by omega
  have hlength : a.dueBy u - a.dueBy t + (a.dueBy v - a.dueBy u) = a.dueBy v - a.dueBy t := by
    omega
  unfold ticksBetween
  rw [← List.map_append, ← hlength, ← List.range'_append, ← hnext]

/-- As long as the last tick can be told, ticks are exactly a period apart. -/
theorem due_tick (hfits : a.endNano < lastNano) {i : Nat} (hi : i < a.ticks) :
    (a.tick i).due.nanos = a.start.nanos + (i + 1) * a.snapshot.period.nanos := by
  have hbound : (i + 1) * a.snapshot.period.nanos ≤ a.ticks * a.snapshot.period.nanos :=
    Nat.mul_le_mul_right _ hi
  unfold endNano at hfits
  rw [tick, Time.nanos_add, Time.nanos_times, Nat.mul_comm a.snapshot.period.nanos]
  omega

end DueTicks

/-! ### The application -/

/-- The cast leaves the effect as it is applied. -/
theorem Begins.stands {a : Application} {e begun : Encounter} (h : a.Begins e begun) :
    a.Stands begun := by
  obtain ⟨c, aimed, definition, p, hc, haimed, hdefinition, hperiodic, hticks, hsnapshot⟩ :=
    h.captured
  have hclock : begun.clock = a.start := (Encounter.cast_clock h.cast).trans h.now.symm
  -- The cast finds the same caster, target and spell that the snapshot was taken of.
  obtain ⟨aimed', c', definition', runes, haimed', hc', hdefinition', _, hland⟩ :=
    Encounter.cast_eq_ok h.cast
  rw [Encounter.find_eq_ok_iff, haimed] at haimed'
  cases haimed'
  rw [Encounter.find_eq_ok_iff, hc] at hc'
  cases hc'
  rw [Encounter.findSpell_eq_ok_iff, hdefinition] at hdefinition'
  cases hdefinition'
  refine ⟨Nat.le_of_eq (congrArg Time.nanos hclock.symm), ?_⟩
  have hid := Combatant.spell?_id hdefinition
  rw [hclock, dueBy_start, hland, Encounter.effect?_land, hc, Option.bind_some, if_pos rfl,
    Encounter.effect?_afterCast, hperiodic]
  dsimp only
  rw [if_pos ⟨hid.symm, rfl⟩, ← hticks, ← hsnapshot, ← h.now]
  rfl

/-! ### Operations keep it standing -/

section Running

variable {a : Application} {e : Encounter}

/-- Time makes the due ticks fire, and moves the effect on by them. -/
theorem Stands.advanceTo (h : a.Stands e) (hperiod : a.snapshot.period ≠ Time.zero)
    (hfits : a.endNano < lastNano) (t : Time) :
    a.Stands (e.advanceTo t) ∧
      (e.firings (min t e.endTime)).filter (Tick.isOf a.caster.index a.key) =
        a.ticksBetween e.clock (e.advanceTo t).clock := by
  -- A limit that the clock has passed already makes nothing due.
  have hdue : a.dueBy (e.advanceTo t).clock =
      max (a.dueBy e.clock) (a.dueBy (min t e.endTime)) := by
    rw [e.clock_advanceTo, dueBy_max]
  constructor
  · refine ⟨Nat.le_trans h.started (e.clock_le_advanceTo t), ?_⟩
    rw [Encounter.effect?_advanceTo h.effect, hdue]
    exact congrArg some (Effect.through_iterate_tick_applied hperiod hfits _ _)
  · have hsnapshot : (Effect.tick^[a.dueBy e.clock] a.fresh).snapshot = a.snapshot :=
      Effect.snapshot_iterate_tick ..
    have hlength : a.dueBy (e.advanceTo t).clock - a.dueBy e.clock =
        a.dueBy (min t e.endTime) - a.dueBy e.clock := by omega
    have hfired := Encounter.firings_filter_isOf h.effect (min t e.endTime)
    rw [hsnapshot, fresh, Effect.due_iterate_tick_applied hperiod hfits, List.map_map] at hfired
    rw [ticksBetween, hlength]
    exact hfired

/-- Where no time passes, nothing happens to the effect. -/
theorem Stands.quiet (h : a.Stands e) {op : Op}
    (hspares : e.Spares a.caster a.spell a.target op) (hquiet : ∀ t, op ≠ .advanceTo t) :
    a.Stands (e.perform op) ∧ (e.perform op).clock = e.clock ∧ e.firingsOf op = [] := by
  have hclock := Encounter.clock_perform_of_quiet (e := e) hquiet
  have heffect := Encounter.effect?_perform_of_quiet h.effect hspares hquiet
  refine ⟨⟨?_, ?_⟩, hclock, ?_⟩
  · rw [hclock]
    exact h.started
  · rw [hclock]
    exact heffect
  · cases op with
    | advanceTo t => exact absurd rfl (hquiet t)
    | _ => rfl

/-- One operation keeps the effect standing, and fires the ticks that come due in it. -/
theorem Stands.perform (h : a.Stands e) (hperiod : a.snapshot.period ≠ Time.zero)
    (hfits : a.endNano < lastNano) {op : Op}
    (hspares : e.Spares a.caster a.spell a.target op) :
    a.Stands (e.perform op) ∧ e.clock ≤ (e.perform op).clock ∧
      (e.firingsOf op).filter (Tick.isOf a.caster.index a.key) =
        a.ticksBetween e.clock (e.perform op).clock := by
  by_cases hquiet : ∀ t, op ≠ .advanceTo t
  · obtain ⟨hstands, hclock, hnone⟩ := h.quiet hspares hquiet
    rw [hclock, hnone, ticksBetween_self]
    exact ⟨hstands, Nat.le_refl _, rfl⟩
  · obtain ⟨t, rfl⟩ : ∃ t, op = .advanceTo t := by simpa using hquiet
    obtain ⟨hstands, hfired⟩ := h.advanceTo hperiod hfits t
    exact ⟨hstands, e.clock_le_advanceTo t, hfired⟩

/-- So do any number of operations that leave it undisturbed. -/
theorem Stands.run {ops : List Op} (h : a.Stands e)
    (hperiod : a.snapshot.period ≠ Time.zero) (hfits : a.endNano < lastNano)
    (hundisturbed : a.Undisturbed e ops) :
    a.Stands (e.run ops) ∧ e.clock ≤ (e.run ops).clock ∧
      (e.log ops).filter (Tick.isOf a.caster.index a.key) =
        a.ticksBetween e.clock (e.run ops).clock := by
  induction ops generalizing e with
  | nil => exact ⟨h, Nat.le_refl _, (a.ticksBetween_self e.clock).symm⟩
  | cons op rest ih =>
    obtain ⟨hspares, hrest⟩ := hundisturbed
    obtain ⟨hstands, hclock, hfired⟩ := h.perform hperiod hfits hspares
    obtain ⟨hstands, hclock', hfired'⟩ := ih hstands hrest
    refine ⟨hstands, Nat.le_trans hclock hclock', ?_⟩
    rw [Encounter.log, List.filter_append, hfired, hfired']
    exact a.ticksBetween_append hclock hclock'

end Running

/-! ### The whole course -/

/-- The course that an effect has run by now, of which the log tells the ticks that have fired
    since its application. -/
structure Course (a : Application) (log : List Tick) (e : Encounter) : Prop where
  /-- The ticks that are due by now have fired, in turn, and no others. -/
  fired : log.filter (Tick.isOf a.caster.index a.key) =
    (List.range (min a.ticks ((e.clock.nanos - a.start.nanos) / a.snapshot.period.nanos))).map
      a.tick
  /-- They come a period apart. -/
  spaced : ∀ i < a.ticks,
    (a.tick i).due.nanos = a.start.nanos + (i + 1) * a.snapshot.period.nanos
  /-- The effect is there, and active up to its last tick. -/
  standing : ∃ f, e.effect? a.caster a.spell a.target = some f ∧ f.snapshot = a.snapshot ∧
    (f.isActive = true ↔ e.clock.nanos < a.endNano) ∧
    (f.remaining e.clock).nanos = a.endNano - e.clock.nanos
  /-- It is the ticks that go into the log that are rolled whenever time passes, each by its
      snapshot. -/
  rolled : ∀ t, ((e.advanceTo t).damage, (e.advanceTo t).dice) =
    (e.firingsOf (.advanceTo t)).foldl Tick.roll (e.damage, e.dice)

/-- An effect that nothing disturbs runs its course from the application on: whatever else is
    done, its due ticks have fired, by the snapshot of the application, and the rest are still
    to come. -/
theorem runs_its_course {a : Application} {e begun : Encounter} (hbegins : a.Begins e begun)
    (hperiod : a.snapshot.period ≠ Time.zero) (hfits : a.endNano < lastNano)
    {ops : List Op} (hundisturbed : a.Undisturbed begun ops) :
    a.start ≤ (begun.run ops).clock ∧ a.Course (begun.log ops) (begun.run ops) := by
  have hclock : begun.clock = a.start := (Encounter.cast_clock hbegins.cast).trans hbegins.now.symm
  obtain ⟨hstands, _, hfired⟩ := hbegins.stands.run hperiod hfits hundisturbed
  obtain ⟨hactive, hremaining⟩ := Effect.standing_applied hperiod hfits hstands.started
  have hsnapshot : (Effect.tick^[a.dueBy (begun.run ops).clock] a.fresh).snapshot = a.snapshot :=
    Effect.snapshot_iterate_tick ..
  -- At the application no tick was due yet, so the log has all that are due by now.
  rw [hclock, ticksBetween_start] at hfired
  refine ⟨hstands.started, ?_⟩
  exact
    { fired := hfired
      spaced := by
        intro i hi
        exact due_tick hfits hi
      standing := ⟨_, hstands.effect, hsnapshot, hactive, hremaining⟩
      rolled := by
        intro t
        exact Encounter.rolls_fireUntil _ _ }

/-- The plague of the duel, cast at the start. -/
def duelPlague : Application where
  caster := ⟨1⟩
  spell := Encounter.plague.id
  target := ⟨0⟩
  start := Time.zero
  ticks := 3
  snapshot := Snapshot.take Encounter.plagueEffect {} {}

/-- Neither haste nor the way in which time passes changes the course of the plague. -/
theorem runs_its_course_plague :
    let ops : List Op := [.advanceTo (Time.ofWholeSeconds 1), .setStats ⟨1⟩ { haste := 2.0 },
      .setEnabled ⟨0⟩ true, .advanceTo (Time.ofWholeSeconds 5)]
    ∃ begun, duelPlague.Begins Encounter.duel begun ∧
      duelPlague.snapshot.period ≠ Time.zero ∧ duelPlague.endNano < lastNano ∧
      duelPlague.Undisturbed begun ops ∧ duelPlague.Course (begun.log ops) (begun.run ops) := by
  intro ops
  have hok : (Encounter.duel.cast ⟨1⟩ Encounter.plague.id ⟨0⟩).isOk = true := by decide
  have hperiod : duelPlague.snapshot.period ≠ Time.zero := by decide
  have hfits : duelPlague.endNano < lastNano := by decide
  cases hcast : Encounter.duel.cast ⟨1⟩ Encounter.plague.id ⟨0⟩ with
  | error cause =>
    rw [hcast] at hok
    cases hok
  | ok begun =>
    have hbegins : duelPlague.Begins Encounter.duel begun :=
      { cast := hcast
        now := rfl
        captured := ⟨_, _, Encounter.plague, Encounter.plagueEffect, rfl, rfl, rfl, rfl, rfl, rfl⟩ }
    have hundisturbed : duelPlague.Undisturbed begun ops := by
      simp [ops, Undisturbed, Encounter.Spares, Encounter.Reapplies, Encounter.Disables]
    obtain ⟨_, hcourse⟩ := runs_its_course hbegins hperiod hfits hundisturbed
    exact ⟨begun, hbegins, hperiod, hfits, hundisturbed, hcourse⟩

end Application

end ActionPriority
