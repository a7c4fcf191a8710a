import ActionPriority.Damage

/-! # Periodic Effects

    An effect ticks on its target from the moment it is applied until its ticks are used
    up.  Its damage, its critical chance and its period are captured at the application
    and stay fixed until the next one, whatever happens to the caster in between.

    * `Effect.applied` starts an effect, or restarts it.
    * `Effect.tick` uses up the next tick.
    * `Effect.ended` stops it early.

    An effect that no longer ticks keeps its snapshot.
-/

namespace ActionPriority

/-- What an application captures. -/
structure Snapshot where
  /-- The damage of a tick with the modifiers of caster and target, critical hits aside. -/
  tickDamage : Float
  critChance : Float
  period : Time
  deriving DecidableEq

/-- The snapshot of applying an effect now: the period is rounded to whole milliseconds. -/
def Snapshot.take (p : Periodic) (caster target : Stats) : Snapshot where
  tickDamage := Damage.modified p.tickDamage caster target
  critChance := caster.critChance
  period := (Damage.tickPeriod p caster).roundTo Time.granularity

/-- The ticks that an active effect has before it. -/
structure Schedule where
  /-- When it ticks next. -/
  nextTick : Time
  /-- When its last tick is due. -/
  expiresAt : Time
  /-- How many ticks follow the next one. -/
  later : Nat
  deriving DecidableEq

/-- The effect of a spell on one target, as it was last applied. -/
structure Effect where
  snapshot : Snapshot
  /-- The ticks still to come; none once the effect has run out or has been stopped. -/
  schedule : Option Schedule
  deriving DecidableEq

namespace Effect

/-- An effect applied at `now` for `ticks` ticks.  Without ticks, or with no time between
    them, it is not active at all. -/
def applied (now : Time) (ticks : Nat) (snapshot : Snapshot) : Effect where
  snapshot
  schedule :=
    if ticks = 0 ∨ snapshot.period = Time.zero then none
    else some
      { nextTick := now + snapshot.period
        expiresAt := now + snapshot.period.times ticks
        later := ticks - 1 }

/-- The effect after its next tick. -/
def tick (f : Effect) : Effect :=
  { f with
    schedule := f.schedule.bind fun s =>
      match s.later with
      | 0 => none
      | later + 1 => some { s with nextTick := s.nextTick + f.snapshot.period, later } }

/-- The effect stopped. -/
def ended (f : Effect) : Effect := { f with schedule := none }

/-- Is the effect ticking? -/
def isActive (f : Effect) : Bool := f.schedule.isSome

/-- The time left at `now`; none for an effect that is not active. -/
def remaining (f : Effect) (now : Time) : Time :=
  match f.schedule with
  | some s => now.till s.expiresAt
  | none => Time.zero

/-- When the effect ticks next. -/
def nextTick? (f : Effect) : Option Time := f.schedule.map Schedule.nextTick

/-- The average of a tick by the values of the snapshot. -/
def expectedTick (f : Effect) : Float := Damage.expected f.snapshot.tickDamage f.snapshot.critChance

/-- The number of ticks still to come. -/
def ticksLeft (f : Effect) : Nat :=
  match f.schedule with
  | some s => s.later + 1
  | none => 0

/-- A tick uses up one of the ticks still to come. -/
theorem ticksLeft_tick (f : Effect) : f.tick.ticksLeft = f.ticksLeft - 1 := by
  obtain ⟨snapshot, schedule⟩ := f
  match schedule with
  | none => rfl
  | some ⟨_, _, 0⟩ => rfl
  | some ⟨_, _, _ + 1⟩ => rfl

theorem ticksLeft_pos {f : Effect} {s : Schedule} (h : f.schedule = some s) : 0 < f.ticksLeft := by
  simp [ticksLeft, h]

end Effect

end ActionPriority
