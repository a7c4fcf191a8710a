import ActionPriority.Condition.Node
import ActionPriority.Proofs.Encounter.NextEvent

/-! # Forecasts

    What a condition answers at a later instant can be told from the state now, as long as
    nothing happens in between.  `TimeTerm.forecast` is the rule for terms: the clock reads the
    later instant, what counts down is shorter by the time that passes, and the rest is as it
    is.  `Test.forecast` is the rule for tests: among all questions, only comparisons of times
    are answered by forecasts, and every other answer is the one of now.

    `Test.eval_of_quiet` says that the rules are right up to the next event.
-/

namespace ActionPriority

/-! ### Times -/

namespace TimeTerm

/-- What is left of a length when the clock has moved on to `u`. -/
def countdown (e : Encounter) (u : Time) (length : Time) : Time := (e.clock.till u).till length

/-- What the term reads at `u` if nothing happens until then. -/
def forecast (e : Encounter) (u : Time) : TimeTerm → Time
  | .literal value _ => value
  | .currentTime => u
  | .remainingTime => countdown e u e.remaining
  | .effectRemaining effect => countdown e u (effect.remaining e)
  | .effectPeriod effect => effect.period e
  | .lowestRemaining spread =>
    -- Without a target that is present the term does not count down.
    if (spread.enabledRefs e).isEmpty then Time.never
    else countdown e u (spread.lowestRemaining e)
  | .slotCooldown caster slot => countdown e u ((TimeTerm.slotCooldown caster slot).eval e)
  | .runeCooldown caster type => countdown e u ((TimeTerm.runeCooldown caster type).eval e)
  | .nextRuneCooldown caster type =>
    countdown e u ((TimeTerm.nextRuneCooldown caster type).eval e)
  | .fullRuneCooldown caster base => (TimeTerm.fullRuneCooldown caster base).eval e

/-- Does the term read something else as time goes by? -/
def runs : TimeTerm → Bool
  | .literal _ _ => false
  | .currentTime => true
  | .remainingTime => true
  | .effectRemaining _ => true
  | .effectPeriod _ => false
  | .lowestRemaining _ => true
  | .slotCooldown _ _ => true
  | .runeCooldown _ _ => true
  | .nextRuneCooldown _ _ => true
  | .fullRuneCooldown _ _ => false

theorem forecast_of_not_runs {t : TimeTerm} (h : t.runs = false) (e : Encounter) (u : Time) :
    t.forecast e u = t.eval e := by
  cases t <;> first | rfl | cases h

end TimeTerm

section Quiet

variable {e : Encounter} {u : Time}

/-- The time until an instant counts down. -/
theorem countdown_till (h : e.clock ≤ u) (t : Time) :
    TimeTerm.countdown e u (e.clock.till t) = u.till t := by
  apply Time.ext
  rw [Time.le_def] at h
  simp only [TimeTerm.countdown, Time.nanos_till]
  omega

theorem countdown_zero : TimeTerm.countdown e u Time.zero = Time.zero := by
  apply Time.ext
  simp only [TimeTerm.countdown, Time.nanos_till, Time.nanos_zero]
  omega

theorem countdown_min (a b : Time) :
    TimeTerm.countdown e u (min a b) =
      min (TimeTerm.countdown e u a) (TimeTerm.countdown e u b) := by
  apply Time.ext
  simp only [TimeTerm.countdown, Time.nanos_till, Time.nanos_min]
  omega

/-! ### Effects -/

theorem remaining_countdown (h : e.clock ≤ u) (r : EffectRef) :
    r.remaining { e with clock := u } = TimeTerm.countdown e u (r.remaining e) := by
  show ((r.effect? e).map (·.remaining u)).getD Time.zero =
    TimeTerm.countdown e u (((r.effect? e).map (·.remaining e.clock)).getD Time.zero)
  cases r.effect? e with
  | none => exact countdown_zero.symm
  | some f =>
    simp only [Option.map_some, Option.getD_some, Effect.remaining]
    cases f.schedule with
    | none => exact countdown_zero.symm
    | some s => exact (countdown_till h s.expiresAt).symm

theorem leastRemaining_countdown (h : e.clock ≤ u) (refs : List EffectRef) (best : Time) :
    Spread.leastRemaining { e with clock := u } refs (TimeTerm.countdown e u best) =
      TimeTerm.countdown e u (Spread.leastRemaining e refs best) := by
  induction refs generalizing best with
  | nil => rfl
  | cons r rest ih =>
    -- Whether an effect ticks is not a matter of the clock.
    have hactive : r.isActive { e with clock := u } = r.isActive e := rfl
    simp only [Spread.leastRemaining, hactive]
    split
    · rw [remaining_countdown h, ← countdown_min, ih]
    · exact countdown_zero.symm

theorem leastRemaining_never_countdown (h : e.clock ≤ u) (r : EffectRef)
    (rest : List EffectRef) :
    Spread.leastRemaining { e with clock := u } (r :: rest) Time.never =
      TimeTerm.countdown e u (Spread.leastRemaining e (r :: rest) Time.never) := by
  have hactive : r.isActive { e with clock := u } = r.isActive e := rfl
  have hmin : ∀ t : Time, min Time.never t = t := by
    intro t
    have hlast := t.nanos_le
    apply Time.ext
    rw [Time.nanos_min, Time.nanos_never]
    omega
  -- After the first effect the least is a time that counts down.
  simp only [Spread.leastRemaining, hactive, hmin]
  split
  · rw [remaining_countdown h, leastRemaining_countdown h]
  · exact countdown_zero.symm

theorem lowestRemaining_forecast (h : e.clock ≤ u) (spread : Spread) :
    spread.lowestRemaining { e with clock := u } =
      (TimeTerm.lowestRemaining spread).forecast e u := by
  show Spread.leastRemaining { e with clock := u } (spread.enabledRefs e) Time.never =
    if (spread.enabledRefs e).isEmpty then Time.never
    else TimeTerm.countdown e u (Spread.leastRemaining e (spread.enabledRefs e) Time.never)
  cases spread.enabledRefs e with
  | nil => rfl
  | cons r rest => exact leastRemaining_never_countdown h r rest

/-! ### Runes -/

/-- Two ways of reading a rune bar agree if they do on every bar that there is. -/
theorem readRunes_congr {α : Type} {caster : CombatantId} {neutral : α}
    {read read' : RuneBar → α}
    (h : ∀ c ∈ e.combatants, ∀ bar, c.runes = some bar → read bar = read' bar) :
    e.readRunes caster neutral read = e.readRunes caster neutral read' := by
  unfold Encounter.readRunes
  cases hc : e.combatant? caster with
  | none => rfl
  | some c =>
    cases hbar : c.runes with
    | none => rw [Option.bind_some, hbar]; rfl
    | some bar =>
      simp only [Option.bind_some, hbar, Option.map_some, Option.getD_some]
      exact h c (List.mem_of_getElem? hc) bar hbar

/-- What is read off a bar counts down if it does so on every bar that there is. -/
theorem readRunes_countdown {caster : CombatantId} {read read' : RuneBar → Time}
    (h : ∀ c ∈ e.combatants, ∀ bar, c.runes = some bar →
      read bar = TimeTerm.countdown e u (read' bar)) :
    e.readRunes caster Time.zero read =
      TimeTerm.countdown e u (e.readRunes caster Time.zero read') := by
  unfold Encounter.readRunes
  cases hc : e.combatant? caster with
  | none => exact countdown_zero.symm
  | some c =>
    cases hbar : c.runes with
    | none => rw [Option.bind_some, hbar]; exact countdown_zero.symm
    | some bar =>
      simp only [Option.bind_some, hbar, Option.map_some, Option.getD_some]
      exact h c (List.mem_of_getElem? hc) bar hbar

/-- The time until the next slot of a base comes back counts down, as neither of its two slots
    comes back in between. -/
theorem nextReadyAt_countdown (h : e.QuietUntil u) {c : Combatant} {bar : RuneBar}
    (hc : c ∈ e.combatants) (hbar : c.runes = some bar) (type : RuneType) :
    TimeTerm.untilReady { e with clock := u } (bar.nextReadyAt? type u) =
      TimeTerm.countdown e u (TimeTerm.untilReady e (bar.nextReadyAt? type e.clock)) := by
  cases type with
  | death => exact countdown_zero.symm
  | base rune =>
    have hready : ∀ i : Fin 6, u < (bar.slot i).readyAt ↔ e.clock < (bar.slot i).readyAt := by
      intro i
      have hevent : (bar.slot i).readyAt ≤ u ↔ (bar.slot i).readyAt ≤ e.clock :=
        h.le_iff hc (Encounter.readyAt_mem_eventsOf hbar (Vector.getElem_mem i.isLt))
      simp only [Time.le_def, Time.lt_def] at *
      omega
    -- So the same case applies at both instants.
    simp only [RuneBar.nextReadyAt?, RuneBar.pairReadyAt, hready]
    have hnow : TimeTerm.countdown e u (e.clock.till e.clock) = u.till u := by
      rw [countdown_till h.now_le]
      apply Time.ext
      have hle := h.now_le
      rw [Time.le_def] at hle
      simp only [Time.nanos_till]
      omega
    by_cases hfst : e.clock < (bar.slot rune.slots.1).readyAt <;>
      by_cases hsnd : e.clock < (bar.slot rune.slots.2).readyAt
    · simp only [hfst, hsnd, decide_true]
      exact (countdown_till h.now_le _).symm
    · simp only [hfst, hsnd, decide_true, decide_false]
      exact (countdown_till h.now_le _).symm
    · simp only [hfst, hsnd, decide_true, decide_false]
      exact (countdown_till h.now_le _).symm
    · -- Neither slot is coming back: the next instant is the present one, whichever that is.
      simp only [hfst, hsnd, decide_false]
      exact hnow.symm

/-! ### Terms -/

theorem TimeTerm.eval_of_quiet (h : e.QuietUntil u) (t : TimeTerm) :
    t.eval { e with clock := u } = t.forecast e u := by
  cases t with
  | literal value seconds => rfl
  | currentTime => rfl
  | remainingTime => exact (countdown_till h.now_le e.endTime).symm
  | effectRemaining effect => exact remaining_countdown h.now_le effect
  | effectPeriod effect => rfl
  | lowestRemaining spread => exact lowestRemaining_forecast h.now_le spread
  | slotCooldown caster slot =>
    exact readRunes_countdown fun c _ bar _ => (countdown_till h.now_le _).symm
  | runeCooldown caster type =>
    cases type with
    | base rune => exact readRunes_countdown fun c _ bar _ => (countdown_till h.now_le _).symm
    | death =>
      show e.readRunes caster Time.zero (fun _ => Time.zero) =
        TimeTerm.countdown e u (e.readRunes caster Time.zero fun _ => Time.zero)
      exact readRunes_countdown fun c _ bar _ => countdown_zero.symm
  | nextRuneCooldown caster type =>
    exact readRunes_countdown fun c hc bar hbar => nextReadyAt_countdown h hc hbar type
  | fullRuneCooldown caster base => rfl

theorem IntTerm.eval_of_quiet (h : e.QuietUntil u) (t : IntTerm) :
    t.eval { e with clock := u } = t.eval e := by
  cases t with
  | literal value => rfl
  | targetCount => rfl
  | runeCount caster type =>
    refine readRunes_congr fun c hc bar hbar => ?_
    rw [(h.sameReady hc hbar).ready_eq]
  | naturalRuneCount caster type =>
    refine readRunes_congr fun c hc bar hbar => ?_
    rw [(h.sameReady hc hbar).naturalOf_eq]

theorem FloatTerm.eval_of_quiet (h : e.QuietUntil u) (t : FloatTerm) :
    t.eval { e with clock := u } = t.eval e := by
  cases t with
  | literal value => rfl
  | ofInt term =>
    show Float.ofInt (term.eval { e with clock := u }).toInt = Float.ofInt (term.eval e).toInt
    rw [term.eval_of_quiet h]
  | increase measure effect periodic => rfl

end Quiet

/-! ### Tests -/

namespace Test

mutual

/-- What the test answers at `u` if nothing happens until then. -/
def forecast (e : Encounter) (u : Time) : Test → Bool
  | .literal value => value
  | .all operands => forecastAll e u operands
  | .any operands => forecastAny e u operands
  | .not operand => !forecast e u operand
  | .compareBool op lhs rhs => op.holds (forecast e u lhs) (forecast e u rhs)
  | .compareInt op lhs rhs => op.holds (lhs.eval e) (rhs.eval e)
  | .compareFloat op lhs rhs => op.holds (lhs.eval e) (rhs.eval e)
  | .compareTime op lhs rhs => op.holds (lhs.forecast e u) (rhs.forecast e u)
  | .effectActive effect => effect.isActive e
  | .activeOnAll spread => spread.isActiveOnAll e
  | .slotActive caster slot => e.readRunes caster false (·.isActive slot e.clock)
  | .slotDeath caster slot => e.readRunes caster false (·.isDeath slot)

/-- Is every answer yes then? -/
def forecastAll (e : Encounter) (u : Time) : List Test → Bool
  | [] => true
  | t :: rest => forecast e u t && forecastAll e u rest

/-- Is any answer yes then? -/
def forecastAny (e : Encounter) (u : Time) : List Test → Bool
  | [] => false
  | t :: rest => forecast e u t || forecastAny e u rest

end

mutual

/-- Does the test compare a time that runs? -/
def comparesRunning : Test → Bool
  | .literal _ => false
  | .all operands => anyComparesRunning operands
  | .any operands => anyComparesRunning operands
  | .not operand => comparesRunning operand
  | .compareBool _ lhs rhs => comparesRunning lhs || comparesRunning rhs
  | .compareInt _ _ _ => false
  | .compareFloat _ _ _ => false
  | .compareTime _ lhs rhs => lhs.runs || rhs.runs
  | .effectActive _ => false
  | .activeOnAll _ => false
  | .slotActive _ _ => false
  | .slotDeath _ _ => false

/-- Does any of the tests compare a time that runs? -/
def anyComparesRunning : List Test → Bool
  | [] => false
  | t :: rest => comparesRunning t || anyComparesRunning rest

end

section Quiet

variable {e : Encounter} {u : Time}

mutual

/-- Up to the next event a test answers as its forecast says. -/
theorem eval_of_quiet (h : e.QuietUntil u) :
    ∀ t : Test, t.eval { e with clock := u } = t.forecast e u
  | .literal _ => rfl
  | .all operands => evalAll_of_quiet h operands
  | .any operands => evalAny_of_quiet h operands
  | .not operand => congrArg (!·) (eval_of_quiet h operand)
  | .compareBool op lhs rhs => by
    show op.holds (lhs.eval { e with clock := u }) (rhs.eval { e with clock := u }) = _
    rw [eval_of_quiet h lhs, eval_of_quiet h rhs]
    rfl
  | .compareInt op lhs rhs => by
    show op.holds (lhs.eval { e with clock := u }) (rhs.eval { e with clock := u }) = _
    rw [lhs.eval_of_quiet h, rhs.eval_of_quiet h]
    rfl
  | .compareFloat op lhs rhs => by
    show op.holds (lhs.eval { e with clock := u }) (rhs.eval { e with clock := u }) = _
    rw [lhs.eval_of_quiet h, rhs.eval_of_quiet h]
    rfl
  | .compareTime op lhs rhs => by
    show op.holds (lhs.eval { e with clock := u }) (rhs.eval { e with clock := u }) = _
    rw [lhs.eval_of_quiet h, rhs.eval_of_quiet h]
    rfl
  | .effectActive _ => rfl
  | .activeOnAll _ => rfl
  | .slotActive caster slot => by
    refine readRunes_congr fun c hc bar hbar => ?_
    exact (h.sameReady hc hbar).isActive_eq slot
  | .slotDeath _ _ => rfl

theorem evalAll_of_quiet (h : e.QuietUntil u) :
    ∀ l : List Test, evalAll { e with clock := u } l = forecastAll e u l
  | [] => rfl
  | t :: rest => by
    rw [evalAll, forecastAll, eval_of_quiet h t, evalAll_of_quiet h rest]

theorem evalAny_of_quiet (h : e.QuietUntil u) :
    ∀ l : List Test, evalAny { e with clock := u } l = forecastAny e u l
  | [] => rfl
  | t :: rest => by
    rw [evalAny, forecastAny, eval_of_quiet h t, evalAny_of_quiet h rest]

end

end Quiet

mutual

/-- A test that compares no time that runs answers the same at all times, as long as nothing
    happens. -/
theorem forecast_eq_eval (e : Encounter) (u : Time) :
    ∀ t : Test, t.comparesRunning = false → t.forecast e u = t.eval e
  | .literal _, _ => rfl
  | .all operands, h => forecastAll_eq_evalAll e u operands h
  | .any operands, h => forecastAny_eq_evalAny e u operands h
  | .not operand, h => congrArg (!·) (forecast_eq_eval e u operand h)
  | .compareBool op lhs rhs, h => by
    obtain ⟨hl, hr⟩ := Bool.or_eq_false_iff.mp h
    rw [forecast, eval, forecast_eq_eval e u lhs hl, forecast_eq_eval e u rhs hr]
  | .compareInt _ _ _, _ => rfl
  | .compareFloat _ _ _, _ => rfl
  | .compareTime op lhs rhs, h => by
    obtain ⟨hl, hr⟩ := Bool.or_eq_false_iff.mp h
    rw [forecast, eval, TimeTerm.forecast_of_not_runs hl, TimeTerm.forecast_of_not_runs hr]
  | .effectActive _, _ => rfl
  | .activeOnAll _, _ => rfl
  | .slotActive _ _, _ => rfl
  | .slotDeath _ _, _ => rfl

theorem forecastAll_eq_evalAll (e : Encounter) (u : Time) :
    ∀ l : List Test, anyComparesRunning l = false → forecastAll e u l = evalAll e l
  | [], _ => rfl
  | t :: rest, h => by
    obtain ⟨ht, hrest⟩ := Bool.or_eq_false_iff.mp h
    rw [forecastAll, evalAll, forecast_eq_eval e u t ht, forecastAll_eq_evalAll e u rest hrest]

theorem forecastAny_eq_evalAny (e : Encounter) (u : Time) :
    ∀ l : List Test, anyComparesRunning l = false → forecastAny e u l = evalAny e l
  | [], _ => rfl
  | t :: rest, h => by
    obtain ⟨ht, hrest⟩ := Bool.or_eq_false_iff.mp h
    rw [forecastAny, evalAny, forecast_eq_eval e u t ht, forecastAny_eq_evalAny e u rest hrest]

end

end Test

end ActionPriority
