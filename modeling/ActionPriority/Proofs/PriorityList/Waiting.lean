import ActionPriority.Proofs.PriorityList.ActionLimit
import ActionPriority.Proofs.PriorityList.InertEntries
import ActionPriority.Proofs.PriorityList.WholeTrials

/-! # Waiting

    An entry that waits keeps the rotation idle for a while.  Events go on in the meantime, and
    the trial stops at each of them, but the list is not looked at before the time has passed.

    * While the rotation is told to wait, a step decides nothing, and jumps to the next event or
      to the end of the wait, whichever comes first (`Trial.Held.step`).
    * So by induction over the steps the trial comes to the end of the wait exactly, or to the end
      of the encounter (`Trial.Held.reaches`).  `Trial.Reaches` is the part of a run up to there.
    * A rotation that is not told to wait looks at the whole list (`Rotation.scans_act`).
-/

namespace ActionPriority

/-! ### A part of a run -/

namespace Trial

/-- Steps lead from one trial to another.  The list has what is decided on the way. -/
inductive Reaches : Trial → List (Time × Decision) → Trial → Prop where
  | here (t : Trial) : Reaches t [] t
  | step {t u : Trial} {log : List (Time × Decision)} : t.encounter.isFinished = false →
      Reaches t.step.2 log u → Reaches t ((t.encounter.clock, t.step.1) :: log) u

theorem isFinished_of_decisions {t : Trial} {x : Time × Decision}
    {rest : List (Time × Decision)} (h : t.decisions = x :: rest) :
    t.encounter.isFinished = false := by
  rw [Bool.eq_false_iff]
  intro hfinished
  rw [decisions_of_finished hfinished] at h
  cases h

/-- No step changes the list. -/
theorem entries_step (t : Trial) : t.step.2.rotation.entries = t.rotation.entries := by
  obtain ⟨outcome, hdecides⟩ := t.rotation.exists_decides t.encounter
  unfold step
  rw [hdecides.act]
  dsimp only
  split <;> cases hdecides <;> rfl

namespace Reaches

variable {t u v : Trial} {log more : List (Time × Decision)}

theorem trans (h : Reaches t log u) (h' : Reaches u more v) : Reaches t (log ++ more) v := by
  induction h with
  | here t => exact h'
  | step hrunning _ ih => exact .step hrunning (ih h')

/-- What is decided on the way is the first part of all that is decided. -/
theorem decisions_eq (h : Reaches t log u) : t.decisions = log ++ u.decisions := by
  induction h with
  | here t => rfl
  | step hrunning _ ih => rw [decisions_of_running hrunning, ih, List.cons_append]

theorem entries_eq (h : Reaches t log u) : u.rotation.entries = t.rotation.entries := by
  induction h with
  | here t => rfl
  | @step t u log _ _ ih => rw [ih, t.entries_step]

theorem endTime_eq (h : Reaches t log u) : u.encounter.endTime = t.encounter.endTime := by
  induction h with
  | here t => rfl
  | @step t u log _ _ ih => rw [ih, t.endTime_step]

/-- Some decisions of a run lead up to the trial that takes those after them. -/
theorem of_decisions (h : t.decisions = log ++ more) : ∃ u, Reaches t log u ∧ u.decisions = more := by
  induction log generalizing t with
  | nil => exact ⟨t, .here t, h⟩
  | cons x log ih =>
    have hrunning := isFinished_of_decisions h
    rw [decisions_of_running hrunning, List.cons_append] at h
    obtain ⟨rfl, hrest⟩ := List.cons.inj h
    obtain ⟨u, hreaches, hmore⟩ := ih hrest
    exact ⟨u, .step hrunning hreaches, hmore⟩

end Reaches

/-! ### Idle until then -/

/-- The rotation is told to wait for an instant that has not passed, and nor has the encounter
    gone beyond its end. -/
structure Held (t : Trial) (wake : Time) : Prop where
  waitUntil : t.rotation.waitUntil = some wake
  le_wake : t.encounter.clock ≤ wake
  le_endTime : t.encounter.clock ≤ t.encounter.endTime

/-- A jump of the clock does not go beyond the wait, nor beyond the end. -/
theorem held_jump {r : Rotation} {e : Encounter} {wake : Time} (hwake : r.waitUntil = some wake)
    (hlt : e.clock < wake) (hend : e.clock ≤ e.endTime) :
    Held { rotation := r, encounter := e.advanceTo (r.nextDecision e) } wake := by
  have hnext : r.nextDecision e = min e.nextEvent wake := by
    rw [Rotation.nextDecision, hwake]
    exact if_pos hlt
  refine ⟨hwake, ?_, ?_⟩
  · rw [Encounter.clock_advanceTo, hnext]
    simp only [Time.le_def, Time.lt_def, Time.nanos_max, Time.nanos_min] at *
    omega
  · rw [Encounter.endTime_advanceTo, Encounter.clock_advanceTo]
    simp only [Time.le_def, Time.nanos_max, Time.nanos_min] at *
    omega

variable {t : Trial} {wake : Time}

/-- Before the end of the wait nothing is decided, and the next step comes no later than that. -/
theorem Held.step (h : t.Held wake) (hlt : t.encounter.clock < wake) :
    t.step.1 = .nothingReady ∧ t.step.2.Held wake := by
  have hact := (Rotation.Decides.waits h.waitUntil hlt).act
  have hstep := t.stepsTo_step
  generalize t.step = stepped at hstep ⊢
  obtain ⟨decision, next⟩ := stepped
  cases hstep with
  | acts hact' _ => cases hact.symm.trans hact'
  | jumps hact' _ =>
    cases hact.symm.trans hact'
    exact ⟨rfl, held_jump h.waitUntil hlt h.le_endTime⟩

/-- The trial idles until the wait is over, or the encounter is. -/
theorem Held.reaches (h : t.Held wake) :
    ∃ idle u, Reaches t idle u ∧ (∀ x ∈ idle, x.2 = .nothingReady ∧ x.1 < wake) ∧ u.Held wake ∧
      u.encounter.clock = min wake t.encounter.endTime := by
  have hwake := h.le_wake
  have hend := h.le_endTime
  have hnone : ∀ x ∈ ([] : List (Time × Decision)), x.2 = .nothingReady ∧ x.1 < wake := by
    intro x hx
    cases hx
  fun_induction decisions t with
  | case1 t hfinished =>
    refine ⟨[], t, .here t, hnone, h, ?_⟩
    have hover : t.encounter.endTime ≤ t.encounter.clock := of_decide_eq_true hfinished
    apply Time.ext
    simp only [Time.le_def, Time.nanos_min] at *
    omega
  | case2 t hrunning ih =>
    by_cases hlt : t.encounter.clock < wake
    · -- One more stop on the way.
      obtain ⟨hnothing, hheld⟩ := h.step hlt
      obtain ⟨idle, u, hreaches, hidle, hheld', hclock⟩ := ih hheld hheld.le_wake hheld.le_endTime
      rw [t.endTime_step] at hclock
      refine ⟨_, u, .step (Bool.not_eq_true _ ▸ hrunning) hreaches, ?_, hheld', hclock⟩
      intro x hx
      rcases List.mem_cons.mp hx with rfl | hx
      · exact ⟨hnothing, hlt⟩
      · exact hidle x hx
    · refine ⟨[], t, .here t, hnone, h, ?_⟩
      apply Time.ext
      simp only [Time.le_def, Time.lt_def, Time.nanos_min] at *
      omega

end Trial

/-! ### Carrying out a wait -/

/-- A decision point at which a wait is carried out leaves the encounter alone. -/
theorem Rotation.act_of_waits {r after : Rotation} {e e' : Encounter} {i : Nat} {x : Entry}
    {length : Time} (hact : r.act e = (.executed i, after, e'))
    (hentry : r.entries[i]? = some (some x)) (hwait : x.action = .wait length) :
    after.waitUntil = some (e.clock + length) ∧ e' = e := by
  obtain ⟨outcome, hdecides⟩ := r.exists_decides e
  have houtcome := hdecides.act.symm.trans hact
  cases hdecides with
  | waits => cases houtcome
  | rests => cases houtcome
  | @acts j y after' wake hpast hleads hdoes =>
    cases houtcome
    -- The entry carried out is the one at this place.
    cases hentry.symm.trans hleads.entry
    rw [hwait] at hdoes
    cases hdoes
    exact ⟨rfl, rfl⟩

/-- Carrying out a wait that takes time holds the trial, also if the clock is moved on right
    then. -/
theorem Trial.held_of_waits {t : Trial} {i : Nat} {x : Entry} {length : Time}
    (hrunning : t.encounter.isFinished = false) (hexecuted : t.step.1 = .executed i)
    (hentry : t.rotation.entries[i]? = some (some x)) (hwait : x.action = .wait length)
    (hlength : length ≠ Time.zero) : t.step.2.Held (t.encounter.clock + length) := by
  have hbefore : t.encounter.clock < t.encounter.endTime :=
    Nat.lt_of_not_le (of_decide_eq_false hrunning)
  have hlt : t.encounter.clock < t.encounter.clock + length := by
    have hpos := Time.nanos_pos hlength
    have hlast := t.encounter.endTime.nanos_le
    simp only [Time.lt_def, Time.nanos_add] at *
    omega
  have hend := Nat.le_of_lt hbefore
  have hstep := t.stepsTo_step
  generalize t.step = stepped at hstep hexecuted ⊢
  obtain ⟨decision, next⟩ := stepped
  cases hexecuted
  cases hstep with
  | acts hact _ =>
    obtain ⟨hwake, rfl⟩ := Rotation.act_of_waits hact hentry hwait
    exact ⟨hwake, Nat.le_of_lt hlt, hend⟩
  | jumps hact _ =>
    obtain ⟨hwake, rfl⟩ := Rotation.act_of_waits hact hentry hwait
    exact held_jump hwake hlt hend

/-- What compiles to a wait takes time. -/
theorem Scope.ne_zero_of_compileAction {s : Scope} {a : ActionSpec} {length : Time}
    (h : (s.compileAction a).result = some (.wait length)) : length ≠ Time.zero := by
  cases a with
  | cast id target =>
    simp only [compileAction, Checked.result_bind, Checked.result_pure,
      Option.bind_eq_some_iff] at h
    obtain ⟨_, _, _, _, hcast⟩ := h
    cases hcast
  | wait seconds =>
    simp only [compileAction] at h
    split at h
    · split at h
      · cases h
      · next hpos =>
        cases h
        exact hpos
    · cases h

theorem Rotation.Compiles.ne_zero {r : Rotation} {s : Scope} {list : PriorityList}
    (h : r.Compiles s list) {i : Nat} {x : Entry} {length : Time}
    (hentry : r.entries[i]? = some (some x)) (hwait : x.action = .wait length) :
    length ≠ Time.zero := by
  rw [h, List.getElem?_map] at hentry
  obtain ⟨spec, _, hcompiled⟩ := Option.map_eq_some_iff.mp hentry
  rw [s.result_compileEntry] at hcompiled
  split at hcompiled
  · cases hcompiled
  · obtain ⟨condition, _, hcompiled⟩ := Option.bind_eq_some_iff.mp hcompiled
    obtain ⟨action, haction, rfl⟩ := Option.map_eq_some_iff.mp hcompiled
    rw [show action = .wait length from hwait] at haction
    exact Scope.ne_zero_of_compileAction haction

/-! ### Looking at the whole list -/

/-- The decision is what the whole list asks for. -/
structure Rotation.Scans (r : Rotation) (e : Encounter) (decision : Decision) : Prop where
  executed : ∀ i, decision = .executed i ↔ ∃ x, r.Leads e i x
  nothing : decision = .nothingReady ↔ ∀ x, some x ∈ r.entries → x.shouldAct e = false

theorem Rotation.scans_act {r : Rotation} {e : Encounter} (h : r.isWaiting e = false) :
    r.Scans e (r.act e).1 := by
  have hpast := isWaiting_eq_false_iff.mp h
  cases hfirst : r.firstReady e with
  | none =>
    have hnone := firstReady_eq_none_iff.mp hfirst
    rw [(Decides.rests hpast hnone).act]
    refine ⟨fun i => iff_of_false (fun hne => Decision.noConfusion hne) ?_, iff_of_true rfl hnone⟩
    rintro ⟨x, hleads⟩
    cases hfirst.symm.trans (firstReady_eq_some_iff.mpr hleads)
  | some found =>
    obtain ⟨j, y⟩ := found
    have hleads := firstReady_eq_some_iff.mp hfirst
    obtain ⟨after, wake, hdoes⟩ := hleads.exists_does
    rw [(Decides.acts hpast hleads hdoes).act]
    constructor
    · intro i
      constructor
      · intro hsame
        cases hsame
        exact ⟨y, hleads⟩
      · rintro ⟨x, hleads'⟩
        cases hfirst.symm.trans (firstReady_eq_some_iff.mpr hleads')
        rfl
    · refine iff_of_false (fun hne => Decision.noConfusion hne) fun hnone => ?_
      have hno := hnone y (List.mem_of_getElem? hleads.entry)
      exact Bool.false_ne_true (hno.symm.trans hleads.shouldAct)

/-! ### Waits -/

namespace Trial

/-- Where the decisions lead up to one, the trial that takes it goes on with those after it. -/
theorem exists_reaches_of_decisions {t : Trial} {before after : List (Time × Decision)}
    {now : Time} {decision : Decision} (h : t.decisions = before ++ (now, decision) :: after) :
    ∃ u, Reaches t before u ∧ u.encounter.isFinished = false ∧ u.encounter.clock = now ∧
      u.step.1 = decision ∧ u.step.2.decisions = after := by
  obtain ⟨u, hreaches, hdecisions⟩ := Reaches.of_decisions h
  have hrunning := isFinished_of_decisions hdecisions
  rw [decisions_of_running hrunning] at hdecisions
  obtain ⟨hfirst, hrest⟩ := List.cons.inj hdecisions
  exact ⟨u, hreaches, hrunning, congrArg Prod.fst hfirst, congrArg Prod.snd hfirst, hrest⟩

/-- Nothing is left to be decided before an instant that the trial has reached, unless it has
    reached the end of the encounter before. -/
theorem not_lt_of_mem_decisions {t : Trial} {wake : Time} {x : Time × Decision}
    (hclock : t.encounter.clock = min wake t.encounter.endTime) (hx : x ∈ t.decisions) :
    ¬ x.1 < wake := by
  intro hlt
  have hge := clock_le_of_mem_decisions hx
  obtain ⟨ops, hrounds⟩ := t.rounds_run
  have hbefore := hrounds.lt_endTime x hx
  rw [hclock] at hge
  simp only [Time.le_def, Time.lt_def, Time.nanos_min] at *
  omega

/-- At the end of the wait the whole list is looked at. -/
theorem Held.scans {t : Trial} {wake : Time} (h : t.Held wake) (hclock : t.encounter.clock = wake) :
    t.rotation.Scans t.encounter t.step.1 := by
  have hawake : t.rotation.isWaiting t.encounter = false := by
    rw [Rotation.isWaiting_eq_false_iff]
    intro wake' hwaits
    cases h.waitUntil.symm.trans hwaits
    exact Nat.le_of_eq (congrArg Time.nanos hclock.symm)
  rw [t.step_decision]
  exact Rotation.scans_act hawake

/-- A trial of a compiled list that carries out a wait does nothing until the wait is over.  If
    that is before the end of the encounter, it stops right at that instant, and decides there
    what the whole list asks for. -/
theorem wait_holds {t : Trial} {s : Scope} {list : PriorityList}
    (hlist : t.rotation.Compiles s list) {before after : List (Time × Decision)}
    {now length : Time} {i : Nat} {x : Entry}
    (hlog : t.decisions = before ++ (now, .executed i) :: after)
    (hentry : t.rotation.entries[i]? = some (some x)) (hwait : x.action = .wait length) :
    (∀ y ∈ after, y.1 < now + length → y.2 = .nothingReady) ∧
      (now + length < t.encounter.endTime →
        ∃ idle u, Reaches t (before ++ (now, .executed i) :: idle) u ∧
          after = idle ++ (now + length, u.step.1) :: u.step.2.decisions ∧
          (∀ y ∈ idle, y.1 < now + length) ∧
          u.encounter.clock = now + length ∧
          u.rotation.entries = t.rotation.entries ∧
          u.rotation.Scans u.encounter u.step.1) := by
  obtain ⟨u, hreaches, hrunning, rfl, hexecuted, rfl⟩ := exists_reaches_of_decisions hlog
  have hentry' : u.rotation.entries[i]? = some (some x) := by
    rw [hreaches.entries_eq]
    exact hentry
  have hheld := held_of_waits hrunning hexecuted hentry' hwait (hlist.ne_zero hentry hwait)
  obtain ⟨idle, v, hidles, hidle, hheld', hclock⟩ := hheld.reaches
  have hlog' : u.step.2.decisions = idle ++ v.decisions := hidles.decisions_eq
  have hend : v.encounter.endTime = t.encounter.endTime := by
    rw [hidles.endTime_eq, u.endTime_step, hreaches.endTime_eq]
  rw [← hidles.endTime_eq] at hclock
  constructor
  · intro y hy hlt
    rw [hlog'] at hy
    rcases List.mem_append.mp hy with hy | hy
    · exact (hidle y hy).1
    · exact absurd hlt (not_lt_of_mem_decisions hclock hy)
  · intro hlt
    rw [hend] at hclock
    have hwake : v.encounter.clock = u.encounter.clock + length := by
      rw [hclock]
      apply Time.ext
      rw [Time.lt_def] at hlt
      rw [Time.nanos_min]
      omega
    have hrunning' : v.encounter.isFinished = false := by
      rw [Encounter.isFinished, decide_eq_false_iff_not, hend, hwake]
      exact Nat.not_le_of_lt hlt
    refine ⟨idle, v, ?_, ?_, fun y hy => (hidle y hy).2, hwake, ?_, hheld'.scans hwake⟩
    · have hon := hreaches.trans (.step hrunning hidles)
      rw [hexecuted] at hon
      exact hon
    · rw [hlog', decisions_of_running hrunning', hwake]
    · rw [hidles.entries_eq, u.entries_step, hreaches.entries_eq]

/-- A list of which the second entry waits for three seconds. -/
def plagueAndWait : PriorityList where
  entries := [
    { action := .cast Encounter.plague.id .currentTarget },
    { action := .wait 3.0 }]

/-- A trial of the duel with that list. -/
def plagueAndWaitTrial : Trial where
  rotation :=
    { caster := ⟨1⟩
      entries := plagueAndWait.entries.map fun spec =>
        ((Scope.of Encounter.duel ⟨1⟩ .standard).compileEntry spec).result }
  encounter := Encounter.duel

/-- The knight casts the plague at once and waits.  The global cooldown ends in the meantime, and
    the plague ticks, but the knight looks at its list again after three seconds. -/
theorem wait_holds_plague :
    let t := plagueAndWaitTrial
    let wake := Time.ofWholeSeconds 3
    t.rotation.Compiles (.of Encounter.duel ⟨1⟩ .standard) plagueAndWait ∧
      ∃ after x, t.decisions = [(Time.zero, .executed 0)] ++ (Time.zero, .executed 1) :: after ∧
        t.rotation.entries[1]? = some (some x) ∧ x.action = .wait wake ∧
        (∀ y ∈ after, y.1 < wake → y.2 = .nothingReady) ∧
        ∃ idle u, Reaches t ([(Time.zero, .executed 0)] ++ (Time.zero, .executed 1) :: idle) u ∧
          u.encounter.clock = wake ∧ u.rotation.Scans u.encounter u.step.1 := by
  intro t wake
  have hlist : t.rotation.Compiles (.of Encounter.duel ⟨1⟩ .standard) plagueAndWait := rfl
  have hseconds : Time.ofSeconds 3.0 = .ok wake := by decide +kernel
  have hentry : t.rotation.entries[1]? = some (some ⟨none, none, .wait wake⟩) := by
    show some ((Scope.of Encounter.duel ⟨1⟩ .standard).compileEntry
      { action := .wait 3.0 }).result = _
    simp only [Scope.compileEntry, Scope.compileAction, hseconds]
    rfl
  have hfirst : t.encounter.isFinished = false ∧ t.step.1 = .executed 0 := by decide +kernel
  have hsecond : t.step.2.encounter.isFinished = false ∧ t.step.2.encounter.clock = Time.zero ∧
      t.step.2.step.1 = .executed 1 := by decide +kernel
  have hlog : t.decisions = [(Time.zero, .executed 0)] ++
      (Time.zero, .executed 1) :: t.step.2.step.2.decisions := by
    rw [decisions_of_running hfirst.1, decisions_of_running hsecond.1, hfirst.2, hsecond.2.1,
      hsecond.2.2]
    rfl
  have hwake : Time.zero + wake = wake := by decide
  have hbefore : wake < t.encounter.endTime := by decide
  obtain ⟨hidle, hwakes⟩ := wait_holds hlist hlog hentry rfl
  rw [hwake] at hidle hwakes
  obtain ⟨idle, u, hreaches, _, _, hclock, _, hscans⟩ := hwakes hbefore
  exact ⟨hlist, _, _, hlog, hentry, rfl, hidle, idle, u, hreaches, hclock, hscans⟩

end Trial

end ActionPriority
