import ActionPriority.Proofs.Encounter.Advancing
import ActionPriority.Proofs.Encounter.Casting
import ActionPriority.Proofs.Lists
import ActionPriority.Proofs.Runes.Payments
import ActionPriority.Scenario.Basic

/-! # Reachable Encounters

    All that can be done to an encounter is an operation (`Encounter.Op`), and the reachable
    encounters are those to which operations lead from a new one.  Setting up a scenario is
    among them (`reachable_of_build`).

    The invariant of this module is that no tick is overdue: in every reachable encounter the
    next tick of each effect lies ahead of the clock (`Reachable.ticksAhead`).  Only two
    operations need an argument.  A cast starts effects whose first tick is a period away, and
    advancing goes on firing until nothing is due any more.
-/

namespace ActionPriority

namespace Encounter

/-! ### Operations -/

/-- What can be done to an encounter from outside. -/
inductive Op where
  | addPlayer (label : String) (stats : Stats)
  | addTarget (label : String) (stats : Stats)
  | setEnabled (id : CombatantId) (enabled : Bool)
  | setAim (id : CombatantId) (aim : Option CombatantId)
  | setStats (id : CombatantId) (stats : Stats)
  | learn (id : CombatantId) (spell : Spell)
  /-- Gives a combatant a rune bar, or takes it away. -/
  | setRunes (id : CombatantId) (runes : Option RuneBar)
  | moveRunes (id : CombatantId) (m : RuneBar.Move)
  | cast (caster : CombatantId) (spell : SpellId) (target : CombatantId)
  | advanceTo (t : Time)

/-- The encounter after an operation.  One that is refused changes nothing. -/
def perform (e : Encounter) : Op → Encounter
  | .addPlayer label stats => e.addPlayer label stats
  | .addTarget label stats => (e.addTarget label stats).toOption.getD e
  | .setEnabled id enabled => (e.setEnabled? id enabled).getD e
  | .setAim id aim => (e.setAim? id aim).getD e
  | .setStats id stats => e.modify id fun c => { c with stats }
  | .learn id spell => e.modify id fun c => c.learn spell
  | .setRunes id runes => e.modify id fun c => { c with runes }
  | .moveRunes id m => e.modify id fun c => { c with runes := c.runes.map (·.move m) }
  | .cast caster spell target => (e.cast caster spell target).toOption.getD e
  | .advanceTo t => e.advanceTo t

/-- The encounter after some operations. -/
def run (e : Encounter) (ops : List Op) : Encounter := ops.foldl perform e

/-- The encounters to which operations lead. -/
inductive Reachable : Encounter → Prop where
  | new (settings : Settings) (seed : UInt64) : Reachable (Encounter.new settings seed)
  | perform {e : Encounter} (op : Op) : Reachable e → Reachable (e.perform op)

/-! ### Scenarios are reachable -/

theorem Reachable.addTargets {e after : Encounter} {targets : List TargetSpec} (h : Reachable e)
    (hadd : Scenario.addTargets e targets = .ok after) : Reachable after := by
  induction targets generalizing e with
  | nil =>
    cases hadd
    exact h
  | cons t rest ih =>
    rw [Scenario.addTargets] at hadd
    cases hone : e.addTarget t.label t.stats with
    | error full =>
      rw [hone] at hadd
      cases hadd
    | ok e' =>
      rw [hone] at hadd
      have hstep := h.perform (.addTarget t.label t.stats)
      rw [Encounter.perform, hone] at hstep
      exact ih hstep hadd

theorem modify_modify (e : Encounter) (id : CombatantId) (f g : Combatant → Combatant) :
    (e.modify id f).modify id g = e.modify id fun c => g (f c) := by
  simp only [modify, List.modify_modify_eq]
  rfl

/-- Learning one spell after another is one change. -/
theorem Reachable.learnAll {e : Encounter} (spells : List Spell) (id : CombatantId)
    (f : Combatant → Combatant) (h : Reachable (e.modify id f)) :
    Reachable (e.modify id fun c => spells.foldl Combatant.learn (f c)) := by
  induction spells generalizing f with
  | nil => exact h
  | cons spell rest ih =>
    have hstep := h.perform (.learn id spell)
    rw [Encounter.perform, modify_modify] at hstep
    exact ih _ hstep

end Encounter

/-- What is set up for a scenario: the targets join, then the player, who is given a rune bar and
    learns the spells. -/
theorem Scenario.build_eq_ok {s : Scenario} {settings : Settings} {seed : UInt64} {e : Encounter}
    {player : CombatantId} (h : s.build settings seed = .ok (e, player)) :
    ∃ (joined : Encounter) (runes : Option RuneBar) (spells : List Spell),
      addTargets (Encounter.new settings seed) s.targets = .ok joined ∧
        player = joined.nextId ∧
        e = (joined.addPlayer s.player.label s.player.stats).modify player
          (fun c => spells.foldl Combatant.learn { c with runes }) ∧
        s.player.runes.mapM (·.toBar settings.runeCooldown) = .ok runes ∧
        s.player.spells.mapM SpellSpec.toSpell = .ok spells := by
  obtain ⟨joined, htargets, h⟩ := exists_of_bind_eq_ok h
  obtain ⟨runes, hrunes, h⟩ := exists_of_bind_eq_ok h
  obtain ⟨spells, hspells, h⟩ := exists_of_bind_eq_ok h
  cases h
  exact ⟨joined, runes, spells, htargets, rfl, rfl, hrunes, hspells⟩

/-- What a scenario sets up is reachable. -/
theorem Encounter.reachable_of_build {s : Scenario} {settings : Settings} {seed : UInt64}
    {e : Encounter} {player : CombatantId} (h : s.build settings seed = .ok (e, player)) :
    e.Reachable := by
  obtain ⟨joined, runes, spells, htargets, rfl, rfl, _⟩ := Scenario.build_eq_ok h
  -- The rune bar and the spells come one by one.
  have hplayer := ((Reachable.new settings seed).addTargets htargets).perform
    (.addPlayer s.player.label s.player.stats)
  exact (hplayer.perform (.setRunes joined.nextId runes)).learnAll spells joined.nextId _

/-! ### No tick is overdue -/

/-- The next tick of the effect lies after `now`.  At the last instant nothing does. -/
def Effect.TicksAfter (now : Time) (f : Effect) : Prop :=
  ∀ s ∈ f.schedule, now < s.nextTick ∨ now = Time.never

/-- Every effect of the combatant ticks next after `now`. -/
def Combatant.TicksAfter (now : Time) (c : Combatant) : Prop :=
  ∀ f ∈ c.effects.values, f.TicksAfter now

/-- A new effect ticks a period from now. -/
theorem Effect.ticksAfter_applied (now : Time) (ticks : Nat) (snapshot : Snapshot) :
    (Effect.applied now ticks snapshot).TicksAfter now := by
  intro s hs
  unfold applied at hs
  split at hs
  · cases hs
  · next hactive =>
    cases hs
    obtain ⟨_, hperiod⟩ := not_or.mp hactive
    have hpos : snapshot.period.nanos ≠ 0 := fun h0 => hperiod (Time.ext h0)
    have hlast := now.nanos_le
    by_cases hnever : now = Time.never
    · -- Sums stop at the last instant, so the first tick is not ahead of it.
      exact Or.inr hnever
    · left
      have hne : now.nanos ≠ lastNano := fun he => hnever (Time.ext he)
      show now.nanos < min (now.nanos + snapshot.period.nanos) lastNano
      omega

theorem Effect.ticksAfter_ended (now : Time) (f : Effect) : f.ended.TicksAfter now := by
  intro s hs
  cases hs

/-- Effects that are only stopped, or left alone, still tick ahead. -/
theorem Combatant.TicksAfter.endEffectsOn {c : Combatant} {now : Time} (h : c.TicksAfter now)
    (id : CombatantId) : (c.endEffectsOn id).TicksAfter now := by
  intro f hf
  obtain ⟨⟨key, g⟩, hx, rfl⟩ := List.mem_map.mp hf
  obtain ⟨⟨key', g'⟩, hx', he⟩ := List.mem_map.mp hx
  cases he
  dsimp only
  split
  · exact g'.ticksAfter_ended now
  · exact h g' (List.mem_map.mpr ⟨_, hx', rfl⟩)

namespace Encounter

/-- No tick of any effect is overdue. -/
def TicksAhead (e : Encounter) : Prop := ∀ c ∈ e.combatants, c.TicksAfter e.clock

/-- Changing a combatant keeps what holds of everyone, if the change does. -/
theorem forall_mem_modify {P : Combatant → Prop} {e : Encounter} {id : CombatantId}
    {f : Combatant → Combatant} (h : ∀ c ∈ e.combatants, P c) (hf : ∀ c, P c → P (f c)) :
    ∀ c ∈ (e.modify id f).combatants, P c := by
  intro c hc
  obtain ⟨i, hi⟩ := List.mem_iff_getElem?.mp hc
  rw [modify, List.getElem?_modify] at hi
  obtain ⟨c₀, hc₀, rfl⟩ := Option.map_eq_some_iff.mp hi
  have hmem : c₀ ∈ e.combatants := List.mem_of_getElem? hc₀
  split
  · exact hf c₀ (h c₀ hmem)
  · exact h c₀ hmem

/-! ### Casting starts ticks in the future -/

theorem ticksAfter_afterCast {e : Encounter} {c : Combatant} (h : c.TicksAfter e.clock)
    (definition : Spell) (runes : Option RuneBar) (target : CombatantId) (targetStats : Stats) :
    (e.afterCast c definition runes target targetStats).TicksAfter e.clock := by
  intro f hf
  unfold afterCast at hf
  cases hperiodic : definition.periodic with
  | none =>
    simp only [hperiodic] at hf
    exact h f hf
  | some p =>
    simp only [hperiodic] at hf
    -- The only new entry is the effect that the cast has applied.
    obtain ⟨⟨key, g⟩, hx, rfl⟩ := List.mem_map.mp hf
    rcases Table.mem_insertEntry hx with he | hx
    · cases he
      exact Effect.ticksAfter_applied _ _ _
    · exact h g (List.mem_map.mpr ⟨_, hx, rfl⟩)

theorem TicksAhead.cast {e after : Encounter} {caster target : CombatantId} {spell : SpellId}
    (h : e.TicksAhead) (hcast : e.cast caster spell target = .ok after) : after.TicksAhead := by
  have hclock := cast_clock hcast
  obtain ⟨aimed, c, definition, runes, _, _, _, _, rfl⟩ := cast_eq_ok hcast
  unfold TicksAhead
  rw [hclock, land_combatants]
  exact forall_mem_modify h fun c hc => ticksAfter_afterCast hc definition runes target _

/-! ### Advancing leaves nothing overdue -/

theorem TicksAhead.advanceTo {e : Encounter} (h : e.TicksAhead) (t : Time) :
    (e.advanceTo t).TicksAhead := by
  have hclock := e.clock_advanceTo t
  by_cases hlimit : min t e.endTime < e.clock
  · by_cases hnever : e.clock = Time.never
    · -- The clock stands at the last instant, and nothing can be ahead of it.
      intro c hc f hf s hs
      right
      have hlast := (min t e.endTime).nanos_le
      rw [hclock, hnever]
      apply Time.ext
      rw [Time.nanos_max, Time.nanos_never]
      omega
    · -- The clock has passed the limit before, so nothing is due.
      have hnone : e.nextDue? (min t e.endTime) = none := by
        rw [nextDue?_eq_none]
        intro c hc f hf s hs
        have hnext := (h c hc f hf s hs).resolve_right hnever
        simp only [Time.lt_def] at *
        omega
      have hsame : max e.clock (min t e.endTime) = e.clock := by
        apply Time.ext
        rw [Time.lt_def] at hlimit
        rw [Time.nanos_max]
        omega
      rw [advanceTo_of_nextDue? hnone, hsame]
      exact h
  · -- The clock stops at the limit, and whatever was due by then has fired.
    intro c hc f hf s hs
    left
    have hnext := nextDue?_eq_none.mp (e.nextDue?_fireUntil (min t e.endTime)) c hc f hf s hs
    rw [hclock]
    simp only [Time.lt_def, Time.nanos_max] at *
    omega

/-! ### Every operation keeps ticks ahead -/

theorem TicksAhead.modify {e : Encounter} {f : Combatant → Combatant} (h : e.TicksAhead)
    (id : CombatantId) (hf : ∀ c, (f c).effects = c.effects) : (e.modify id f).TicksAhead :=
  forall_mem_modify h fun c hc g hg => hc g (by rwa [hf c] at hg)

theorem TicksAhead.addPlayer {e : Encounter} (h : e.TicksAhead) (label : String)
    (stats : Stats) : (e.addPlayer label stats).TicksAhead := by
  intro c hc f hf
  rcases List.mem_append.mp hc with hc | hc
  · exact h c hc f hf
  · -- Whoever joins has no effects yet.
    cases List.mem_singleton.mp hc
    cases hf

theorem TicksAhead.addTarget {e after : Encounter} {label : String} {stats : Stats}
    (h : e.TicksAhead) (hadd : e.addTarget label stats = .ok after) : after.TicksAhead := by
  unfold Encounter.addTarget at hadd
  split at hadd
  · cases hadd
    intro c hc f hf
    obtain ⟨c₀, hc₀, rfl⟩ := List.mem_map.mp hc
    have heffects : (takeAim e.nextId c₀).effects = c₀.effects := by
      unfold takeAim
      split <;> rfl
    rw [heffects] at hf
    rcases List.mem_append.mp hc₀ with hc₀ | hc₀
    · exact h c₀ hc₀ f hf
    · cases List.mem_singleton.mp hc₀
      cases hf
  · cases hadd

/-- What enabling or disabling a target that exists comes to. -/
theorem setEnabled?_eq_some {e after : Encounter} {id : CombatantId} {enabled : Bool}
    (h : e.setEnabled? id enabled = some after) :
    after = (let changed := e.modify id fun c => { c with enabled }
      if enabled then changed
      else { changed with combatants := changed.combatants.map (·.endEffectsOn id) }) := by
  unfold setEnabled? at h
  obtain ⟨c, _, h⟩ := Option.bind_eq_some_iff.mp h
  obtain ⟨place, _, h⟩ := Option.bind_eq_some_iff.mp h
  cases h
  rfl

theorem TicksAhead.setEnabled {e after : Encounter} {id : CombatantId} {enabled : Bool}
    (h : e.TicksAhead) (hset : e.setEnabled? id enabled = some after) : after.TicksAhead := by
  have hmodify := h.modify (f := fun c => { c with enabled }) id fun _ => rfl
  obtain rfl := setEnabled?_eq_some hset
  dsimp only
  split
  · exact hmodify
  · -- Effects on a target that leaves are stopped, all others stay as they are.
    intro c hc
    obtain ⟨c₀, hc₀, rfl⟩ := List.mem_map.mp hc
    exact (hmodify c₀ hc₀).endEffectsOn id

theorem TicksAhead.perform {e : Encounter} (h : e.TicksAhead) (op : Op) :
    (e.perform op).TicksAhead := by
  cases op with
  | addPlayer label stats => exact h.addPlayer label stats
  | addTarget label stats =>
    rw [Encounter.perform]
    cases hadd : e.addTarget label stats with
    | error full => exact h
    | ok after => exact h.addTarget hadd
  | setEnabled id enabled =>
    rw [Encounter.perform]
    cases hset : e.setEnabled? id enabled with
    | none => exact h
    | some after => exact h.setEnabled hset
  | setAim id aim =>
    rw [Encounter.perform, setAim?]
    split
    · exact h.modify id fun _ => rfl
    · exact h
  | setStats id stats => exact h.modify id fun _ => rfl
  | learn id spell => exact h.modify id fun _ => rfl
  | setRunes id runes => exact h.modify id fun _ => rfl
  | moveRunes id m => exact h.modify id fun _ => rfl
  | cast caster spell target =>
    rw [Encounter.perform]
    cases hcast : e.cast caster spell target with
    | error cause => exact h
    | ok after => exact h.cast hcast
  | advanceTo t => exact h.advanceTo t

/-- In a reachable encounter no tick is overdue. -/
theorem Reachable.ticksAhead {e : Encounter} (h : Reachable e) : e.TicksAhead := by
  induction h with
  | new settings seed =>
    intro c hc
    cases hc
  | perform op _ ih => exact ih.perform op

/-! ### A duel -/

/-- Three ticks, two seconds apart. -/
def plagueEffect : Periodic where
  tickDamage := 100.0
  period := Time.ofWholeSeconds 2
  ticks := 3
  hasted := false

/-- A spell that does nothing but apply the plague. -/
def plague : Spell where
  id := ⟨55078⟩
  label := "Blood Plague"
  periodic := some plagueEffect

/-- A knight that knows the plague, against a dummy. -/
def duel : Encounter :=
  (Encounter.new {} 1).run [.addTarget "Dummy" {}, .addPlayer "Knight" {}, .learn ⟨1⟩ plague]

end Encounter

end ActionPriority
