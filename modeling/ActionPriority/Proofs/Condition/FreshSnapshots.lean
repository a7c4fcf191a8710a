import ActionPriority.Proofs.Condition.Aggregates
import ActionPriority.Proofs.Encounter.Footprint
import ActionPriority.Proofs.PriorityList.Aims

/-! # Increases over a Fresh Snapshot

    An increase compares what a fresh application of an effect would have now with what the
    effect has had since its last application.  The one is computed from the statistics of the
    moment whenever the condition is asked, and the other has been captured by a cast.

    * Both are computed alike (`Increase.baseline_of_take`).
    * A snapshot stays until the next application.  Ticks, the last of them, and a target that
      leaves the fight only use up or end the schedule (`Encounter.snapshot_perform`), so that
      the snapshot is there after any run in which the effect is not applied anew
      (`Encounter.snapshot_run`).
    * So as long as the statistics are those of the cast, or once they are again, an increase
      compares a value with itself (`Increase.EvenAt`).
-/

namespace ActionPriority

open Encounter (Op)

/-! ### What is compared -/

namespace Increase

variable {measure : Increase} {r : EffectRef} {p : Periodic} {e : Encounter}

/-- The two values that an increase compares, if its caster and its target are there: what a fresh
    application would have now, and what the effect has had since its last one. -/
def operands? (measure : Increase) (r : EffectRef) (p : Periodic) (e : Encounter) :
    Option (Float × Float) :=
  match e.combatant? r.caster, r.target.combatant? e with
  | some caster, some target =>
    some (measure.live p caster.stats target.stats,
      measure.baseline (e.effect? r.caster r.spell target.id))
  | _, _ => none

/-- The condition compares them, and nothing else. -/
theorem evalIncrease_eq (measure : Increase) (r : EffectRef) (p : Periodic) (e : Encounter) :
    FloatTerm.evalIncrease e measure r p =
      ((measure.operands? r p e).map fun x => measure.compared x.1 x.2).getD 0.0 := by
  unfold FloatTerm.evalIncrease operands?
  cases e.combatant? r.caster with
  | none => rfl
  | some caster =>
    cases r.target.combatant? e with
    | none => rfl
    | some target => rfl

/-- A value compared with itself reads the same by every measure, whichever way round its quotient
    is. -/
theorem compared_self (measure : Increase) (x : Float) :
    measure.compared x x = if x == 0.0 then 1.0 else x / x - 1.0 := by
  cases measure with
  | damage | crit => rfl
  | tickRate => simp only [compared, Bool.or_self]

/-- What an application captures reads as what the condition computes afresh. -/
theorem baseline_of_take {f : Effect} {caster target : Stats}
    (h : f.snapshot = Snapshot.take p caster target) (measure : Increase) :
    measure.baseline (some f) = measure.live p caster target := by
  cases measure with
  | damage =>
    show f.expectedTick = _
    rw [Effect.expectedTick, h]
    rfl
  | crit =>
    show f.snapshot.critChance = _
    rw [h]
    rfl
  | tickRate =>
    show f.snapshot.period.toSeconds = _
    rw [h]
    rfl

/-- The increase compares `x` with itself, and reads accordingly. -/
structure EvenAt (measure : Increase) (r : EffectRef) (p : Periodic) (x : Float) (e : Encounter) :
    Prop where
  operands : measure.operands? r p e = some (x, x)
  value : (Node.float (.increase measure r p)).eval e =
    .float (if x == 0.0 then 1.0 else x / x - 1.0)

theorem evenAt_of_operands {x : Float} (h : measure.operands? r p e = some (x, x)) :
    measure.EvenAt r p x e where
  operands := h
  value := by
    show Value.float (FloatTerm.evalIncrease e measure r p) = _
    rw [evalIncrease_eq, h, Option.map_some, Option.getD_some, compared_self]

end Increase

/-! ### Snapshots -/

namespace Encounter

/-- The statistics of a combatant. -/
def stats? (e : Encounter) (id : CombatantId) : Option Stats := (e.combatant? id).map Combatant.stats

/-- None of some operations applies the effect anew.  They may end it. -/
def Unrenewed (caster : CombatantId) (spell : SpellId) (target : CombatantId) :
    Encounter → List Op → Prop
  | _, [] => True
  | e, op :: rest =>
    ¬ e.Reapplies caster spell target op ∧ Unrenewed caster spell target (e.perform op) rest

section Snapshots

variable {e : Encounter} {caster target : CombatantId} {spell : SpellId} {f : Effect}

/-- An effect that is ended keeps its snapshot. -/
theorem snapshot_disabled {after : Encounter} {id : CombatantId}
    (h : e.effect? caster spell target = some f) (hset : e.setEnabled? id false = some after) :
    ∃ f', after.effect? caster spell target = some f' ∧ f'.snapshot = f.snapshot := by
  obtain ⟨c, hc, hf⟩ := Option.bind_eq_some_iff.mp h
  have hthis := combatant?_disabled hset hc
  have hfind : c.effects.find? ⟨spell, target⟩ = some f := hf
  have heffects : (if id = caster then { c with enabled := false } else c).effects = c.effects := by
    split <;> rfl
  have hended : after.effect? caster spell target =
      some (if target = id then f.ended else f) := by
    rw [effect?, hthis, Option.bind_some, Combatant.effect?, Combatant.endEffectsOn,
      Table.find?_mapValues, heffects, hfind, Option.map_some]
  refine ⟨_, hended, ?_⟩
  split <;> rfl

/-- Only an application changes the snapshot of an effect. -/
theorem snapshot_perform {op : Op} (h : e.effect? caster spell target = some f)
    (hkeep : ¬ e.Reapplies caster spell target op) :
    ∃ f', (e.perform op).effect? caster spell target = some f' ∧ f'.snapshot = f.snapshot := by
  by_cases hdisables : e.Disables target op
  · -- The effect is ended, which leaves its snapshot.
    cases op with
    | setEnabled id enabled =>
      obtain ⟨rfl, rfl, hset⟩ := hdisables
      obtain ⟨after, hset⟩ := Option.isSome_iff_exists.mp hset
      rw [perform_of_setEnabled hset]
      exact snapshot_disabled h hset
    | _ => exact hdisables.elim
  · -- It ticks if time passes, and otherwise nothing happens to it.
    rcases op.quiet_or_advances with hquiet | ⟨t, rfl⟩
    · exact ⟨f, effect?_perform_of_quiet h ⟨hkeep, hdisables⟩ hquiet, rfl⟩
    · exact ⟨_, effect?_advanceTo h t, Effect.snapshot_iterate_tick ..⟩

/-- So the snapshot is there until the effect is applied anew. -/
theorem snapshot_run {ops : List Op} (h : e.effect? caster spell target = some f)
    (hunrenewed : e.Unrenewed caster spell target ops) :
    ∃ f', (e.run ops).effect? caster spell target = some f' ∧ f'.snapshot = f.snapshot := by
  induction ops generalizing e f with
  | nil => exact ⟨f, h, rfl⟩
  | cons op rest ih =>
    obtain ⟨hkeep, hrest⟩ := hunrenewed
    obtain ⟨next, hnext, hsame⟩ := snapshot_perform h hkeep
    obtain ⟨f', hf', hsame'⟩ := ih hnext hrest
    exact ⟨f', hf', hsame'.trans hsame⟩

end Snapshots

end Encounter

/-! ### After an application -/

namespace Scope

variable {s : Scope} {measure : Increase} {spell : SpellId} {ref : TargetRef} {cell : Cell}
  {node : Node}

/-- What an increase is compiled to: the effect of the spell is noted in it as the caster knows
    the spell then. -/
theorem Makes.eq_increase (h : s.Makes (.effectIncrease measure spell ref) node)
    (hcell : (s.cell ref).result = some cell) :
    ∃ definition p, s.spells.find? (·.id = spell) = some definition ∧
      definition.periodic = some p ∧
      node = .float (.increase measure ⟨s.caster, spell, cell⟩ p) := by
  obtain ⟨(hrule : s.catalog.HasRule (.effectIncrease measure)), hmade⟩ := h
  rw [compile, catalogued_of_hasRule hrule, Checked.result_bind] at hmade
  obtain ⟨p, hp, hmade⟩ := Option.bind_eq_some_iff.mp hmade
  rw [Checked.result_bind, hcell] at hmade
  cases hmade
  rw [periodic, Checked.result_bind] at hp
  obtain ⟨definition, hknown, hperiodic⟩ := Option.bind_eq_some_iff.mp hp
  rw [Scope.spell, Checked.result_ofOption] at hknown
  rw [Checked.result_ofOption] at hperiodic
  exact ⟨definition, p, hknown, hperiodic, rfl⟩

end Scope

namespace Encounter

variable {e begun : Encounter} {caster target : CombatantId} {spell : SpellId}

/-- Casting changes no statistics. -/
theorem stats?_cast (h : e.cast caster spell target = .ok begun) (id : CombatantId) :
    begun.stats? id = e.stats? id :=
  map_combatant?_of_map (map_combatants_cast (fun _ _ _ _ _ => rfl) h) id

/-- A cast captures the statistics of its caster and of its target. -/
theorem snapshot_cast {c aimed : Combatant} {definition : Spell} {p : Periodic}
    (h : e.cast caster spell target = .ok begun) (hc : e.combatant? caster = some c)
    (hdefinition : c.spell? spell = some definition) (haimed : e.combatant? target = some aimed)
    (hperiodic : definition.periodic = some p) :
    ∃ f, begun.effect? caster spell target = some f ∧
      f.snapshot = Snapshot.take p c.stats aimed.stats := by
  obtain ⟨runes, hpay, rfl⟩ := cast_eq_land h hc hdefinition haimed
  obtain ⟨after, hafter, hfoot⟩ := (footprint_land hc hpay target aimed).whoCasts
  have hfresh := hfoot.fresh p hperiodic
  rw [Combatant.spell?_id hdefinition] at hfresh
  exact ⟨_, Option.bind_eq_some_iff.mpr ⟨after, hafter, hfresh⟩, rfl⟩

/-- A cell goes on standing for the same combatant, unless it follows an aim that has moved. -/
theorem Reachable.resolve_later {cell : Cell} (h : e.Reachable)
    (hnow : cell.resolve e = some target) {ops : List Op}
    (haim : ∀ id, cell = .aimOf id → cell.resolve (e.run ops) = some target) :
    cell.resolve (e.run ops) = some target := by
  cases cell with
  | aimOf id => exact haim id rfl
  | fixed id =>
    rw [h.resolve_fixed] at hnow
    obtain ⟨c, hc, rfl⟩ := Option.map_eq_some_iff.mp hnow
    obtain ⟨after, hafter⟩ := combatant?_run hc ops
    rw [(h.run ops).resolve_fixed, hafter]
    rfl

end Encounter

/-- Where the cell stands for the target, the operands are read off the statistics of the two and
    off the effect. -/
theorem Increase.operands?_eq {measure : Increase} {r : EffectRef} {p : Periodic} {e : Encounter}
    {target : CombatantId} {stats targetStats : Stats} (h : e.Reachable)
    (htarget : r.target.resolve e = some target) (hstats : e.stats? r.caster = some stats)
    (htargetStats : e.stats? target = some targetStats) :
    measure.operands? r p e = some (measure.live p stats targetStats,
      measure.baseline (e.effect? r.caster r.spell target)) := by
  obtain ⟨c, hc, rfl⟩ := Option.map_eq_some_iff.mp hstats
  obtain ⟨aimed, haimed, rfl⟩ := Option.map_eq_some_iff.mp htargetStats
  have hcell : r.target.combatant? e = some aimed := by
    rw [Cell.combatant?, htarget]
    exact haimed
  unfold operands?
  rw [hc, hcell]
  dsimp only
  rw [h.id_eq haimed]

/-- What an increase computes afresh where a cast succeeds is what the cast captures.  From then
    on, until the effect is applied anew, the increase compares that value with itself whenever
    caster and target have the statistics of the cast, whatever has happened in between. -/
theorem increase_even_after_cast {e begun : Encounter} {s : Scope} {measure : Increase}
    {spell : SpellId} {ref : TargetRef} {cell : Cell} {node : Node} {target : CombatantId}
    (h : e.Reachable) (hcast : e.cast s.caster spell target = .ok begun)
    (hknown : (e.combatant? s.caster).bind (·.spell? spell) = s.spells.find? (·.id = spell))
    (hcell : (s.cell ref).result = some cell) (htarget : cell.resolve e = some target)
    (hnode : s.Makes (.effectIncrease measure spell ref) node) :
    ∃ p x before, node = .float (.increase measure ⟨s.caster, spell, cell⟩ p) ∧
      measure.operands? ⟨s.caster, spell, cell⟩ p e = some (x, before) ∧
      measure.EvenAt ⟨s.caster, spell, cell⟩ p x begun ∧
      ∀ ops, begun.Unrenewed s.caster spell target ops →
        (begun.run ops).stats? s.caster = e.stats? s.caster →
        (begun.run ops).stats? target = e.stats? target →
        (∀ id, cell = .aimOf id → cell.resolve (begun.run ops) = some target) →
        measure.EvenAt ⟨s.caster, spell, cell⟩ p x (begun.run ops) := by
  obtain ⟨definition, p, hdefinition, hperiodic, rfl⟩ := hnode.eq_increase hcell
  obtain ⟨aimed, c, _, _, haimed, hc, _, _, _⟩ := Encounter.cast_eq_ok hcast
  rw [Encounter.find_eq_ok_iff] at haimed hc
  rw [hc, Option.bind_some, hdefinition] at hknown
  obtain ⟨f, hf, hsnapshot⟩ := Encounter.snapshot_cast hcast hc hknown haimed hperiodic
  have hstats : e.stats? s.caster = some c.stats := by
    rw [Encounter.stats?, hc]
    rfl
  have htargetStats : e.stats? target = some aimed.stats := by
    rw [Encounter.stats?, haimed]
    rfl
  have hbegun : begun.Reachable := by
    rw [← Encounter.perform_of_cast hcast]
    exact h.perform _
  have hop : (Op.cast s.caster spell target).IsCastOrJump := trivial
  have hbegunTarget : cell.resolve begun = some target := by
    rw [← Encounter.perform_of_cast hcast, Cell.resolve_perform hop]
    exact htarget
  -- Later states are all alike, and the cast itself leaves the first of them.
  have heven : ∀ ops, begun.Unrenewed s.caster spell target ops →
      (begun.run ops).stats? s.caster = e.stats? s.caster →
      (begun.run ops).stats? target = e.stats? target →
      (∀ id, cell = .aimOf id → cell.resolve (begun.run ops) = some target) →
      measure.EvenAt ⟨s.caster, spell, cell⟩ p (measure.live p c.stats aimed.stats)
        (begun.run ops) := by
    intro ops hunrenewed hsame hsameTarget haim
    obtain ⟨f', hf', hkept⟩ := Encounter.snapshot_run hf hunrenewed
    have hlater := hbegun.resolve_later hbegunTarget haim
    apply Increase.evenAt_of_operands
    rw [Increase.operands?_eq (hbegun.run ops) hlater (hsame.trans hstats)
      (hsameTarget.trans htargetStats), hf',
      Increase.baseline_of_take (hkept.trans hsnapshot)]
  refine ⟨p, _, _, rfl, Increase.operands?_eq h htarget hstats htargetStats, ?_, heven⟩
  exact heven [] trivial (Encounter.stats?_cast hcast _) (Encounter.stats?_cast hcast _)
    fun _ _ => hbegunTarget

/-- The knight casts the plague, gets stronger and weaker again, and the dummy leaves the fight
    after the first tick.  Then an application would do no more damage than the plague has done. -/
theorem increase_even_after_cast_plague :
    let s := Scope.of Encounter.duel ⟨1⟩ .standard
    let ops : List Op := [.setStats ⟨1⟩ { damageMultiplier := 2.0 },
      .advanceTo (Time.ofWholeSeconds 3), .setEnabled ⟨0⟩ false, .setStats ⟨1⟩ {}]
    let begun := Encounter.duel.perform (.cast ⟨1⟩ Encounter.plague.id ⟨0⟩)
    ∃ node, s.Makes (.effectIncrease .damage Encounter.plague.id .currentTarget) node ∧
      node.eval Encounter.duel = .float 1.0 ∧ node.eval begun = .float 0.0 ∧
      node.eval (begun.run ops) = .float 0.0 := by
  intro s ops begun
  have hcheck : Encounter.duel.checkCast ⟨1⟩ Encounter.plague.id ⟨0⟩ = .ok () := by decide
  have hcast := Encounter.cast_eq_perform hcheck
  have hreachable : Encounter.duel.Reachable := (Encounter.Reachable.new {} 1).run _
  have hcell : (s.cell .currentTarget).result = some (.aimOf ⟨1⟩) := rfl
  have hcompile : s.Makes (.effectIncrease .damage Encounter.plague.id .currentTarget)
      (.float (.increase .damage ⟨⟨1⟩, Encounter.plague.id, .aimOf ⟨1⟩⟩
        Encounter.plagueEffect)) := ⟨rfl, rfl⟩
  obtain ⟨p, x, before, hnode, hoperands, hbegun, hlater⟩ :=
    increase_even_after_cast hreachable hcast rfl hcell rfl hcompile
  injection hnode with hterm
  injection hterm with _ _ hperiodic
  subst hperiodic
  have hx : x = 100.0 := by
    injection hoperands with hpair
    injection hpair with hlive _
    rw [← hlive]
    decide +kernel
  have hrun := hlater ops ⟨id, id, id, id, trivial⟩ (by decide +kernel) (by decide +kernel)
    fun _ _ => by decide +kernel
  have hnothing : (if x == 0.0 then 1.0 else x / x - 1.0) = (0.0 : Float) := by
    rw [hx]
    decide +kernel
  refine ⟨_, hcompile, congrArg Value.float ?_, ?_, ?_⟩
  · decide +kernel
  · rw [← hnothing]
    exact hbegun.value
  · rw [← hnothing]
    exact hrun.value

end ActionPriority
