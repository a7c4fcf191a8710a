import ActionPriority.Proofs.Encounter.OneEffect

/-! # Steps and Runs

    What one operation can do, said once for all that follows from it.

    * `Becomes` lists what an operation makes of a combatant who is there already
      (`combatant?_perform`).  Whoever joins by an operation comes with nothing
      (`Newcomer`), and nobody ever leaves the table (`becomes_or_joins`).
    * No operation changes a setting or turns the clock back.  Only advancing moves the clock,
      and not beyond the end of the encounter (`Reachable.clock_le_endTime`).
-/

namespace ActionPriority

namespace Encounter

/-- Either an operation takes time, or it is not one to advance. -/
theorem Op.quiet_or_advances (op : Op) :
    (∀ t, op ≠ .advanceTo t) ∨ ∃ t, op = .advanceTo t := by
  cases op with
  | advanceTo t => exact Or.inr ⟨t, rfl⟩
  | _ =>
    left
    intro t h
    cases h

/-! ### Operations that are not refused -/

section Accepted

variable {e after : Encounter}

theorem perform_of_setEnabled {id : CombatantId} {enabled : Bool}
    (h : e.setEnabled? id enabled = some after) : e.perform (.setEnabled id enabled) = after := by
  rw [perform, h]
  rfl

theorem perform_of_cast {caster target : CombatantId} {spell : SpellId}
    (h : e.cast caster spell target = .ok after) :
    e.perform (.cast caster spell target) = after := by
  rw [perform, h]
  rfl

end Accepted

/-! ### One combatant -/

/-- What an operation makes of a combatant who is there already. -/
inductive Becomes (e : Encounter) (id : CombatantId) (c : Combatant) : Op → Combatant → Prop where
  | stays {op : Op} : Becomes e id c op c
  | aims {op : Op} (aim : Option CombatantId) : Becomes e id c op { c with aim }
  | stats (stats : Stats) : Becomes e id c (.setStats id stats) { c with stats }
  | learns (spell : Spell) : Becomes e id c (.learn id spell) (c.learn spell)
  | runes {op : Op} (runes : Option RuneBar) : Becomes e id c op { c with runes }
  /-- A target enters the fight, which may be the combatant itself. -/
  | enters {target : CombatantId} : (e.setEnabled? target true).isSome = true →
      Becomes e id c (.setEnabled target true)
        (if target = id then { c with enabled := true } else c)
  /-- A target leaves the fight, and the effects on it stop. -/
  | leaves {target : CombatantId} : (e.setEnabled? target false).isSome = true →
      Becomes e id c (.setEnabled target false)
        ((if target = id then { c with enabled := false } else c).endEffectsOn target)
  | casts {spell : SpellId} {target : CombatantId} {aimed : Combatant} {definition : Spell}
      {runes : Option RuneBar} {after : Encounter} : e.cast id spell target = .ok after →
      c.spell? spell = some definition → e.combatant? target = some aimed →
      Becomes e id c (.cast id spell target) (e.afterCast c definition runes target aimed.stats)
  | advances (t : Time) : Becomes e id c (.advanceTo t) (c.through (min t e.endTime))

section Steps

variable {e : Encounter} {id : CombatantId} {c : Combatant}

theorem combatant?_modify_of_some (h : e.combatant? id = some c) (other : CombatantId)
    (g : Combatant → Combatant) :
    (e.modify other g).combatant? id = some (if other = id then g c else c) := by
  rw [combatant?_modify, h, Option.map_some]
  by_cases hid : other = id
  · rw [hid, if_pos rfl, if_pos rfl]
  · have hindex : other.index ≠ id.index := by
      intro he
      cases other; cases id; cases he
      exact hid rfl
    rw [if_neg hid, if_neg hindex]

/-- When a target leaves the fight, everybody's effects on it stop. -/
theorem combatant?_disabled {target : CombatantId} {after : Encounter}
    (hset : e.setEnabled? target false = some after) (h : e.combatant? id = some c) :
    after.combatant? id =
      some ((if target = id then { c with enabled := false } else c).endEffectsOn target) := by
  obtain rfl := setEnabled?_eq_some hset
  have hmodify : (e.modify target fun c => { c with enabled := false }).combatants[id.index]? =
      some (if target = id then { c with enabled := false } else c) :=
    combatant?_modify_of_some h target fun c => { c with enabled := false }
  refine (List.getElem?_map ..).trans ?_
  rw [hmodify]
  rfl

/-- Everybody who is there stays there, and becomes what the operation makes of them. -/
theorem combatant?_perform (h : e.combatant? id = some c) (op : Op) :
    ∃ after, (e.perform op).combatant? id = some after ∧ e.Becomes id c op after := by
  have hplace : e.combatants[id.index]? = some c := h
  have hlt : id.index < e.combatants.length := (List.getElem?_eq_some_iff.mp hplace).1
  cases op with
  | addPlayer label stats =>
    refine ⟨c, ?_, .stays⟩
    exact (List.getElem?_append_left hlt).trans h
  | addTarget label stats =>
    rw [perform]
    unfold addTarget
    split
    · -- Those who aim at nobody may aim at the new target.
      have hthis : ∀ joined, ((e.combatants ++ [joined]).map (takeAim e.nextId))[id.index]? =
          some (takeAim e.nextId c) := by
        intro joined
        rw [List.getElem?_map, List.getElem?_append_left hlt, hplace]
        rfl
      refine ⟨takeAim e.nextId c, hthis _, ?_⟩
      unfold takeAim
      split
      · exact .aims _
      · exact .stays
    · exact ⟨c, h, .stays⟩
  | setEnabled target enabled =>
    rw [perform]
    cases hset : e.setEnabled? target enabled with
    | none => exact ⟨c, h, .stays⟩
    | some after =>
      have hsome : (e.setEnabled? target enabled).isSome = true := by
        rw [hset]
        rfl
      cases enabled with
      | true =>
        have hmodify := combatant?_modify_of_some h target fun c => { c with enabled := true }
        obtain rfl := setEnabled?_eq_some hset
        exact ⟨_, hmodify, .enters hsome⟩
      | false => exact ⟨_, combatant?_disabled hset h, .leaves hsome⟩
  | setAim target aim =>
    rw [perform, setAim?]
    split
    · refine ⟨_, combatant?_modify_of_some h target fun c => { c with aim }, ?_⟩
      split
      · exact .aims aim
      · exact .stays
    · exact ⟨c, h, .stays⟩
  | setStats other stats =>
    refine ⟨_, combatant?_modify_of_some h other fun c => { c with stats }, ?_⟩
    split
    · next he => exact he ▸ .stats stats
    · exact .stays
  | learn other spell =>
    refine ⟨_, combatant?_modify_of_some h other fun c => c.learn spell, ?_⟩
    split
    · next he => exact he ▸ .learns spell
    · exact .stays
  | setRunes other runes =>
    refine ⟨_, combatant?_modify_of_some h other fun c => { c with runes }, ?_⟩
    split
    · exact .runes runes
    · exact .stays
  | moveRunes other m =>
    refine ⟨_, combatant?_modify_of_some h other
      fun c => { c with runes := c.runes.map (·.move m) }, ?_⟩
    split
    · exact .runes _
    · exact .stays
  | cast caster spell target =>
    rw [perform]
    cases hcast : e.cast caster spell target with
    | error cause => exact ⟨c, h, .stays⟩
    | ok after =>
      obtain ⟨aimed, c', definition, runes, haimed, hc', hdefinition, _, hland⟩ := cast_eq_ok hcast
      have hthis : after.combatant? id = some
          (if caster = id then e.afterCast c definition runes target aimed.stats else c) := by
        rw [hland]
        show (e.land c' definition runes caster target aimed.stats).combatants[id.index]? = _
        rw [land_combatants]
        exact combatant?_modify_of_some h caster _
      refine ⟨_, hthis, ?_⟩
      split
      · next hid =>
        subst hid
        rw [find_eq_ok_iff, h] at hc'
        cases hc'
        exact .casts hcast (findSpell_eq_ok_iff.mp hdefinition) (find_eq_ok_iff.mp haimed)
      · exact .stays
  | advanceTo t =>
    refine ⟨_, ?_, .advances t⟩
    have hall : (e.advanceTo t).combatants = e.combatants.map (·.through (min t e.endTime)) :=
      e.combatants_fireUntil _
    rw [perform, combatant?, hall, List.getElem?_map, hplace]
    rfl

/-- The combatant has not done anything yet. -/
structure Newcomer (c : Combatant) : Prop where
  effects : c.effects = Table.empty
  cooldowns : c.cooldowns = Table.empty
  globalReadyAt : c.globalReadyAt = Time.zero

theorem joined_of_append {joined : Combatant} (hnone : e.combatant? id = none)
    (hjoined : Newcomer joined) (hid : joined.id = e.nextId)
    (h : (e.combatants ++ [joined])[id.index]? = some c) : Newcomer c ∧ c.id = id := by
  have hle : e.combatants.length ≤ id.index := List.getElem?_eq_none_iff.mp hnone
  rw [List.getElem?_append_right hle] at h
  have hlast : id.index - e.combatants.length < 1 := (List.getElem?_eq_some_iff.mp h).1
  have hindex : e.combatants.length = id.index := by omega
  cases List.mem_singleton.mp (List.mem_of_getElem? h)
  refine ⟨hjoined, ?_⟩
  rw [hid, nextId, hindex]

/-- Who was not there before an operation has joined in it, and has done nothing yet. -/
theorem joined_perform {op : Op} (hnone : e.combatant? id = none)
    (h : (e.perform op).combatant? id = some c) : Newcomer c ∧ c.id = id := by
  -- A change of somebody who is there makes nobody join.
  have hmodify : ∀ other g, (e.modify other g).combatant? id ≠ some c := by
    intro other g hsome
    rw [combatant?_modify, hnone] at hsome
    cases hsome
  have hstay : e.combatant? id ≠ some c := by
    intro hsome
    rw [hnone] at hsome
    cases hsome
  cases op with
  | addPlayer label stats => exact joined_of_append hnone ⟨rfl, rfl, rfl⟩ rfl h
  | addTarget label stats =>
    rw [perform] at h
    unfold addTarget at h
    split at h
    · obtain ⟨c₀, hc₀, rfl⟩ := Option.map_eq_some_iff.mp ((List.getElem?_map ..).symm.trans h)
      obtain ⟨hnew, hid⟩ := joined_of_append hnone ⟨rfl, rfl, rfl⟩ rfl hc₀
      unfold takeAim
      split
      · exact ⟨⟨hnew.effects, hnew.cooldowns, hnew.globalReadyAt⟩, hid⟩
      · exact ⟨hnew, hid⟩
    · exact absurd h hstay
  | setEnabled target enabled =>
    rw [perform] at h
    cases hset : e.setEnabled? target enabled with
    | none =>
      rw [hset] at h
      exact absurd h hstay
    | some after =>
      rw [hset] at h
      obtain rfl := setEnabled?_eq_some hset
      cases enabled with
      | true => exact absurd h (hmodify _ _)
      | false =>
        obtain ⟨c₀, hc₀, _⟩ := Option.map_eq_some_iff.mp ((List.getElem?_map ..).symm.trans h)
        have hnone' := combatant?_modify e target id fun c => { c with enabled := false }
        rw [hnone] at hnone'
        cases hnone'.symm.trans hc₀
  | setAim target aim =>
    rw [perform, setAim?] at h
    split at h
    · exact absurd h (hmodify _ _)
    · exact absurd h hstay
  | setStats other stats => exact absurd h (hmodify _ _)
  | learn other spell => exact absurd h (hmodify _ _)
  | setRunes other runes => exact absurd h (hmodify _ _)
  | moveRunes other m => exact absurd h (hmodify _ _)
  | cast caster spell target =>
    rw [perform] at h
    cases hcast : e.cast caster spell target with
    | error cause =>
      rw [hcast] at h
      exact absurd h hstay
    | ok after =>
      rw [hcast] at h
      obtain ⟨aimed, c', definition, runes, _, _, _, _, rfl⟩ := cast_eq_ok hcast
      have h : (e.land c' definition runes caster target aimed.stats).combatants[id.index]? =
        some c := h
      rw [land_combatants] at h
      exact absurd h (hmodify _ _)
  | advanceTo t =>
    have hall : (e.advanceTo t).combatants = e.combatants.map (·.through (min t e.endTime)) :=
      e.combatants_fireUntil _
    rw [perform, combatant?, hall, List.getElem?_map] at h
    obtain ⟨c₀, hc₀, _⟩ := Option.map_eq_some_iff.mp h
    cases hnone.symm.trans hc₀

theorem newcomer_perform {op : Op} (hnone : e.combatant? id = none)
    (h : (e.perform op).combatant? id = some c) : Newcomer c :=
  (joined_perform hnone h).1

/-- Whoever is there after an operation was there before, or has just joined. -/
theorem becomes_or_joins {op : Op} (h : (e.perform op).combatant? id = some c) :
    (∃ before, e.combatant? id = some before ∧ e.Becomes id before op c) ∨ Newcomer c := by
  cases hbefore : e.combatant? id with
  | none => exact Or.inr (newcomer_perform hbefore h)
  | some before =>
    left
    obtain ⟨after, hafter, hbecomes⟩ := combatant?_perform hbefore op
    rw [h] at hafter
    cases hafter
    exact ⟨before, rfl, hbecomes⟩

/-- In a reachable encounter everybody has what newcomers have and operations keep. -/
theorem Reachable.forall_combatant {P : Combatant → Prop} (h : e.Reachable)
    (hnew : ∀ c, Newcomer c → P c)
    (hkeep : ∀ e id c op after, P c → Becomes e id c op after → P after)
    (hc : e.combatant? id = some c) : P c := by
  induction h generalizing c with
  | new settings seed => cases hc
  | perform op _ ih =>
    rcases becomes_or_joins hc with ⟨before, hbefore, hbecomes⟩ | hjoins
    · exact hkeep _ _ _ _ _ (ih hbefore) hbecomes
    · exact hnew c hjoins

/-- Nobody is ever given another identity. -/
theorem Becomes.id_eq {op : Op} {after : Combatant} (h : e.Becomes id c op after) :
    after.id = c.id := by
  cases h with
  | enters _ => split <;> rfl
  | leaves _ =>
    unfold Combatant.endEffectsOn
    split <;> rfl
  | _ => rfl

/-- In a reachable encounter the identity of a combatant is the one by which it is found. -/
theorem Reachable.id_eq (h : e.Reachable) (hc : e.combatant? id = some c) : c.id = id := by
  induction h generalizing c with
  | new settings seed => cases hc
  | @perform e op _ ih =>
    cases hbefore : e.combatant? id with
    | none => exact (joined_perform hbefore hc).2
    | some before =>
      obtain ⟨after, hafter, hbecomes⟩ := combatant?_perform hbefore op
      cases hc.symm.trans hafter
      exact hbecomes.id_eq.trans (ih hbefore)

end Steps

/-! ### Views of the combatants -/

section Views

variable {α : Type} {view : Combatant → α} {e : Encounter}

/-- What a change of one combatant does not change about it, it does not change about anybody. -/
theorem map_combatants_modify {id : CombatantId} {f : Combatant → Combatant}
    (hview : ∀ c, e.combatant? id = some c → view (f c) = view c) :
    (e.modify id f).combatants.map view = e.combatants.map view := by
  show (e.combatants.modify id.index f).map view = _
  -- Where nobody is, nothing is changed.
  cases hplace : e.combatants[id.index]? with
  | none => rw [List.modify_eq_self (List.getElem?_eq_none_iff.mp hplace)]
  | some c => exact map_modify_of_eq hplace (hview c hplace)

/-- What casting does not change about its caster, it does not change about anybody. -/
theorem map_combatants_cast {caster target : CombatantId} {spell : SpellId} {after : Encounter}
    (hview : ∀ c definition runes targetStats, e.payRunes c definition = .ok runes →
      view (e.afterCast c definition runes target targetStats) = view c)
    (h : e.cast caster spell target = .ok after) :
    after.combatants.map view = e.combatants.map view := by
  obtain ⟨aimed, c, definition, runes, _, hc, _, hpay, rfl⟩ := cast_eq_ok h
  rw [land_combatants]
  exact map_modify_of_eq (find_eq_ok_iff.mp hc) (hview _ _ _ _ hpay)

/-- What ticks do not change about a combatant, the clock does not change. -/
theorem map_combatants_advanceTo (hview : ∀ c limit, view (Combatant.through limit c) = view c)
    (t : Time) : (e.advanceTo t).combatants.map view = e.combatants.map view := by
  show (e.fireUntil _).combatants.map view = _
  rw [combatants_fireUntil, List.map_map]
  exact List.map_congr_left fun c _ => hview c _

/-- Where the views of all combatants are the same, everybody is found again with the same
    view. -/
theorem map_combatant?_of_map {e' : Encounter}
    (h : e'.combatants.map view = e.combatants.map view) (id : CombatantId) :
    (e'.combatant? id).map view = (e.combatant? id).map view := by
  have hplace := congrArg (fun l => l[id.index]?) h
  simp only [List.getElem?_map] at hplace
  exact hplace

end Views

/-! ### Settings and the clock -/

section Clock

variable {e : Encounter}

theorem settings_perform (e : Encounter) (op : Op) : (e.perform op).settings = e.settings := by
  cases op with
  | addTarget label stats =>
    rw [perform]
    unfold addTarget
    split <;> rfl
  | setEnabled id enabled =>
    rw [perform]
    cases hset : e.setEnabled? id enabled with
    | none => rfl
    | some after =>
      obtain rfl := setEnabled?_eq_some hset
      cases enabled <;> rfl
  | setAim id aim =>
    rw [perform, setAim?]
    split <;> rfl
  | cast caster spell target =>
    rw [perform]
    cases hcast : e.cast caster spell target with
    | error cause => rfl
    | ok after => exact cast_settings hcast
  | advanceTo t => exact e.settings_advanceTo t
  | _ => rfl

theorem endTime_perform (e : Encounter) (op : Op) : (e.perform op).endTime = e.endTime := by
  rw [endTime, endTime, settings_perform]

/-- The clock is where it was, or where advancing takes it. -/
theorem clock_perform (e : Encounter) (op : Op) :
    (e.perform op).clock = e.clock ∨
      ∃ t, op = .advanceTo t ∧ (e.perform op).clock = max e.clock (min t e.endTime) := by
  rcases op.quiet_or_advances with hquiet | ⟨t, rfl⟩
  · exact Or.inl (clock_perform_of_quiet hquiet)
  · exact Or.inr ⟨t, rfl, e.clock_advanceTo t⟩

theorem clock_le_perform (e : Encounter) (op : Op) : e.clock ≤ (e.perform op).clock := by
  rcases e.clock_perform op with hsame | ⟨t, rfl, hmoved⟩
  · rw [hsame, Time.le_def]
  · rw [hmoved, Time.le_def, Time.nanos_max]
    exact Nat.le_max_left ..

/-- The clock does not go beyond the end of the encounter. -/
theorem Reachable.clock_le_endTime (h : e.Reachable) : e.clock ≤ e.endTime := by
  induction h with
  | new settings seed => exact Nat.zero_le _
  | @perform e op _ ih =>
    rw [endTime_perform]
    rcases e.clock_perform op with hsame | ⟨t, rfl, hmoved⟩
    · rw [hsame]
      exact ih
    · rw [hmoved]
      simp only [Time.le_def, Time.nanos_max, Time.nanos_min] at *
      omega

/-- The end of the encounter is its length after the start. -/
theorem endTime_eq_duration (e : Encounter) : e.endTime = e.settings.duration := by
  have hlast := e.settings.duration.nanos_le
  apply Time.ext
  rw [endTime, Time.nanos_add, Time.nanos_zero]
  omega

/-- An encounter that ends before the last instant never gets there. -/
theorem Reachable.clock_lt_never (h : e.Reachable) (hends : e.settings.duration < Time.never) :
    e.clock < Time.never := by
  have hle := h.clock_le_endTime
  rw [endTime_eq_duration] at hle
  exact Nat.lt_of_le_of_lt hle hends

end Clock

/-! ### Runs -/

section Runs

variable {e : Encounter}

theorem run_cons (e : Encounter) (op : Op) (ops : List Op) :
    e.run (op :: ops) = (e.perform op).run ops := rfl

theorem run_append (e : Encounter) (ops more : List Op) :
    e.run (ops ++ more) = (e.run ops).run more := List.foldl_append

/-- Whoever is there stays there. -/
theorem combatant?_run {id : CombatantId} {c : Combatant} (h : e.combatant? id = some c)
    (ops : List Op) : ∃ after, (e.run ops).combatant? id = some after := by
  induction ops generalizing e c with
  | nil => exact ⟨c, h⟩
  | cons op rest ih =>
    obtain ⟨next, hnext, _⟩ := combatant?_perform h op
    exact ih hnext

/-- What turns true in the course of some operations turns true in one of them. -/
theorem exists_turn {P : Encounter → Bool} {ops : List Op} (hno : P e = false)
    (hyes : P (e.run ops) = true) :
    ∃ before op rest, ops = before ++ op :: rest ∧ P (e.run before) = false ∧
      P ((e.run before).perform op) = true := by
  induction ops generalizing e with
  | nil =>
    rw [show e.run [] = e from rfl, hno] at hyes
    cases hyes
  | cons op rest ih =>
    cases hnext : P (e.perform op) with
    | true => exact ⟨[], op, rest, rfl, hno, hnext⟩
    | false =>
      obtain ⟨before, op', rest', rfl, hbefore, hturn⟩ := ih hnext hyes
      exact ⟨op :: before, op', rest', rfl, hbefore, hturn⟩

theorem Reachable.run (h : e.Reachable) (ops : List Op) : (e.run ops).Reachable := by
  induction ops generalizing e with
  | nil => exact h
  | cons op rest ih => exact ih (h.perform op)

theorem settings_run (e : Encounter) (ops : List Op) : (e.run ops).settings = e.settings := by
  induction ops generalizing e with
  | nil => rfl
  | cons op rest ih => rw [run_cons, ih, settings_perform]

theorem endTime_run (e : Encounter) (ops : List Op) : (e.run ops).endTime = e.endTime := by
  rw [endTime, endTime, settings_run]

theorem clock_le_run (e : Encounter) (ops : List Op) : e.clock ≤ (e.run ops).clock := by
  induction ops generalizing e with
  | nil => exact Nat.le_refl _
  | cons op rest ih => exact Nat.le_trans (e.clock_le_perform op) (ih _)

end Runs

end Encounter

end ActionPriority
