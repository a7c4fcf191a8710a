import ActionPriority.Proofs.Encounter.Reachable
import ActionPriority.Proofs.Lists

/-! # Casts Happen as a Whole

    A cast is checked first and then carried out piece by piece: the runes are spent, the
    cooldowns start, the effect is applied, the hit is rolled.  After the check there are still
    places at which it could fail, where caster, spell and target are looked up once more and
    where the runes are spent.

    * `Encounter.castInPlace` is a cast that changes the encounter as it goes.  What it has
      changed when it fails stays changed.
    * Once the check has passed, the places where it could fail are passed too, and the pieces
      add up to the cast (`exec_castInPlace`).  In particular a bar that can pay does
      pay (`payRunes_of_check`).
    * So a cast succeeds if and only if it passes the check, and one that fails has changed
      nothing (`cast_all_or_nothing`).
-/

namespace ActionPriority

namespace Encounter

/-! ### The pieces of a cast -/

/-- The cooldown of the spell starts, if it has one. -/
def startCooldown (e : Encounter) (caster : CombatantId) (spell : SpellId) (definition : Spell) :
    Encounter :=
  if definition.cooldown = Time.zero then e
  else
    e.modify caster fun c =>
      { c with cooldowns := c.cooldowns.insert spell (e.clock + definition.cooldown) }

/-- The global cooldown starts, if the spell is on it. -/
def startGlobalCooldown (e : Encounter) (caster : CombatantId) (definition : Spell) : Encounter :=
  if definition.onGlobalCooldown then
    e.modify caster fun c => { c with globalReadyAt := e.clock + e.settings.globalCooldown }
  else e

/-- The effect of the spell is applied, if it has one. -/
def startEffect (e : Encounter) (caster : CombatantId) (spell : SpellId) (target : CombatantId)
    (definition : Spell) (targetStats : Stats) : Encounter :=
  match definition.periodic with
  | none => e
  | some p =>
    e.modify caster fun c =>
      { c with
        effects := c.effects.insert ⟨spell, target⟩
          (.applied e.clock p.ticks (Snapshot.take p c.stats targetStats)) }

/-- The hit of the spell is rolled. -/
def hit (e : Encounter) (c : Combatant) (definition : Spell) (targetStats : Stats) : Encounter :=
  e.afterHit (Damage.modified definition.directDamage c.stats targetStats) c.stats.critChance

/-! ### Changing an encounter as one goes -/

/-- A computation that changes an encounter as it goes.  It leaves what it has changed also when
    it fails. -/
abbrev InPlace := ExceptT CastError (StateM Encounter)

namespace InPlace

variable {α β : Type}

/-- The outcome of a computation, and what it has made of the encounter. -/
def exec (x : InPlace α) (e : Encounter) : Except CastError α × Encounter := x.run.run e

@[simp] theorem exec_get (e : Encounter) : exec get e = (.ok e, e) := rfl

@[simp] theorem exec_set (e after : Encounter) : exec (set after) e = (.ok (), after) := rfl

@[simp] theorem exec_lift (x : Except CastError α) (e : Encounter) :
    exec (liftM x) e = (x, e) := rfl

/-- A failure ends the computation where it stands. -/
@[simp] theorem exec_bind (x : InPlace α) (f : α → InPlace β) (e : Encounter) :
    exec (x >>= f) e =
      match exec x e with
      | (.ok a, after) => exec (f a) after
      | (.error cause, after) => (.error cause, after) := by
  have hbind : exec (x >>= f) e = ExceptT.bindCont f (exec x e).1 (exec x e).2 := rfl
  rw [hbind]
  obtain ⟨outcome, after⟩ := exec x e
  cases outcome with
  | ok a => rfl
  | error cause => rfl

end InPlace

/-- Whoever has a rune bar spends the runes of the spell. -/
def payInPlace (caster : CombatantId) (definition : Spell) : Option RuneBar → InPlace Unit
  | none => pure ()
  | some bar => do
    let paid ← (bar.spend definition.cost (← get).clock).mapError CastError.shortage
    set ((← get).modify caster fun c => { c with runes := some paid })

/-- A cast that changes the encounter piece by piece. -/
def castInPlace (caster : CombatantId) (spell : SpellId) (target : CombatantId) :
    InPlace Unit := do
  (← get).checkCast caster spell target
  let aimed ← (← get).find target
  let c ← (← get).find caster
  let definition ← findSpell c caster spell
  payInPlace caster definition c.runes
  set ((← get).startCooldown caster spell definition)
  set ((← get).startGlobalCooldown caster definition)
  set ((← get).startEffect caster spell target definition aimed.stats)
  set ((← get).hit c definition aimed.stats)
  set { (← get) with casts := (← get).casts + 1 }

/-! ### The pieces together -/

theorem modify_id (e : Encounter) (id : CombatantId) : (e.modify id fun c => c) = e := by
  have hsame : e.combatants.modify id.index (fun c => c) = e.combatants := List.modify_id ..
  unfold modify
  rw [hsame]

theorem startCooldown_eq (e : Encounter) (caster : CombatantId) (spell : SpellId)
    (definition : Spell) :
    e.startCooldown caster spell definition = e.modify caster fun c =>
      { c with
        cooldowns :=
          if definition.cooldown = Time.zero then c.cooldowns
          else c.cooldowns.insert spell (e.clock + definition.cooldown) } := by
  unfold startCooldown
  split
  · exact (e.modify_id caster).symm
  · rfl

theorem startGlobalCooldown_eq (e : Encounter) (caster : CombatantId) (definition : Spell) :
    e.startGlobalCooldown caster definition = e.modify caster fun c =>
      { c with
        globalReadyAt :=
          if definition.onGlobalCooldown then e.clock + e.settings.globalCooldown
          else c.globalReadyAt } := by
  unfold startGlobalCooldown
  split
  · rfl
  · exact (e.modify_id caster).symm

theorem startEffect_eq (e : Encounter) (caster : CombatantId) (spell : SpellId)
    (target : CombatantId) (definition : Spell) (targetStats : Stats) :
    e.startEffect caster spell target definition targetStats = e.modify caster fun c =>
      { c with
        effects :=
          match definition.periodic with
          | none => c.effects
          | some p =>
            c.effects.insert ⟨spell, target⟩
              (.applied e.clock p.ticks (Snapshot.take p c.stats targetStats)) } := by
  unfold startEffect
  split
  · exact (e.modify_id caster).symm
  · rfl

/-- After the runes have been spent, the other pieces complete the cast. -/
theorem land_eq_pieces (e : Encounter) (c : Combatant) (definition : Spell)
    (runes : Option RuneBar) (caster target : CombatantId) (targetStats : Stats) :
    e.land c definition runes caster target targetStats =
      (let begun := (((e.modify caster fun c => { c with runes }).startCooldown caster
          definition.id definition).startGlobalCooldown caster definition).startEffect caster
          definition.id target definition targetStats
      let struck := begun.hit c definition targetStats
      { struck with casts := struck.casts + 1 }) := by
  rw [startCooldown_eq, startGlobalCooldown_eq, startEffect_eq, modify_modify, modify_modify,
    modify_modify]
  rfl

/-! ### Nothing fails after the check -/

/-- A cost of nothing can always be paid. -/
theorem afford_of_isFree {bar : RuneBar} {cost : RuneCost} (h : cost.isFree = true) (now : Time) :
    bar.afford cost now = .ok () := by
  have hneed : ∀ rune, cost.need rune = 0 := by
    intro rune
    have hall : ∀ rune ∈ BaseRune.all, cost.need rune = 0 := by
      simpa [RuneCost.isFree] using h
    cases rune <;> exact hall _ (by decide)
  simp [RuneBar.afford, RuneBar.affordFrom, BaseRune.all, hneed]

/-- Whoever passes the check of the runes can pay with them. -/
theorem payRunes_of_check {e : Encounter} {c : Combatant} {definition : Spell}
    (h : definition.cost.isFree = true ∨
      ∃ bar, c.runes = some bar ∧ bar.afford definition.cost e.clock = .ok ()) :
    ∃ runes, e.payRunes c definition = .ok runes := by
  unfold payRunes
  cases hrunes : c.runes with
  | none => exact ⟨none, rfl⟩
  | some bar =>
    -- The check asks the bar only if the spell costs runes, but payment always does.
    have hafford : bar.afford definition.cost e.clock = .ok () := by
      rcases h with hfree | ⟨bar', hbar, hafford⟩
      · exact afford_of_isFree hfree e.clock
      · rw [hrunes] at hbar
        cases hbar
        exact hafford
    dsimp only
    rw [RuneBar.spend_of_afford hafford]
    exact ⟨_, rfl⟩

/-- A cast that passes the check finds everything again, and is carried out. -/
theorem cast_of_check {e : Encounter} {caster target : CombatantId} {spell : SpellId}
    (h : e.checkCast caster spell target = .ok ()) :
    ∃ aimed c definition runes, e.find target = .ok aimed ∧ e.find caster = .ok c ∧
      findSpell c caster spell = .ok definition ∧ e.payRunes c definition = .ok runes ∧
      e.cast caster spell target =
        .ok (e.land c definition runes caster target aimed.stats) := by
  -- The check has looked up the same three, and nothing has changed since.
  obtain ⟨c, definition, aimed, hc, haimed, hcastable⟩ := checkCast_eq_ok_iff.mp h
  obtain ⟨runes, hpay⟩ := payRunes_of_check hcastable.runes
  have hc := find_eq_ok_iff.mpr hc
  have haimed := find_eq_ok_iff.mpr haimed
  have hdefinition : findSpell c caster spell = .ok definition :=
    findSpell_eq_ok_iff.mpr hcastable.known
  refine ⟨aimed, c, definition, runes, haimed, hc, hdefinition, hpay, ?_⟩
  simp only [cast, h, haimed, hc, hdefinition, hpay, bind, Except.bind, pure, Except.pure]

theorem cast_of_check_error {e : Encounter} {caster target : CombatantId} {spell : SpellId}
    {cause : CastError} (h : e.checkCast caster spell target = .error cause) :
    e.cast caster spell target = .error cause := by
  simp only [cast, h, bind, Except.bind]

/-! ### The cast in place -/

/-- Paying in place comes to the same as paying. -/
theorem exec_payInPlace {e : Encounter} {caster : CombatantId} {c : Combatant}
    {definition : Spell} {runes : Option RuneBar} (hc : e.find caster = .ok c)
    (hpay : e.payRunes c definition = .ok runes) :
    (payInPlace caster definition c.runes).exec e =
      (.ok (), e.modify caster fun c => { c with runes }) := by
  unfold payRunes at hpay
  cases hrunes : c.runes with
  | none =>
    rw [hrunes] at hpay
    cases hpay
    -- The caster has no runes, and keeps none.
    have hsame : e.combatants.modify caster.index (fun c => { c with runes := none }) =
        e.combatants.modify caster.index fun c => c := by
      refine modify_congr_of_eq (find_eq_ok_iff.mp hc) ?_
      rw [← hrunes]
    have hself : (e.modify caster fun c => { c with runes := none }) = e := by
      conv => rhs; rw [← e.modify_id caster]
      unfold modify
      rw [hsame]
    rw [hself]
    rfl
  | some bar =>
    rw [hrunes] at hpay
    dsimp only at hpay
    cases hspend : bar.spend definition.cost e.clock with
    | error shortage =>
      rw [hspend] at hpay
      cases hpay
    | ok paid =>
      rw [hspend] at hpay
      cases hpay
      simp only [payInPlace, InPlace.exec_bind, InPlace.exec_get, InPlace.exec_lift,
        InPlace.exec_set, hspend, Except.mapError]

/-- A refused check is the end of it, before anything has changed. -/
theorem exec_castInPlace_of_check_error {e : Encounter} {caster target : CombatantId}
    {spell : SpellId} {cause : CastError} (h : e.checkCast caster spell target = .error cause) :
    (castInPlace caster spell target).exec e = (.error cause, e) := by
  simp only [castInPlace, InPlace.exec_bind, InPlace.exec_get, InPlace.exec_lift, h]

/-- Piece by piece the spell is cast. -/
theorem exec_castInPlace {e : Encounter} {caster target : CombatantId} {spell : SpellId}
    {aimed c : Combatant} {definition : Spell} {runes : Option RuneBar}
    (hcheck : e.checkCast caster spell target = .ok ()) (haimed : e.find target = .ok aimed)
    (hc : e.find caster = .ok c) (hdefinition : findSpell c caster spell = .ok definition)
    (hpay : e.payRunes c definition = .ok runes) :
    (castInPlace caster spell target).exec e =
      (.ok (), e.land c definition runes caster target aimed.stats) := by
  have hspell : definition.id = spell := Combatant.spell?_id (findSpell_eq_ok_iff.mp hdefinition)
  simp only [castInPlace, InPlace.exec_bind, InPlace.exec_get, InPlace.exec_lift, hcheck, haimed,
    hc, hdefinition, exec_payInPlace hc hpay, InPlace.exec_set]
  rw [land_eq_pieces, hspell]

/-! ### All or nothing -/

/-- A cast succeeds if and only if it passes the check. -/
theorem exists_cast_eq_ok_iff {e : Encounter} {caster target : CombatantId} {spell : SpellId} :
    (∃ after, e.cast caster spell target = .ok after) ↔
      e.checkCast caster spell target = .ok () := by
  constructor
  · rintro ⟨after, hcast⟩
    cases hcheck : e.checkCast caster spell target with
    | ok passed => rfl
    | error cause =>
      rw [cast_of_check_error hcheck] at hcast
      cases hcast
  · intro hcheck
    obtain ⟨_, _, _, _, _, _, _, _, hcast⟩ := cast_of_check hcheck
    exact ⟨_, hcast⟩

/-- A cast succeeds if and only if it passes the check.  One that does not pass fails with the
    obstacle that the check names, and has changed nothing.  One that passes fails nowhere:
    everybody and everything is found again, the runes are paid, and the spell is cast. -/
theorem cast_all_or_nothing (e : Encounter) (caster : CombatantId) (spell : SpellId)
    (target : CombatantId) :
    ((∃ after, e.cast caster spell target = .ok after) ↔
      e.checkCast caster spell target = .ok ()) ∧
    (∀ cause, e.checkCast caster spell target = .error cause →
      e.cast caster spell target = .error cause ∧
      (castInPlace caster spell target).exec e = (.error cause, e)) ∧
    (e.checkCast caster spell target = .ok () →
      ∃ aimed c definition runes after, e.find target = .ok aimed ∧ e.find caster = .ok c ∧
        findSpell c caster spell = .ok definition ∧ e.payRunes c definition = .ok runes ∧
        e.cast caster spell target = .ok after ∧
        (castInPlace caster spell target).exec e = (.ok (), after)) := by
  refine ⟨exists_cast_eq_ok_iff, ?_, ?_⟩
  · intro cause hcheck
    exact ⟨cast_of_check_error hcheck, exec_castInPlace_of_check_error hcheck⟩
  · intro hcheck
    obtain ⟨aimed, c, definition, runes, haimed, hc, hdefinition, hpay, hcast⟩ :=
      cast_of_check hcheck
    have hpieces := exec_castInPlace hcheck haimed hc hdefinition hpay
    exact ⟨aimed, c, definition, runes, _, haimed, hc, hdefinition, hpay, hcast, hpieces⟩

/-- The knight can cast the plague on the dummy, but not on itself. -/
theorem cast_all_or_nothing_duel :
    (∃ after, duel.cast ⟨1⟩ plague.id ⟨0⟩ = .ok after ∧
      (castInPlace ⟨1⟩ plague.id ⟨0⟩).exec duel = (.ok (), after)) ∧
    duel.cast ⟨1⟩ plague.id ⟨1⟩ = .error (.invalidTarget ⟨1⟩) ∧
    (castInPlace ⟨1⟩ plague.id ⟨1⟩).exec duel = (.error (.invalidTarget ⟨1⟩), duel) := by
  have hpasses : duel.checkCast ⟨1⟩ plague.id ⟨0⟩ = .ok () := by decide
  have hrefused : duel.checkCast ⟨1⟩ plague.id ⟨1⟩ = .error (.invalidTarget ⟨1⟩) := by decide
  obtain ⟨_, _, hcarried⟩ := cast_all_or_nothing duel ⟨1⟩ plague.id ⟨0⟩
  obtain ⟨_, hnothing, _⟩ := cast_all_or_nothing duel ⟨1⟩ plague.id ⟨1⟩
  obtain ⟨_, _, _, _, after, _, _, _, _, hcast, hpieces⟩ := hcarried hpasses
  exact ⟨⟨after, hcast, hpieces⟩, hnothing _ hrefused⟩

end Encounter

end ActionPriority
