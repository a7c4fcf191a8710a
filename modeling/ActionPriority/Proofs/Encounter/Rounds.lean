import ActionPriority.Proofs.Encounter.Ticks

/-! # Rounds

    A round of advancing looks up once more the effect whose tick it has found, and asks it to
    tick.  So there are two ways in which a round could give up, and the loop with it: the
    effect could be gone, or it could have no tick that is due.

    `Encounter.round` is a round with these exits.  A tick that was found pending takes neither
    (`round_of_mem_pending`), so the loop goes on until nothing is due (`rounds_fireUntil`), and
    the whole of what it comes to is `Encounter.advanceTo_fires_due`.
-/

namespace ActionPriority

/-- The effect after a tick at `now`, unless it has none that is due. -/
def Effect.tickAt? (f : Effect) (now : Time) : Option Effect :=
  f.schedule.bind fun s => if now < s.nextTick then none else some f.tick

namespace Encounter

/-! ### One round -/

/-- Why a round could give up. -/
inductive Stall where
  /-- The caster has no such effect. -/
  | gone
  /-- The effect has no tick that is due. -/
  | notDue
  deriving DecidableEq, Repr

/-- A round of advancing: the effect is looked up, it ticks, and its hit is rolled. -/
def round (e : Encounter) (p : PendingTick) : Except Stall Encounter :=
  match e.effect? ⟨p.owner⟩ p.key.spell p.key.target with
  | none => .error .gone
  | some f =>
    match f.tickAt? p.due with
    | none => .error .notDue
    | some ticked =>
      let (hit, dice) := Damage.roll e.dice ticked.snapshot.tickDamage ticked.snapshot.critChance
      .ok
        { e with
          clock := max e.clock p.due
          combatants := e.combatants.modify p.owner (·.adjustEffect p.key fun _ => ticked)
          damage := e.damage + hit
          dice }

/-- Putting the ticked effect in its place is making it tick there. -/
theorem adjustEffect_const {c : Combatant} {key : EffectKey} {f : Effect}
    (hk : (key, f) ∈ c.effects.entries) :
    (c.adjustEffect key fun _ => f.tick) = c.adjustEffect key Effect.tick := by
  have heffects : c.effects.mapValues (fun k g => if k = key then f.tick else g) =
      c.effects.mapValues fun k g => if k = key then g.tick else g := by
    apply Table.ext
    refine List.map_congr_left ?_
    rintro ⟨key', g⟩ hx
    by_cases hkey : key' = key
    · subst hkey
      obtain rfl := Table.eq_of_mem hx hk
      rfl
    · simp only [hkey, if_false]
  unfold Combatant.adjustEffect
  rw [heffects]

/-- A pending tick is found again, and its effect ticks. -/
theorem round_of_mem_pending {e : Encounter} {p : PendingTick} (h : p ∈ e.pending) :
    e.round p = .ok (e.fire p) := by
  obtain ⟨c, s, hc, hk, hs, hdue⟩ := mem_pending h
  -- The first exit: the table still has the effect under its key.
  have hfound : e.effect? ⟨p.owner⟩ p.key.spell p.key.target = some p.effect := by
    rw [effect?, combatant?, hc]
    exact Table.find?_of_mem hk
  -- The second exit: the round is at the very instant for which the effect is scheduled.
  have hticks : p.effect.tickAt? p.due = some p.effect.tick := by
    rw [Effect.tickAt?, hs, Option.bind_some, hdue]
    exact if_neg (Nat.lt_irrefl _)
  -- The effect that is put back is the one that firing puts there.
  have hplaced : e.combatants.modify p.owner (·.adjustEffect p.key fun _ => p.effect.tick) =
      e.combatants.modify p.owner (·.adjustEffect p.key Effect.tick) :=
    modify_congr_of_eq hc (adjustEffect_const hk)
  unfold round
  rw [hfound]
  dsimp only
  rw [hticks]
  dsimp only
  rw [hplaced]
  rfl

/-! ### All rounds -/

/-- Rounds follow one another until nothing is due by `limit`, and none of them gives up.  The
    list has the ticks that fire. -/
inductive Rounds (limit : Time) : Encounter → List Tick → Encounter → Prop where
  | done {e : Encounter} : e.nextDue? limit = none → Rounds limit e [] e
  | round {e next after : Encounter} {p : PendingTick} {log : List Tick} :
      e.nextDue? limit = some p → e.round p = .ok next → Rounds limit next log after →
        Rounds limit e (p.tick :: log) after

theorem rounds_fireUntil (e : Encounter) (limit : Time) :
    Rounds limit e (e.firings limit) (e.fireUntil limit) := by
  fun_induction fireUntil e limit with
  | case1 e hnone =>
    rw [firings_of_none hnone]
    exact Rounds.done hnone
  | case2 e p hsome ih =>
    rw [firings_of_some hsome]
    exact Rounds.round hsome (round_of_mem_pending (nextDue?_mem hsome)) ih

/-- What firing all due ticks makes of an encounter. -/
structure FiresDue (e : Encounter) (limit : Time) (log : List Tick) (after : Encounter) :
    Prop where
  /-- Every tick that is scheduled by the limit fires once, and no other tick does. -/
  complete : log.Perm (e.scheduled.filter (·.due ≤ limit))
  ordered : log.Pairwise Tick.Before
  /-- The hits are rolled and added up in that order. -/
  rolled : (after.damage, after.dice) = log.foldl Tick.roll (e.damage, e.dice)
  /-- Each tick takes one draw. -/
  drawn : after.dice = ⟨e.dice.key, e.dice.drawn + log.length⟩
  /-- No effect has a tick left that is due. -/
  nothingDue : ∀ c ∈ after.combatants, ∀ f ∈ c.effects.values, ∀ s ∈ f.schedule,
    limit < s.nextTick
  clock : after.clock = max e.clock limit
  /-- Of the combatants only effects change, each by its own due ticks. -/
  combatants : after.combatants = e.combatants.map (·.through limit)
  roster : after.roster = e.roster
  casts : after.casts = e.casts
  settings : after.settings = e.settings

theorem firesDue_advanceTo (e : Encounter) (t : Time) :
    e.FiresDue (min t e.endTime) (e.firings (min t e.endTime)) (e.advanceTo t) := by
  have hrolled := e.rolls_fireUntil (min t e.endTime)
  exact
    { complete := e.firings_perm _
      ordered := e.firings_pairwise _
      rolled := hrolled
      drawn := (congrArg Prod.snd hrolled).trans (dice_foldl_roll ..)
      nothingDue := nextDue?_eq_none.mp (e.nextDue?_fireUntil _)
      clock := e.clock_advanceTo t
      combatants := e.combatants_fireUntil _
      roster := e.roster_fireUntil _
      casts := e.casts_fireUntil _
      settings := e.settings_advanceTo t }

/-- Advancing comes to an end after rounds of which none gives up.  It fires exactly the ticks
    that are scheduled by the limit, in order, and changes nothing else but the clock. -/
theorem advanceTo_fires_due (e : Encounter) (t : Time) :
    ∃ log fired, Rounds (min t e.endTime) e log fired ∧
      e.advanceTo t = { fired with clock := max fired.clock (min t e.endTime) } ∧
      e.FiresDue (min t e.endTime) log (e.advanceTo t) :=
  ⟨e.firings _, e.fireUntil _, e.rounds_fireUntil _, rfl, e.firesDue_advanceTo t⟩

end Encounter

end ActionPriority
