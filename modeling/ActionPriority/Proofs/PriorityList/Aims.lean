import ActionPriority.Proofs.PriorityList.Lockstep

/-! # Aims

    Casts and jumps of the clock leave everybody standing as they stand: with the same identity
    and role, in the fight or out of it, and with the same aim (`Combatant.Stance`).  One such
    operation keeps all stances (`Encounter.stances_perform`).  A cell is looked up by identities
    and aims alone, so whatever is cast and however much time passes, it stands for the same
    combatant (`Cell.resolve_run`).
-/

namespace ActionPriority

open Encounter (Op)

/-- What neither casting nor time changes about a combatant. -/
structure Combatant.Stance where
  id : CombatantId
  role : Role
  enabled : Bool
  aim : Option CombatantId

/-- The stance of a combatant. -/
def Combatant.stance (c : Combatant) : Stance where
  id := c.id
  role := c.role
  enabled := c.enabled
  aim := c.aim

namespace Encounter

variable {e : Encounter} {op : Op}

/-- A cast or a jump keeps all stances. -/
theorem stances_perform (h : op.IsCastOrJump) :
    (e.perform op).combatants.map Combatant.stance = e.combatants.map Combatant.stance := by
  cases op with
  | cast caster spell target =>
    rw [perform]
    cases hcast : e.cast caster spell target with
    | error cause => rfl
    | ok after => exact map_combatants_cast (fun _ _ _ _ _ => rfl) hcast
  | advanceTo t => exact map_combatants_advanceTo (fun _ _ => rfl) t
  | addPlayer label stats | addTarget label stats => exact h.elim
  | setEnabled id enabled | setAim id aim => exact h.elim
  | setStats id stats | learn id spell | setRunes id runes | moveRunes id m => exact h.elim

/-- Everybody is found again with the same stance. -/
theorem stance?_perform (h : op.IsCastOrJump) (id : CombatantId) :
    ((e.perform op).combatant? id).map Combatant.stance =
      (e.combatant? id).map Combatant.stance :=
  map_combatant?_of_map (stances_perform h) id

end Encounter

namespace Cell

variable {e : Encounter}

/-- A cell is looked up in the stances. -/
theorem resolve_congr {e' : Encounter}
    (h : ∀ id, (e'.combatant? id).map Combatant.stance = (e.combatant? id).map Combatant.stance)
    (cell : Cell) : cell.resolve e' = cell.resolve e := by
  cases cell with
  | fixed id =>
    have hid := congrArg (Option.map Combatant.Stance.id) (h id)
    rw [Option.map_map, Option.map_map] at hid
    exact hid
  | aimOf caster =>
    have haim := congrArg (Option.bind · Combatant.Stance.aim) (h caster)
    simp only [Option.bind_map] at haim
    exact haim

/-- Changes that keep the stance of a combatant are not seen. -/
theorem resolve_modify {f : Combatant → Combatant} (hf : ∀ c, (f c).stance = c.stance)
    (id : CombatantId) (cell : Cell) : cell.resolve (e.modify id f) = cell.resolve e := by
  refine resolve_congr (fun other => ?_) cell
  rw [Encounter.combatant?_modify, Option.map_map]
  refine congrArg (Option.map · (e.combatant? other)) (funext fun c => ?_)
  rw [Function.comp_apply]
  split
  · exact hf c
  · rfl

/-- A cell stands for the same combatant after a cast or a jump. -/
theorem resolve_perform {op : Op} (h : op.IsCastOrJump) (cell : Cell) :
    cell.resolve (e.perform op) = cell.resolve e :=
  resolve_congr (Encounter.stance?_perform h) cell

/-- It stands for the same combatant however many of them follow. -/
theorem resolve_run {ops : List Op} (hops : ∀ op ∈ ops, op.IsCastOrJump) (cell : Cell) :
    cell.resolve (e.run ops) = cell.resolve e := by
  have hkeeps : ∀ (after : Encounter) (op : Op), op.IsCastOrJump →
      cell.resolve after = cell.resolve e → cell.resolve (after.perform op) = cell.resolve e :=
    fun _ _ hop hsame => (resolve_perform hop cell).trans hsame
  exact Encounter.keeps_run hkeeps rfl hops

end Cell

end ActionPriority
