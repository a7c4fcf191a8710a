import ActionPriority.Condition.Compile
import ActionPriority.Diagnostics
import ActionPriority.Encounter.Casting
import ActionPriority.PriorityList.Basic

/-! # Compiled Entries

    An entry of a priority list compiles on its own, against the scope of the caster.  It
    needs its action and, if it has one, its condition.  Both are looked at even if the
    first one fails, so that every fault of an entry is reported at once.
-/

namespace ActionPriority

/-! ### Actions -/

/-- A compiled action. -/
inductive Action where
  | cast (caster : CombatantId) (spell : SpellId) (label : String) (target : Cell)
  | wait (length : Time)

namespace Action

/-- Could the action be carried out now? -/
def isReady (a : Action) (e : Encounter) : Bool :=
  match a with
  | .cast caster spell _ target =>
    match target.resolve e with
    | some id => (e.checkCast caster spell id).isOk
    | none => false
  | .wait _ => true

/-- Carries the action out.  With the encounter it gives the instant until which the caster
    is to idle, if it is. -/
def execute (a : Action) (e : Encounter) : Except CastError (Encounter × Option Time) :=
  match a with
  | .cast caster spell _ target =>
    match target.resolve e with
    | some id => (e.cast caster spell id).map fun e => (e, none)
    | none => .error .noTarget
  | .wait length => .ok (e, some (e.clock + length))

/-- The text of an action. -/
def text : Action → String
  | .cast _ spell label target => "Cast " ++ label ++ " " ++ spell.text ++ " on " ++ target.text
  | .wait length => "Wait " ++ length.brief

end Action

/-! ### Entries -/

/-- A compiled entry. -/
structure Entry where
  id : Option Uuid
  condition : Option Test
  action : Action

namespace Entry

/-- Is the action wanted and ready now? -/
def shouldAct (x : Entry) (e : Encounter) : Bool :=
  x.condition.all (·.eval e) && x.action.isReady e

/-- The text of an entry. -/
def text (x : Entry) : String :=
  match x.condition with
  | some condition => x.action.text ++ " if " ++ condition.text
  | none => x.action.text

end Entry

/-! ### Compiling -/

namespace Scope

/-- Compiles an action.  Waiting has to take time. -/
def compileAction (s : Scope) : ActionSpec → Checked Action
  | .cast id target => do
    let spell ← s.spell id
    let target ← s.cell target
    return .cast s.caster id spell.label target
  | .wait seconds =>
    match Time.ofSeconds seconds with
    | .ok length => if length = Time.zero then .fail (.invalidWait seconds) else pure (.wait length)
    | .error _ => .fail (.invalidWait seconds)

/-- Compiles a condition that may be missing. -/
def compileCondition (s : Scope) : Option Expr → Checked (Option Test)
  | none => pure none
  | some x => (s.compileTest x).bind fun test => pure (some test)

/-- Compiles an entry.  A hidden one gives nothing and is not looked at. -/
def compileEntry (s : Scope) (spec : EntrySpec) : Checked Entry :=
  if spec.hidden then .silent
  else
    let action := s.compileAction spec.action
    let condition := s.compileCondition spec.condition
    { result := do return ⟨spec.id, ← condition.result, ← action.result⟩
      warnings := action.warnings ++ condition.warnings }

/-- The messages that come up while an entry is compiled. -/
def entryMessages (s : Scope) (spec : EntrySpec) : List Message :=
  (s.compileEntry spec).warnings.map fun w => ⟨.warning, spec.id, w.text⟩

end Scope

end ActionPriority
