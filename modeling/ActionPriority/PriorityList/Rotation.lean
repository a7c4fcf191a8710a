import ActionPriority.Encounter.Clock
import ActionPriority.PriorityList.Entry

/-! # Rotations

    A rotation is a compiled priority list at work.  At a decision point it goes through
    its entries from the top and carries out the first one whose condition holds and
    whose action is ready.  Entries that did not compile keep their places, so that
    indices are those of the list as written, but they never act.

    Its phases are

    * `idle`: nothing to do, or told to wait,
    * `evaluating`: between two actions,
    * `selected` and `executing`: an entry has been found, and is being carried out.
-/

namespace ActionPriority

/-! ### State -/

/-- What a rotation is doing. -/
inductive Phase where
  | idle
  | evaluating
  | selected (index : Nat)
  | executing (index : Nat)
  deriving DecidableEq, Repr

namespace Phase

/-- The name of a phase. -/
def name : Phase → String
  | .idle => "Idle"
  | .evaluating => "Evaluating"
  | .selected _ => "ActionSelected"
  | .executing _ => "ActionExecuting"

/-- The entry that a phase is about. -/
def index? : Phase → Option Nat
  | .idle => none
  | .evaluating => none
  | .selected index => some index
  | .executing index => some index

/-- The name of a phase with the entry that it is about. -/
def text (p : Phase) : String :=
  match p.index? with
  | some index => p.name ++ " \x7b index: " ++ toString index ++ " \x7d"
  | none => p.name

end Phase

/-- A compiled priority list and where it stands. -/
structure Rotation where
  caster : CombatantId
  /-- The entries as listed, those that did not compile left empty. -/
  entries : List (Option Entry)
  phase : Phase := .idle
  /-- The instant until which the rotation idles, once it was told to. -/
  waitUntil : Option Time := none

/-- The caster of a rotation is not there. -/
structure UnknownCaster where
  id : CombatantId
  deriving DecidableEq, Repr

/-- The wording of it. -/
def UnknownCaster.message (u : UnknownCaster) : String :=
  "rotation caster " ++ u.id.text ++ " does not exist"

/-- What one decision point came to. -/
inductive Decision where
  | executed (index : Nat)
  | nothingReady
  /-- The entry was found, and then turned out not to work. -/
  | failed (index : Nat) (cause : CastError)
  deriving DecidableEq

namespace Rotation

/-! ### Compiling -/

/-- Compiles a priority list for a caster.  An entry that does not compile leaves its place
    empty; only a missing caster is an error. -/
def compile (list : PriorityList) (e : Encounter) (caster : CombatantId) (catalog : Catalog) :
    Except UnknownCaster (Rotation × Diagnostics) :=
  match e.combatant? caster with
  | none => .error ⟨caster⟩
  | some _ =>
    let scope := Scope.of e caster catalog
    .ok
      ({ caster, entries := list.entries.map fun spec => (scope.compileEntry spec).result },
        ⟨list.entries.flatMap scope.entryMessages⟩)

/-- The entries that compiled, with their places. -/
def active (r : Rotation) : List (Nat × Entry) :=
  r.entries.zipIdx.filterMap fun (entry, index) => entry.map fun x => (index, x)

/-! ### Decisions -/

/-- The first entry that would act now. -/
def firstReady (r : Rotation) (e : Encounter) : Option (Nat × Entry) :=
  r.active.find? fun (_, x) => x.shouldAct e

/-- Looks for the entry to act, and notes what was found. -/
def select (r : Rotation) (e : Encounter) : Option Nat × Rotation :=
  match r.firstReady e with
  | some (index, _) => (some index, { r with phase := .selected index })
  | none => (none, { r with phase := .idle })

/-- Is the rotation told to wait beyond now? -/
def isWaiting (r : Rotation) (e : Encounter) : Bool := r.waitUntil.any (e.clock < ·)

/-- One decision point: finds the entry to act and carries it out. -/
def act (r : Rotation) (e : Encounter) : Decision × Rotation × Encounter :=
  if r.isWaiting e then (.nothingReady, { r with phase := .idle }, e)
  else
    match r.firstReady e with
    | none => (.nothingReady, { r with phase := .idle, waitUntil := none }, e)
    | some (index, x) =>
      match x.action.execute e with
      | .ok (after, wait) => (.executed index, { r with phase := .evaluating, waitUntil := wait }, after)
      | .error cause => (.failed index cause, { r with phase := .evaluating, waitUntil := none }, e)

/-- The first instant at which the rotation could find something else. -/
def nextDecision (r : Rotation) (e : Encounter) : Time :=
  match r.waitUntil with
  | some wake => if e.clock < wake then min e.nextEvent wake else e.nextEvent
  | none => e.nextEvent

end Rotation

end ActionPriority
