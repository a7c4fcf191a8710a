import ActionPriority.Condition.Node

/-! # Warnings

    What can be wrong with an entry of a priority list.  A warning names its cause and
    whatever it is about; the wording is put together last, by `Warning.text`.
-/

namespace ActionPriority

/-- A reason why an expression or an action does not compile, or not in full. -/
inductive Warning where
  /-- A constant is no length of time. -/
  | invalidSeconds (seconds : Float)
  /-- A conjunction has no operands. -/
  | noOperands
  /-- A disjunction has no operand that compiles to a test. -/
  | noValidOperands
  /-- The two sides of a comparison are of kinds that are not compared. -/
  | incomparable (lhs rhs : Node)
  /-- A node is not of the kind that its place asks for. -/
  | mismatch (cause : KindMismatch)
  /-- The catalog has no form of that name. -/
  | unregistered (form : Form)
  /-- The roster has no such place. -/
  | noTarget (place : Nat)
  /-- The caster does not know the spell. -/
  | unknownSpell (caster : String) (spell : SpellId)
  /-- The spell has no periodic effect. -/
  | notPeriodic (spell : String)
  /-- There is no periodic effect on any target. -/
  | noEffects (spell : SpellId)
  /-- The caster has no rune bar. -/
  | noRunes (caster : String)
  /-- There is no rune slot of that number. -/
  | noSlot (slot : UInt8)
  /-- An action waits for nothing, or for what is no length of time. -/
  | invalidWait (seconds : Float)

/-- The wording of a warning. -/
def Warning.text : Warning → String
  | .invalidSeconds seconds => "Invalid duration constant " ++ Binary64.plain seconds
  | .noOperands => "And has no operands"
  | .noValidOperands => "Or has no valid operands"
  | .incomparable lhs rhs =>
    "Cannot compare " ++ lhs.kind.name ++ " value \x60" ++ lhs.text ++ "\x60 with " ++
      rhs.kind.name ++ " value \x60" ++ rhs.text ++ "\x60"
  | .mismatch cause => cause.message
  | .unregistered form => "No value constructor registered for " ++ form.name
  | .noTarget place => "No encounter target at index " ++ toString place
  | .unknownSpell caster spell => caster ++ " does not know spell " ++ spell.text
  | .notPeriodic spell => spell ++ " has no periodic effect"
  | .noEffects spell => "Could not find a DoT for " ++ spell.text ++ " on Target(s)"
  | .noRunes caster => caster ++ " does not use Runes"
  | .noSlot slot => "Rune slot " ++ toString slot.toNat ++ " is out of range (1-6)"
  | .invalidWait seconds => "Invalid wait duration " ++ Binary64.plain seconds

/-! ### Results with warnings -/

/-- A result, if there is one, and the warnings on the way to it. -/
structure Checked (α : Type) where
  result : Option α
  warnings : List Warning

namespace Checked

variable {α β : Type}

/-- A result without warnings. -/
def pure (a : α) : Checked α := ⟨some a, []⟩

/-- No result, for one reason. -/
def fail (w : Warning) : Checked α := ⟨none, [w]⟩

/-- No result, for reasons that are told elsewhere. -/
def silent : Checked α := ⟨none, []⟩

/-- Continues with the result, if there is one. -/
def bind (c : Checked α) (f : α → Checked β) : Checked β :=
  match c.result with
  | none => ⟨none, c.warnings⟩
  | some a => ⟨(f a).result, c.warnings ++ (f a).warnings⟩

instance : Monad Checked where
  pure := Checked.pure
  bind := Checked.bind

@[simp] theorem result_pure (a : α) : (Pure.pure a : Checked α).result = some a := rfl

@[simp] theorem warnings_pure (a : α) : (Pure.pure a : Checked α).warnings = [] := rfl

@[simp] theorem result_bind (c : Checked α) (f : α → Checked β) :
    (c >>= f).result = c.result.bind fun a => (f a).result := by
  show (Checked.bind c f).result = _
  unfold Checked.bind
  split <;> simp_all

/-- The result, or the warning if there is none. -/
def ofOption (w : Warning) : Option α → Checked α
  | some a => pure a
  | none => fail w

end Checked

end ActionPriority
