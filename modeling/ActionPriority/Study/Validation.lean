import ActionPriority.Json.Printer
import ActionPriority.Study.Basic

/-! # Validations

    A validation compiles the priority list of a study without running a trial, and lists
    the entries that take part and the messages that came up.  It passes if there is no
    warning among them.
-/

namespace ActionPriority

/-- What compiling a priority list came to. -/
structure Validation where
  /-- How many entries the list has. -/
  entries : Nat
  /-- The entries that take part, with their places. -/
  active : List (Nat × String)
  messages : List String
  /-- How many of the messages are warnings. -/
  warnings : Nat
  deriving DecidableEq, Repr

/-- Compiles the priority list of a study. -/
def Study.validation (s : Study) : Except StudyError Validation := do
  let (trial, diagnostics) ← s.begin (← s.settings) s.plan.seed
  return {
    entries := trial.rotation.entries.length
    active := trial.rotation.active.map fun (index, x) => (index, x.text)
    messages := diagnostics.messages.map Message.text
    warnings := diagnostics.warnings.length }

namespace Validation

/-- Does the list pass? -/
def passes (v : Validation) : Bool := v.warnings = 0

/-- What is said about a list that does not pass. -/
def complaint (v : Validation) : String :=
  "Rotation has " ++ toString v.warnings ++ " warning(s)"

/-! ### Writing -/

/-- A number that takes up three columns at least. -/
def place (index : Nat) : String :=
  let digits := toString index
  digits.pushn ' ' (3 - digits.length)

/-- The validation in lines. -/
def lines (v : Validation) : List String :=
  ("Entries: " ++ toString v.entries ++ " (" ++ toString v.active.length ++ " active)") ::
    (v.active.map fun (index, text) => "  #" ++ place index ++ " " ++ text) ++ v.messages

/-- The validation as a document. -/
def json (v : Validation) : Json :=
  .object
    [("entries", .ofNat v.entries),
      ("active", .array (v.active.map fun (index, text) =>
        .object [("index", .ofNat index), ("description", .string text)])),
      ("messages", .ofTexts v.messages), ("warnings", .ofNat v.warnings)]

end Validation

end ActionPriority
