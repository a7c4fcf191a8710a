import ActionPriority.Command.Basic

/-! # Arguments

    A command is given by its name, one data directory, and options with a value each.
    An option goes by a letter behind `-` or by a word behind `--`.  Its value follows as
    an argument of its own that does not look like an option, or is attached: behind the
    letter, with or without `=`, or behind the word and `=`.  No option is given twice.
    Behind `--` there are no more options.
-/

namespace ActionPriority

namespace Command

/-- The options of commands. -/
inductive Switch where
  | iterations
  | duration
  | seed
  | threads
  | format
  deriving DecidableEq, Repr

namespace Switch

/-- The letter of an option. -/
def letter : Switch → Char
  | .iterations => 'n'
  | .duration => 'd'
  | .seed => 's'
  | .threads => 'j'
  | .format => 'f'

/-- The word of an option. -/
def word : Switch → String
  | .iterations => "iterations"
  | .duration => "duration"
  | .seed => "seed"
  | .threads => "threads"
  | .format => "format"

end Switch

/-! ### Shapes of arguments -/

/-- What an argument looks like. -/
inductive Shape where
  | operand
  /-- An option, with its value if that is attached. -/
  | switch (s : Switch) (attached : Option String)
  | endOfOptions
  | unknown
  deriving DecidableEq, Repr

/-- The text behind a sign of equality, which stands first. -/
def behindEquals : List Char → List Char
  | '=' :: value => value
  | value => value

/-- What an argument looks like to a command that knows some options. -/
def shapeOf (known : List Switch) (argument : String) : Shape :=
  match argument.toList with
  | ['-'] => .operand
  | ['-', '-'] => .endOfOptions
  | '-' :: '-' :: rest =>
    let word := String.ofList (rest.takeWhile (· ≠ '='))
    match known.find? (·.word = word), rest.dropWhile (· ≠ '=') with
    | none, _ => .unknown
    | some s, [] => .switch s none
    | some s, _ :: value => .switch s (some (String.ofList value))
  | '-' :: letter :: rest =>
    match known.find? (·.letter = letter), rest with
    | none, _ => .unknown
    | some s, [] => .switch s none
    | some s, value => .switch s (some (String.ofList (behindEquals value)))
  | _ => .operand

/-- Arguments that have been told apart. -/
structure Given where
  operands : List String := []
  values : List (Switch × String) := []
  deriving DecidableEq, Repr

namespace Given

/-- One more operand in front. -/
def withOperand (text : String) (g : Given) : Given := { g with operands := text :: g.operands }

/-- One more value in front. -/
def withValue (s : Switch) (value : String) (g : Given) : Given :=
  { g with values := (s, value) :: g.values }

end Given

/-- Tells arguments apart. -/
def given? (known : List Switch) : List String → Option Given
  | [] => some {}
  | argument :: rest =>
    match shapeOf known argument with
    | .operand => (given? known rest).map (·.withOperand argument)
    | .switch s (some value) => (given? known rest).map (·.withValue s value)
    | .switch s none =>
      match rest with
      | [] => none
      | value :: rest =>
        if shapeOf known value = .operand then (given? known rest).map (·.withValue s value)
        else none
    | .endOfOptions => some { operands := rest }
    | .unknown => none

/-! ### Values -/

/-- The number of decimal digits, with at most a plus before them, that fits into so many
    bits. -/
def natural? (bits : Nat) (text : String) : Option Nat :=
  let digits := match text.toList with
    | '+' :: rest => rest
    | cs => cs
  if digits.isEmpty || !digits.all Char.isDigit then none
  else
    let n := Binary64.digitsValue digits
    if n < Nat.pow 2 bits then some n else none

/-- A count.  Zero may have a minus before it. -/
def count? (text : String) : Option UInt32 :=
  match text.toList with
  | '-' :: digits =>
    if !digits.isEmpty && digits.all (· = '0') then some 0 else none
  | _ => (natural? 32 text).map UInt32.ofNat

/-- The format of that name. -/
def format? : String → Option OutputFormat
  | "summary" => some .summary
  | "json" => some .json
  | _ => none

namespace Given

/-- The value of an option as `read` takes it, if the option is given. -/
def value? {α : Type} (g : Given) (s : Switch) (read : String → Option α) : Option (Option α) :=
  match g.values.lookup s with
  | none => some none
  | some text => (read text).map some

/-- The data directory: the one operand there is. -/
def directory? (g : Given) : Option String :=
  match g.operands with
  | [path] => if path.isEmpty then none else some path
  | _ => none

end Given

/-- Arguments of which no option is given twice. -/
def distinct? (known : List Switch) (arguments : List String) : Option Given :=
  (given? known arguments).filter fun g => (g.values.map Prod.fst).Nodup

/-! ### Commands -/

/-- The command of a run. -/
def runOf? (arguments : List String) : Option Command := do
  let g ← distinct? [.iterations, .duration, .seed, .threads, .format] arguments
  let directory ← g.directory?
  let overrides : Overrides := {
    iterations := ← g.value? .iterations count?
    durationSeconds := ← g.value? .duration fun text => Binary64.read? text.toList
    seed := ← g.value? .seed fun text => (natural? 64 text).map UInt64.ofNat
    threads := ← g.value? .threads fun text => (natural? 64 text).map UInt64.ofNat }
  let format ← g.value? .format format?
  return .run directory overrides (format.getD .summary)

/-- The command of a validation. -/
def validateOf? (arguments : List String) : Option Command := do
  let g ← distinct? [.format] arguments
  let directory ← g.directory?
  let format ← g.value? .format format?
  return .validate directory (format.getD .summary)

/-- The command that some arguments ask for. -/
def ofArguments? : List String → Option Command
  | "run" :: arguments => runOf? arguments
  | "validate" :: arguments => validateOf? arguments
  | _ => none

/-- How commands are given. -/
def usage : String :=
  "Usage: apl-sim run [-n N] [-d SECS] [-s SEED] [-j N] [-f summary|json] DATA_DIR\n" ++
  "       apl-sim validate [-f summary|json] DATA_DIR\n"

end Command

end ActionPriority
