import ActionPriority.Ron.Scenario
import ActionPriority.Study.Basic
import ActionPriority.Toml.TrialPlan

/-! # Data Directories

    A study is kept in a directory of three files: the scenario, the priority list, and,
    if the usual plan does not do, the settings.  They are read in this order, and the
    first that cannot be read or understood is the one that is reported.
-/

namespace ActionPriority

/-- Why a file cannot be read. -/
inductive ReadError where
  | missing
  /-- A file stands where the path needs a directory. -/
  | notDirectory
  | isDirectory
  | denied
  /-- The path, or a part of it, is longer than the system allows. -/
  | nameTooLong
  /-- The path has a character that ends a path for the system. -/
  | brokenPath
  /-- The bytes are not those of a text. -/
  | notText
  | other (reason : String)
  deriving DecidableEq, Repr

namespace ReadError

/-- The wording of it. -/
def message : ReadError → String
  | .missing => "No such file or directory (os error 2)"
  | .notDirectory => "Not a directory (os error 20)"
  | .isDirectory => "Is a directory (os error 21)"
  | .denied => "Permission denied (os error 13)"
  | .nameTooLong => "File name too long (os error 36)"
  | .brokenPath => "file name contained an unexpected NUL byte"
  | .notText => "stream did not contain valid UTF-8"
  | .other reason => reason

/-- Is there no such file? -/
def isAbsence : ReadError → Bool
  | .missing => true
  | .notDirectory => true
  | .nameTooLong => true
  | .brokenPath => true
  | _ => false

end ReadError

/-- The kinds of files in a data directory. -/
inductive DataFile where
  | scenario
  | rotation
  | config
  deriving DecidableEq, Repr

namespace DataFile

/-- The name of a file. -/
def name : DataFile → String
  | .scenario => "scenario.ron"
  | .rotation => "rotation.ron"
  | .config => "config.toml"

/-- What is said about a file that makes no sense. -/
def complaint : DataFile → String
  | .scenario => "Failed to parse scenario RON"
  | .rotation => "Failed to parse rotation RON"
  | .config => "Failed to parse config TOML"

/-- The path of a file in a directory. -/
def path (f : DataFile) (directory : String) : String :=
  if directory.toList.getLast? = some '/' then directory ++ f.name
  else directory ++ "/" ++ f.name

end DataFile

/-- A directory, with what reading each of its files came to. -/
structure DataDirectory where
  path : String
  scenario : Except ReadError String
  rotation : Except ReadError String
  config : Except ReadError String

/-- What went wrong, from the outermost account of it to the innermost cause. -/
abbrev Failure := List String

namespace DataDirectory

/-- The directory of that path, whose files `read` gives.  It is not asked for what no file can
    be called. -/
def collect {m : Type → Type} [Monad m] (read : String → m (Except ReadError String))
    (path : String) : m DataDirectory := do
  let content (f : DataFile) : m (Except ReadError String) :=
    if path.toList.contains '\x00' then return .error .brokenPath else read (f.path path)
  return {
    path
    scenario := ← content .scenario
    rotation := ← content .rotation
    config := ← content .config }

/-- The text of a file, as `parse` understands it. -/
def understand {α : Type} (d : DataDirectory) (f : DataFile)
    (content : Except ReadError String) (parse : String → Option α) : Except String α :=
  match content with
  | .error cause => .error ("Failed to read file " ++ f.path d.path ++ ": " ++ cause.message)
  | .ok text =>
    match parse text with
    | some a => .ok a
    | none => .error f.complaint

/-- The plan of the settings, or the usual one if there are none. -/
def plan (d : DataDirectory) : Except String TrialPlan :=
  match d.config with
  | .ok text => d.understand .config (.ok text) TrialPlan.ofToml?
  | .error cause => if cause.isAbsence then .ok {} else d.understand .config d.config fun _ => none

/-- The study that is kept in a directory. -/
def study (d : DataDirectory) : Except Failure Study := do
  let scenario ← (d.understand .scenario d.scenario Scenario.ofRon?).mapError fun e =>
    ["loading scenario from " ++ d.path, e]
  let list ← (d.understand .rotation d.rotation PriorityList.ofRon?).mapError fun e =>
    ["loading rotation from " ++ d.path, e]
  let plan ← d.plan.mapError ([·])
  return { scenario, list, plan }

end DataDirectory

end ActionPriority
