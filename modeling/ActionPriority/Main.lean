import ActionPriority.Command.Arguments

/-! # The Program

    Reads the files that a command needs, carries the command out, and shows what came of
    it.
-/

namespace ActionPriority

/-- Reads a file as text. -/
def readText (path : String) : IO (Except ReadError String) := do
  try
    match String.fromUTF8? (← IO.FS.readBinFile path) with
    | some text => return .ok text
    | none => return .error .notText
  catch
    | .noFileOrDirectory .. => return .error .missing
    | .inappropriateType _ code _ =>
      return .error (if code = 21 then .isDirectory else .notDirectory)
    | .permissionDenied .. => return .error .denied
    | .invalidArgument (some _) 36 _ => return .error .nameTooLong
    | e => return .error (.other (toString e))

/-- Shows what went wrong. -/
def showFailure (failure : Failure) : IO Unit :=
  match failure with
  | [] => pure ()
  | outermost :: causes => do
    IO.eprintln ("Error: " ++ outermost)
    if !causes.isEmpty then
      IO.eprintln "\nCaused by:"
      for cause in causes do
        IO.eprintln ("    " ++ cause)

end ActionPriority

open ActionPriority

/-- Carries out the command of the arguments.  The status is 2 if there is no such command. -/
def main (arguments : List String) : IO UInt32 := do
  match Command.ofArguments? arguments with
  | none =>
    IO.eprint Command.usage
    return 2
  | some command =>
    let directory ← DataDirectory.collect readText command.directory
    let outcome := command.execute directory
    IO.print outcome.output
    showFailure outcome.failure
    return outcome.status.toUInt32
