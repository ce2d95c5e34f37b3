import PrimitiveSearch.CommandLine.Run
import PrimitiveSearch.CommandLine.Usage
import PrimitiveSearch.Rehearsal.FileTree

/-!
# The program

The outer layer of the command line: it reads the file of settings and the environment, and prints
what a call leaves behind.  It has no network and starts no other program, so that no task is ever
obtained.
-/

set_option autoImplicit false

namespace PrimitiveSearch.Program

/-- Why a file cannot be read. -/
def reasonOf : IO.Error → Text
  | .noFileOrDirectory _ _ _ => FileFault.notFound.message
  | .permissionDenied _ _ _ => FileFault.denied.message
  | .inappropriateType _ number words => FileFault.numbered words number.toNat
  | other => other.toString

/-- The text of a file. -/
def contentOf (file : Path) : IO (Except Text Text) := do
  try
    let bytes ← IO.FS.readBinFile (String.ofList file)
    match Text.ofBytes? bytes.toList with
    | some text => return .ok text
    | none => return .error FileFault.notText.message
  catch fault => return .error (reasonOf fault)

/-- The content of the file of settings, if one is named. -/
def settingsContent (arguments : List Text) : IO (Except Text Text) := do
  match CommandLine.read arguments with
  | .ok (.session options) =>
    match options.settings with
    | some file => contentOf file
    | none => return .error FileFault.notFound.message
  | _ => return .error FileFault.notFound.message

/-- What is said of a service that is not there. -/
def unavailable : Text := "not available"

/-- A machine with a single file, without network and without other programs. -/
def secluded (content : Except Text Text) : Host Unit where
  clock s := (Duration.zero, s)
  load _ s := (.quiet content, s)
  read _ s := (.quiet (.finished content), s)
  save _ _ _ s := (.quiet (.error unavailable), s)
  run _ _ s := (.quiet (.finished (.unstarted unavailable)), s)
  fetch _ s := (.quiet (.failed unavailable), s)

/-- The environment, as far as it matters. -/
def environment : IO (Text → Option Text) := do
  let model ← IO.getEnv (String.ofList Settings.modelVariable)
  let runner ← IO.getEnv (String.ofList Settings.runnerVariable)
  return fun name =>
    if name == Settings.modelVariable then model.map String.toList
    else if name == Settings.runnerVariable then runner.map String.toList
    else none

/-- Prints what a call leaves behind. -/
def print : CommandLine.Conclusion → IO Unit
  | .refused fault => IO.eprintln (String.ofList fault.message)
  | .help => IO.print (String.ofList CommandLine.usage)
  | .ended transcript => do
    IO.print (String.ofList transcript.output)
    IO.eprint (String.ofList transcript.complaints)

end PrimitiveSearch.Program

open PrimitiveSearch in
/-- A call of the command line. -/
def main (arguments : List String) : IO UInt32 := do
  let arguments := arguments.map String.toList
  let content ← Program.settingsContent arguments
  let place : Surroundings :=
    ⟨(← IO.currentDir).toString.toList, ← Program.environment, 1⟩
  match CommandLine.run (Program.secluded content) place arguments () with
  | none => return 1
  | some (conclusion, _) =>
    Program.print conclusion
    return conclusion.exitCode.toUInt32
