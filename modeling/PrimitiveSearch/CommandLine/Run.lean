import PrimitiveSearch.CommandLine.Reading
import PrimitiveSearch.Session.Basic
import PrimitiveSearch.Settings.Derived
import PrimitiveSearch.Settings.Source

/-!
# The command line

* `Surroundings` — what a program is told of the place where it is called.
* `CommandLine.session` — the session that options and settings describe.
* `CommandLine.Conclusion` — how a call ends, with `Conclusion.exitCode`.
* `CommandLine.run` — a whole call.
-/

set_option autoImplicit false

namespace PrimitiveSearch

/-- What a program is told of the place where it is called. -/
structure Surroundings where
  /-- The directory that work is done in. -/
  workingDirectory : Path
  /-- The values of the variables of the environment. -/
  environment : Text → Option Text
  /-- The number of processors. -/
  processors : Nat

namespace CommandLine

/-- The folder of tasks when none is named. -/
def defaultFolder : Text := "training"

/-- The tasks when none is named. -/
def defaultIds : List Text := ["3c9b0459", "0d3d703e", "253bf280"]

/-- Where the answers of the model come from. -/
def modelSource (o : Options) (s : Settings) : Model.Source :=
  match o.kept with
  | some file => .kept file
  | none => .runner s.runner

/-- The programs and files of a session. -/
def equipment (p : Surroundings) (o : Options) (s : Settings) : Search.Equipment where
  build := s.buildPlan p.processors
  workingDirectory := p.workingDirectory
  engine := s.engineBinary
  model := modelSource o s

/-- The session that options and settings describe. -/
def session (p : Surroundings) (o : Options) (s : Settings) : Session where
  base := s.base
  folder := o.folder.getD defaultFolder
  ids := if o.ids.isEmpty then defaultIds else o.ids
  limits := s.limits
  stages := s.stageLimits
  layout := s.layout
  equipment := equipment p o s

/-- How a call ends. -/
inductive Conclusion where
  /-- The command line was refused. -/
  | refused (fault : Fault)
  /-- The options were told. -/
  | help
  /-- A session, or what kept it from its beginning. -/
  | ended (transcript : Transcript)
  deriving DecidableEq, Repr

/-- The exit code of a call. -/
def Conclusion.exitCode : Conclusion → Nat
  | .refused _ => 2
  | .help => 0
  | .ended transcript => if transcript.succeeded then 0 else 1

/-- What is left behind when the settings cannot be had. -/
def unsettled (fault : Settings.Fault) : Transcript := ⟨[], Visit.fatalLine fault.message, false⟩

variable {σ : Type}

/-- The settings in the file that the options name; none if they name none. -/
def loadSettings (h : Host σ) (o : Options) (m : Search.Machine σ) :
    Except Settings.Fault Settings × Search.Machine σ :=
  match o.settings with
  | none => (.ok Settings.none, m)
  | some file =>
    let (content, m) := m.observe (h.load file)
    (Settings.ofFile file content, m)

/-- A session with options; nothing if it never ends. -/
def runSession (h : Host σ) (p : Surroundings) (o : Options) (m : Search.Machine σ) :
    Option (Transcript × Search.Machine σ) :=
  match loadSettings h o m with
  | (.error fault, m) => some (unsettled fault, m)
  | (.ok settings, m) =>
    Session.run h (session p o (o.override (settings.withEnvironment p.environment))) m

/-- A call with arguments; nothing if it never ends. -/
def run (h : Host σ) (p : Surroundings) (arguments : List Text) (s : σ) :
    Option (Conclusion × σ) :=
  match read arguments with
  | .error fault => some (.refused fault, s)
  | .ok .help => some (.help, s)
  | .ok (.session o) =>
    (runSession h p o ⟨s, false, []⟩).map fun (transcript, m) => (.ended transcript, m.world)

end CommandLine

end PrimitiveSearch
