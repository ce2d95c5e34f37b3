import PrimitiveSearch.Path

/-!
# Settings

Everything that can be set, each setting optional.  What is set on the command line counts before
the environment, the environment before the file, and the file before what is usual.

* `Settings`, `BuildSettings`, `EngineSettings` — the settings in their sections.
* `Settings.withEnvironment` — the settings after a look at the environment.
-/

set_option autoImplicit false

namespace PrimitiveSearch

/-- Settings of the build. -/
structure BuildSettings where
  runtime : Option Text
  image : Option Text
  mountPoint : Option Text
  target : Option Text
  /-- The number of jobs at a time. -/
  parallelism : Option UInt64
  timeoutSeconds : Option UInt64
  deriving DecidableEq, Repr

/-- No settings of the build. -/
def BuildSettings.none : BuildSettings := ⟨.none, .none, .none, .none, .none, .none⟩

/-- Settings of the engine. -/
structure EngineSettings where
  binary : Option Path
  timeoutSeconds : Option UInt64
  deriving DecidableEq, Repr

/-- No settings of the engine. -/
def EngineSettings.none : EngineSettings := ⟨.none, .none⟩

/-- All settings. -/
structure Settings where
  model : Option Text
  maxIterations : Option UInt32
  timeBudgetSeconds : Option UInt64
  modelTimeoutSeconds : Option UInt64
  /-- The number of rounds that the history keeps. -/
  historyLimit : Option UInt64
  /-- Where prompts and answers are kept. -/
  artifactDirectory : Option Path
  /-- The root of the engine's source tree. -/
  sourceRoot : Option Path
  /-- The program that runs the model. -/
  modelRunner : Option Text
  /-- Where tasks are fetched from. -/
  taskBase : Option Text
  build : BuildSettings
  engine : EngineSettings
  deriving DecidableEq, Repr

namespace Settings

/-- No settings at all. -/
def none : Settings :=
  ⟨.none, .none, .none, .none, .none, .none, .none, .none, .none, BuildSettings.none,
    EngineSettings.none⟩

/-- The variable that names the model. -/
def modelVariable : Text := "PS_MODEL"

/-- The variable that names the runner of the model. -/
def runnerVariable : Text := "OLLAMA_BIN"

/-- The value of a variable, unless it consists of white space. -/
def variableValue (environment : Text → Option Text) (name : Text) : Option Text :=
  (environment name).filter fun value => !Text.isBlankText value

/-- The settings after a look at the environment. -/
def withEnvironment (s : Settings) (environment : Text → Option Text) : Settings :=
  { s with
    model := (variableValue environment modelVariable).or s.model
    modelRunner := (variableValue environment runnerVariable).or s.modelRunner }

end Settings

end PrimitiveSearch
