import PrimitiveSearch.Pipeline.Build
import PrimitiveSearch.Pipeline.Run
import PrimitiveSearch.Search.Plan
import PrimitiveSearch.Settings.Basic
import PrimitiveSearch.Task.Source

/-!
# What follows from the settings

* `Settings.limits`, `Settings.stageLimits` — the limits of a search and of its stages.
* `Settings.layout`, `Settings.buildPlan`, `Settings.engineBinary` — files and programs.
* `Settings.runner`, `Settings.base` — where answers and tasks come from.
-/

set_option autoImplicit false

namespace PrimitiveSearch.Settings

/-- An optional number of seconds as a limit. -/
def limitOf (seconds : Option UInt64) : Option Duration :=
  seconds.map fun n => Duration.ofSeconds n.toNat

/-- The limits of a search. -/
def limits (s : Settings) : Search.Limits where
  model := s.model.getD Search.Limits.usual.model
  maxRounds := s.maxIterations.map UInt32.toNat
  timeBudget := limitOf s.timeBudgetSeconds
  modelTimeout := limitOf s.modelTimeoutSeconds
  artifactDirectory := s.artifactDirectory.getD Search.Limits.usual.artifactDirectory
  historyLimit := (s.historyLimit.map UInt64.toNat).getD Search.Limits.usual.historyLimit

/-- The limits of the stages. -/
def stageLimits (s : Settings) : Pipeline.Limits where
  build := limitOf s.build.timeoutSeconds
  evaluate := limitOf s.engine.timeoutSeconds
  failFast := Pipeline.Limits.usual.failFast

/-- The root of the source tree. -/
def root (s : Settings) : Path := s.sourceRoot.getD EngineModule.defaultRoot

/-- The files of the source tree. -/
def layout (s : Settings) : EngineModule.Layout := EngineModule.Layout.rooted s.root

/-- The number of jobs at a time, if it is set; at least one. -/
def jobs? (s : Settings) : Option Nat := s.build.parallelism.map fun n => max n.toNat 1

/-- The plan of the build, on a machine with the given number of processors. -/
def buildPlan (s : Settings) (processors : Nat) : BuildPlan :=
  let usual := BuildPlan.usual s.root processors
  { runtime := s.build.runtime.getD usual.runtime
    image := s.build.image.getD usual.image
    sourceRoot := usual.sourceRoot
    mountPoint := s.build.mountPoint.getD usual.mountPoint
    target := s.build.target.getD usual.target
    jobs := s.jobs?.getD usual.jobs }

/-- The engine: where the build leaves its target, if nothing else is set. -/
def engineBinary (s : Settings) : Path :=
  s.engine.binary.getD (Path.join (Path.join s.root "build") (s.buildPlan 1).target)

/-- The program that runs the model. -/
def runner (s : Settings) : Text := s.modelRunner.getD Model.defaultRunner

/-- Where tasks are fetched from. -/
def base (s : Settings) : Text := s.taskBase.getD Task.defaultBase

end PrimitiveSearch.Settings
