import PrimitiveSearch.Host.ProgramRun
import PrimitiveSearch.Path
import PrimitiveSearch.Pipeline.Result

/-!
# The build of the engine

The engine is built inside a container into which the source tree is mounted.

* `BuildPlan` — what is built, and in which container.
* `BuildPlan.arguments` — the call of the container runtime.
* `BuildPlan.result` — the stage result of a run of the container runtime.
-/

set_option autoImplicit false

namespace PrimitiveSearch

/-- What is built, and in which container. -/
structure BuildPlan where
  /-- The program that runs containers. -/
  runtime : Text
  /-- The image with the tools. -/
  image : Text
  /-- The root of the source tree. -/
  sourceRoot : Path
  /-- Where the source tree is mounted. -/
  mountPoint : Text
  /-- What is built. -/
  target : Text
  /-- The number of jobs at a time. -/
  jobs : Nat
  deriving DecidableEq, Repr

namespace BuildPlan

/-- The usual plan for a source tree. -/
def usual (sourceRoot : Path) (jobs : Nat) : BuildPlan where
  runtime := "docker"
  image := "aicpp"
  sourceRoot := sourceRoot
  mountPoint := "/app/aicpp"
  target := "engine"
  jobs := jobs

/-- The commands that are run inside the container. -/
def script (p : BuildPlan) : Text :=
  "mkdir -p build && cmake . -B build && cmake --build build --target " ++ p.target ++
    " -- -j" ++ Numeral.ofNat p.jobs

/-- The arguments of the container runtime.  A relative root is seen from the directory that work
is done in. -/
def arguments (p : BuildPlan) (workingDirectory : Path) : List Text :=
  ["run", "--rm", "-v", Path.join workingDirectory p.sourceRoot ++ ':' :: p.mountPoint, p.image,
   "-c", p.script]

/-- A line that tells an error of the compiler or of the build system. -/
def isErrorLine (line : Text) : Bool :=
  Text.holds "error:" line || "CMake Error".toList.isPrefixOf line

/-- Why a build failed: the first error line, else the first line of the error output that is not
empty, else the exit code. -/
def failure (code : Option Int) (stdout stderr : Text) : Text :=
  let errorLines := (Text.lines stderr).map Text.trim
  let all := errorLines ++ (Text.lines stdout).map Text.trim
  match all.find? isErrorLine with
  | some line => line
  | none =>
    match errorLines.find? fun line => !line.isEmpty with
    | some line => line
    | none =>
      match code with
      | some c => "build exited with code " ++ Numeral.ofInt c
      | none => "build terminated by signal"

/-- The result of a run of the container runtime. -/
def result (p : BuildPlan) (run : ProgramRun) (d : Duration) : StageResult :=
  match run with
  | .unstarted reason =>
    .fail .build ("Failed to run " ++ p.runtime ++ ": " ++ reason) [] d
  | .ended code out err =>
    let stdout := Text.ofBytesLossy out
    let stderr := Text.ofBytesLossy err
    let output := ProgramRun.combined stdout stderr
    if code = some 0 then .pass .build none output d
    else .fail .build (failure code stdout stderr) output d

end BuildPlan

end PrimitiveSearch
