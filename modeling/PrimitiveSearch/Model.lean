import PrimitiveSearch.Duration
import PrimitiveSearch.Host.ProgramRun
import PrimitiveSearch.Path

/-!
# The model

A model turns a prompt into a text.  It is reached through a runner, a program that is called
with the name of the model and the prompt; or an answer that was kept is read again.

* `Model.Source` — where answers come from.
* `Model.Fault` — why there is no answer.
* `Model.answer` — the answer in a run of the runner.
-/

set_option autoImplicit false

namespace PrimitiveSearch.Model

/-- The model that is asked when none is named. -/
def default : Text := "gpt-oss:20b"

/-- The runner that is called when none is named. -/
def defaultRunner : Text := "ollama"

/-- Where answers come from. -/
inductive Source where
  /-- A runner is called. -/
  | runner (program : Path)
  /-- An answer that was kept is read again. -/
  | kept (file : Path)
  deriving DecidableEq, Repr

/-- Why there is no answer. -/
inductive Fault where
  /-- The runner could not be started. -/
  | unstarted (runner : Path) (reason : Text)
  /-- The runner did not end well; the exit code is missing when a signal ended it. -/
  | failed (code : Option Int) (stderr : Text)
  /-- The time for a call was over. -/
  | expired (limit : Duration)
  /-- The answer that was kept could not be read. -/
  | unreadable (file : Path) (reason : Text)
  deriving DecidableEq, Repr

/-- An exit code in words. -/
def codeText : Option Int → Text
  | none => "None"
  | some c => "Some(" ++ Numeral.ofInt c ++ ")"

/-- The words for a fault. -/
def Fault.message : Fault → Text
  | .unstarted runner reason => "Failed to start model runner " ++ runner ++ ": " ++ reason
  | .failed code stderr =>
    "Model runner exited with code " ++ codeText code ++ ": " ++ stderr
  | .expired limit => "Model call timed out after " ++ limit.text
  | .unreadable file reason => "Failed to read replayed output " ++ file ++ ": " ++ reason

/-- The arguments of a runner. -/
def arguments (model prompt : Text) : List Text := ["run", model, prompt]

/-- The answer in a run of a runner. -/
def answer (runner : Path) : ProgramRun → Except Fault Text
  | .unstarted reason => .error (.unstarted runner reason)
  | .ended code out err =>
    if code = some 0 then .ok (Text.ofBytesLossy out)
    else .error (.failed code (Text.trim (Text.ofBytesLossy err)))

/-- The answer in a file. -/
def keptAnswer (file : Path) : Except Text Text → Except Fault Text
  | .ok text => .ok text
  | .error reason => .error (.unreadable file reason)

end PrimitiveSearch.Model
