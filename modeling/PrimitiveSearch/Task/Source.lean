import PrimitiveSearch.Host.Basic
import PrimitiveSearch.Task.Document

/-!
# Where tasks come from

Tasks are documents of a server, one for each task, below a base that is a folder of folders.

* `Task.url` — where the document of a task is.
* `Task.ofExchange` — the task in an answer of the server.
-/

set_option autoImplicit false

namespace PrimitiveSearch.Task

/-- The base when none is given. -/
def defaultBase : Text :=
  "https://raw.githubusercontent.com/arcprize/ARC-AGI-2/refs/heads/main/data"

/-- A text without the slashes at its end. -/
def withoutSlashes (t : Text) : Text := (t.reverse.dropWhile (· == '/')).reverse

/-- Where the document of a task is. -/
def url (base : Text) (n : TaskName) : Text :=
  withoutSlashes base ++ '/' :: n.folder ++ '/' :: n.id ++ ".json"

/-- Why a task was not obtained. -/
inductive SourceFault where
  /-- No answer came. -/
  | noAnswer (reason : Text)
  /-- The status of the answer is not one of success. -/
  | badStatus (url : Text) (status : Nat)
  /-- The answer is no task. -/
  | badDocument (url : Text) (fault : Json.Located)
  deriving DecidableEq, Repr

/-- The words for a fault. -/
def SourceFault.message : SourceFault → Text
  | .noAnswer reason => "HTTP error: " ++ reason
  | .badStatus url status =>
    "Task request " ++ url ++ " returned status " ++ Numeral.ofNat status
  | .badDocument url fault => "Task document " ++ url ++ " is not valid: " ++ fault.message

/-- Whether a status is one of success. -/
def isSuccess (status : Nat) : Bool := 200 ≤ status && status < 300

/-- The task in what became of a request. -/
def ofExchange (url : Text) : Exchange → Except SourceFault Task
  | .failed reason => .error (.noAnswer reason)
  | .answered status body =>
    if isSuccess status then
      (Task.read (Text.ofBytesLossy body)).mapError (.badDocument url)
    else .error (.badStatus url status)

end PrimitiveSearch.Task
