import PrimitiveSearch.Search.Summary

/-!
# Visits to tasks

A session visits tasks in the order in which they were named.  A task that could not be obtained or
was not solved does not keep it from the next; a fatal fault or a stop request does.

* `Visit` — what came of one task.
* `Tour` — the visits of a session, and whether every task was visited.
* `Tour.through` — the tour of a list of tasks.
* `Tour.succeeded`, `Tour.output`, `Tour.complaints` — its success and its texts.
-/

set_option autoImplicit false

namespace PrimitiveSearch

/-! ## One visit -/

/-- What came of one task. -/
inductive Visit where
  /-- The task could not be obtained. -/
  | unobtained (reason : Text)
  /-- A file without which no task can be searched could not be read. -/
  | fatal (reason : Text)
  /-- The task was searched. -/
  | searched (result : Search.Result)
  deriving DecidableEq, Repr

namespace Visit

/-- Whether no further task is visited. -/
def isFatal : Visit → Bool
  | .fatal _ => true
  | _ => false

/-- Whether the task was solved. -/
def isSolved : Visit → Bool
  | .searched result => result.isSolved
  | _ => false

/-- A text as a line. -/
def line (t : Text) : Text := t ++ ['\n']

/-- A fault that ends a session. -/
def fatalLine (reason : Text) : Text := line ("Error: " ++ reason)

/-- What is printed of a visit: the summary of a search, and the expression that solves the
task. -/
def output : Visit → Text
  | .searched result =>
    line result.summary ++
      (if result.isSolved then line (Report.expressionOf result.best) else [])
  | _ => []

/-- What is complained of after a visit. -/
def complaint (n : TaskName) : Visit → Text
  | .unobtained reason => line ("Error fetching " ++ n.text ++ ": " ++ reason)
  | .fatal reason => fatalLine reason
  | .searched _ => []

end Visit

/-! ## All visits -/

/-- The visits of a session. -/
structure Tour where
  /-- The tasks that were visited, in order, and what came of them. -/
  visits : List (TaskName × Visit)
  /-- Whether no task was left out. -/
  complete : Bool
  deriving DecidableEq, Repr

namespace Tour

/-- Whether every task was visited and solved. -/
def succeeded (t : Tour) : Bool := t.complete && t.visits.all fun v => v.2.isSolved

/-- What is printed of all visits. -/
def output (t : Tour) : Text := t.visits.flatMap fun v => v.2.output

/-- What is complained of after all visits. -/
def complaints (t : Tour) : Text := t.visits.flatMap fun v => v.2.complaint v.1

/-- A tour with one more visit in front. -/
def cons (n : TaskName) (v : Visit) (t : Tour) : Tour := { t with visits := (n, v) :: t.visits }

/-- The tour of a list of tasks; nothing if a visit never ends. -/
def through {μ : Type} (stopped : μ → Bool) (visit : TaskName → μ → Option (Visit × μ)) :
    List TaskName → μ → Option (Tour × μ)
  | [], m => some (⟨[], true⟩, m)
  | n :: rest, m =>
    if stopped m then some (⟨[], false⟩, m)
    else
      match visit n m with
      | none => none
      | some (v, m) =>
        if v.isFatal then some (⟨[(n, v)], false⟩, m)
        else (through stopped visit rest m).map fun (t, m) => (t.cons n v, m)

end Tour

end PrimitiveSearch
