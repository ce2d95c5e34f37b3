import PrimitiveSearch.Catalogue.Source
import PrimitiveSearch.Search.Equipment
import PrimitiveSearch.Search.Run
import PrimitiveSearch.Session.Tour
import PrimitiveSearch.Task.Source

/-!
# Sessions

A session obtains tasks from a server and searches them one after the other.

* `Session` — all that a session is given.
* `Session.banner` — what is printed before the first task.
* `Session.visit` — one task, from its request to the result of its search.
* `Session.run` — the whole session.
-/

set_option autoImplicit false

namespace PrimitiveSearch

/-- What a session is given. -/
structure Session where
  /-- Where tasks are fetched from. -/
  base : Text
  /-- The folder of all tasks. -/
  folder : Text
  /-- The tasks, in the order in which they are visited. -/
  ids : List Text
  limits : Search.Limits
  stages : Pipeline.Limits
  layout : EngineModule.Layout
  equipment : Search.Equipment

/-- What a session leaves behind. -/
structure Transcript where
  /-- What was printed. -/
  output : Text
  /-- What was complained of. -/
  complaints : Text
  succeeded : Bool
  deriving DecidableEq, Repr

namespace Session

/-- What is printed before the first task. -/
def banner (s : Session) : Text :=
  Text.ofLines
    ["Partial-Specialization Refinement",
     "=================================",
     [],
     "Model: " ++ s.limits.model,
     "Primitives: " ++ s.layout.primitives,
     "Tasks: " ++ List.intercalate ", ".toList s.ids,
     []]

/-- The tasks with their folder. -/
def names (s : Session) : List TaskName := s.ids.map fun id => ⟨s.folder, id⟩

variable {σ : Type}

/-- Requests a task. -/
def obtain (h : Host σ) (s : Session) (n : TaskName) (m : Search.Machine σ) :
    Except Task.SourceFault Task × Search.Machine σ :=
  let (exchange, m) := m.observe (h.fetch (Task.url s.base n))
  (Task.ofExchange (Task.url s.base n) exchange, m)

/-- Reads the catalogue. -/
def loadCatalogue (h : Host σ) (s : Session) (m : Search.Machine σ) :
    Except Catalogue.Fault Catalogue × Search.Machine σ :=
  let (content, m) := m.observe (h.load s.layout.primitives)
  (Catalogue.ofFile s.layout.primitives content, m)

/-- The plan of the search of a task. -/
def plan (s : Session) (n : TaskName) (t : Task) (c : Catalogue) : Search.Plan :=
  ⟨s.limits, s.stages, s.layout, n, t, c⟩

/-- What came of a search that has ended. -/
def visitOf : Except Search.Fault Search.Result → Visit
  | .ok result => .searched result
  | .error fault => .fatal fault.message

/-- Searches a task that was obtained; nothing if that never ends. -/
def search (h : Host σ) (s : Session) (n : TaskName) (t : Task) (m : Search.Machine σ) :
    Option (Visit × Search.Machine σ) :=
  match loadCatalogue h s m with
  | (.error fault, m) => some (.fatal fault.message, m)
  | (.ok c, m) =>
    (Search.run (s.equipment.world h) (s.plan n t c) m).map fun (result, m) =>
      (visitOf result, m)

/-- Visits a task; nothing if that never ends. -/
def visit (h : Host σ) (s : Session) (n : TaskName) (m : Search.Machine σ) :
    Option (Visit × Search.Machine σ) :=
  match obtain h s n m with
  | (.error fault, m) => some (.unobtained fault.message, m)
  | (.ok t, m) => search h s n t m

/-- What a session leaves behind after its tour. -/
def transcript (s : Session) (t : Tour) : Transcript :=
  ⟨s.banner ++ t.output, t.complaints, t.succeeded⟩

/-- A whole session; nothing if it never ends. -/
def run (h : Host σ) (s : Session) (m : Search.Machine σ) :
    Option (Transcript × Search.Machine σ) :=
  (Tour.through Search.Machine.stopped (visit h s) s.names m).map fun (t, m) =>
    (s.transcript t, m)

end Session

end PrimitiveSearch
