import PrimitiveSearch.Host.Basic
import PrimitiveSearch.Pipeline.Build
import PrimitiveSearch.Pipeline.Engine
import PrimitiveSearch.Search.World

/-!
# A search on a host

* `Search.Equipment` — the programs and files that a search uses on a machine.
* `Search.Equipment.world` — the world of a search whose collaborators are programs of a host.
-/

set_option autoImplicit false

namespace PrimitiveSearch.Search

/-- What a search uses on a machine. -/
structure Equipment where
  /-- How the engine is built. -/
  build : BuildPlan
  /-- The directory that work is done in. -/
  workingDirectory : Path
  /-- The engine. -/
  engine : Path
  /-- Where the answers of the model come from. -/
  model : Model.Source
  deriving DecidableEq, Repr

namespace Equipment

variable {σ : Type}

/-- Asks the model. -/
def complete (e : Equipment) (h : Host σ) (model prompt : Text) (s : σ) :
    Reply (Ending (Except Model.Fault Text)) × σ :=
  match e.model with
  | .runner program =>
    let (reply, s) := h.run program (Model.arguments model prompt) s
    (reply.map (Ending.map (Model.answer program)), s)
  | .kept file =>
    let (reply, s) := h.read file s
    (reply.map (Ending.map (Model.keptAnswer file)), s)

/-- Has the engine built. -/
def buildEngine (e : Equipment) (h : Host σ) (s : σ) : Reply (Ending StageResult) × σ :=
  let (reply, s) := h.timed (h.run e.build.runtime (e.build.arguments e.workingDirectory)) s
  (reply.map (Ending.map fun (run, d) => e.build.result run d), s)

/-- Lets the engine run on a task, up to a depth. -/
def evaluate (e : Equipment) (h : Host σ) (task : TaskName) (depth : Nat) (s : σ) :
    Reply (Ending StageResult) × σ :=
  let (reply, s) := h.timed (h.run e.engine (Engine.arguments task depth)) s
  (reply.map (Ending.map fun (run, d) => Engine.result e.engine run d), s)

/-- The world of a search on a host. -/
def world (e : Equipment) (h : Host σ) : World σ where
  clock := h.clock
  load := h.load
  save := h.save
  complete := e.complete h
  build := e.buildEngine h
  evaluate := e.evaluate h
  roundOver _ s := (.quiet (), s)

end Equipment

end PrimitiveSearch.Search
