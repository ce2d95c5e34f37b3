import PrimitiveSearch.Host.Reply
import PrimitiveSearch.Model
import PrimitiveSearch.Search.Outcome
import PrimitiveSearch.Pipeline.Result
import PrimitiveSearch.Task.Basic

/-!
# The world of a search

A search talks to a model, writes files, has the engine built and lets it run.  All these are
arbitrary functions of a hidden state, so that what is shown of a search holds whatever they do.

* `Search.World` — the collaborators.
* `Search.Event` — what a search does to them.
* `Search.Machine` — the hidden state, whether a stop was requested, and the log of all events.
  Nothing reads the log.
* `Search.observe`, `Search.attempt` — calls without and with a limit.
-/

set_option autoImplicit false

namespace PrimitiveSearch.Search

/-- The collaborators of a search, over a hidden state. -/
structure World (σ : Type) where
  /-- The time since some fixed moment. -/
  clock : σ → Duration × σ
  /-- The text of a file, or why it cannot be read. -/
  load : Path → σ → Reply (Except Text Text) × σ
  /-- Makes a directory, unless its path is empty, and writes a text to a file. -/
  save : (directory file : Path) → Text → σ → Reply (Except Text Unit) × σ
  /-- Asks a model. -/
  complete : (model prompt : Text) → σ → Reply (Ending (Except Model.Fault Text)) × σ
  /-- Has the engine built. -/
  build : σ → Reply (Ending StageResult) × σ
  /-- Lets the engine run on a task, up to a depth. -/
  evaluate : TaskName → Nat → σ → Reply (Ending StageResult) × σ
  /-- Is told of a round that is over. -/
  roundOver : Record → σ → Reply Unit × σ

/-- What a search does. -/
inductive Event where
  /-- A round begins. -/
  | round (number : Nat)
  /-- The model is asked. -/
  | asked (model prompt : Text)
  /-- The model has answered. -/
  | answered (text : Text)
  /-- The two files of a module are about to be written. -/
  | writing
  /-- A text was written to a file, or could not be. -/
  | saved (file : Path) (text : Text) (ok : Bool)
  /-- The engine is about to be built. -/
  | building
  /-- The engine is about to run. -/
  | evaluating (task : TaskName) (depth : Nat)
  /-- A result of the engine becomes the last one. -/
  | recorded (report : Report)
  /-- A stop is requested for the first time. -/
  | stopRequested
  deriving DecidableEq, Repr

/-- The state of everything during a search. -/
structure Machine (σ : Type) where
  /-- The hidden state of the collaborators. -/
  world : σ
  /-- Whether a stop was requested. -/
  stopped : Bool
  /-- All events so far, in order. -/
  log : List Event

namespace Machine

variable {σ : Type}

/-- One more event. -/
def note (m : Machine σ) (e : Event) : Machine σ := { m with log := m.log ++ [e] }

@[simp] theorem world_note (m : Machine σ) (e : Event) : (m.note e).world = m.world := rfl

@[simp] theorem stopped_note (m : Machine σ) (e : Event) : (m.note e).stopped = m.stopped := rfl

@[simp] theorem log_note (m : Machine σ) (e : Event) : (m.note e).log = m.log ++ [e] := rfl

/-- The state after a call during which a stop may have been requested. -/
def after (m : Machine σ) (stops : Bool) (s : σ) : Machine σ :=
  let next : Machine σ := { m with world := s, stopped := m.stopped || stops }
  if stops && !m.stopped then next.note .stopRequested else next

@[simp] theorem world_after (m : Machine σ) (stops : Bool) (s : σ) :
    (m.after stops s).world = s := by
  rw [after]
  split <;> rfl

@[simp] theorem stopped_after (m : Machine σ) (stops : Bool) (s : σ) :
    (m.after stops s).stopped = (m.stopped || stops) := by
  rw [after]
  split <;> rfl

/-- A call that always comes to its end. -/
def observe {α : Type} (m : Machine σ) (call : σ → Reply α × σ) : α × Machine σ :=
  let (reply, s) := call m.world
  (reply.value, m.after reply.stops s)

/-- A call that is given up when its time is over or a stop is requested; nothing if it never
returns. -/
def attempt {α : Type} (m : Machine σ) (limit : Option Duration)
    (call : σ → Reply (Ending α) × σ) : Option (Ending α × Machine σ) :=
  let (reply, s) := call m.world
  let next := m.after reply.stops s
  (reply.value.settle limit next.stopped).map fun ending => (ending, next)

end Machine

namespace World

variable {σ : Type}

/-- The time. -/
def now (w : World σ) (m : Machine σ) : Duration × Machine σ :=
  let (time, s) := w.clock m.world
  (time, { m with world := s })

/-- Writes a text to a file; a failure comes with its reason. -/
def write (w : World σ) (directory file : Path) (text : Text) (m : Machine σ) :
    Except Text Unit × Machine σ :=
  let (result, m) := m.observe (w.save directory file text)
  (result, m.note (.saved file text result.toOption.isSome))

end World

end PrimitiveSearch.Search
