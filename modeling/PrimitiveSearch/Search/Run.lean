import PrimitiveSearch.Search.Round
import PrimitiveSearch.Search.Summary

/-!
# A whole search

Rounds follow each other until the engine reproduces every demonstration, the rounds or the time
are used up, or a stop request is noticed.

* `Search.rounds` — all rounds, with the history that is kept.
* `Search.run` — a search from the loading of the engine's files to its result.
-/

set_option autoImplicit false

namespace PrimitiveSearch.Search

variable {σ : Type}

/-- The last rounds, one more added, at most as many as are to be kept. -/
def keep (limit : Nat) (history : List Record) (r : Record) : List Record :=
  (history ++ [r]).drop (history.length + 1 - limit)

/-- Where a search stands when its rounds are over. -/
structure Rounds (σ : Type) where
  status : Status
  progress : Progress
  history : List Record
  machine : Machine σ

/-- The status that an outcome decides. -/
def Outcome.decides : Outcome → Option Status
  | o@(.evaluated _) => if o.isSolved then some .solved else none
  | .cancelled => some .cancelled
  | .failed _ _ => none

/-- Whether the time is used up; the clock is read only when there is a limit. -/
def timeIsUp (w : World σ) (p : Plan) (start : Duration) (m : Machine σ) : Bool × Machine σ :=
  if p.limits.timeBudget.isNone then (false, m)
  else
    let (now, m) := w.now m
    (p.limits.timeSpent (now.since start), m)

/-- One round with the reading of its duration; what it leads to is recorded. -/
def recordedRound (w : World σ) (p : Plan) (t : EngineModule.Template) (g : Progress)
    (m : Machine σ) : Option (Record × Progress × Machine σ) :=
  let g := { g with iteration := g.iteration + 1 }
  let (start, m) := w.now m
  match round w p t g m with
  | none => none
  | some (outcome, g, m) =>
    let (stop, m) := w.now m
    let record : Record := ⟨g.iteration, outcome, stop.since start⟩
    let (_, m) := m.observe (w.roundOver record)
    some (record, g, m)

/-- The rounds that are left.  Nothing if one of them never ends, or `fuel` rounds do not decide
the search. -/
def rounds (w : World σ) (p : Plan) (t : EngineModule.Template) (start : Duration) :
    (fuel : Nat) → Progress → List Record → Machine σ → Option (Rounds σ)
  | 0, _, _, _ => none
  | fuel + 1, g, history, m =>
    if m.stopped then some ⟨.cancelled, g, history, m⟩
    else if p.limits.roundsSpent g.iteration then some ⟨.exhausted, g, history, m⟩
    else
      match timeIsUp w p start m with
      | (true, m) => some ⟨.exhausted, g, history, m⟩
      | (false, m) =>
        match recordedRound w p t g m with
        | none => none
        | some (record, g, m) =>
          let history := keep p.limits.historyLimit history record
          match record.outcome.decides with
          | some status => some ⟨status, g, history, m⟩
          | none => rounds w p t start fuel g history m

/-- The greatest number of rounds that is counted. -/
def countableRounds : Nat := 2 ^ 32 - 1

/-- Why a search does not begin. -/
structure Fault where
  template : Unreadable
  deriving DecidableEq, Repr

/-- The words for a search that does not begin. -/
def Fault.message (f : Fault) : Text := "Failed to read engine template " ++ f.template.text

/-- A search.  Nothing if it never ends. -/
def run (w : World σ) (p : Plan) (m : Machine σ) : Option (Except Fault Result × Machine σ) :=
  let (start, m) := w.now m
  match loadTemplate w p.layout m with
  | (.error unreadable, m) => some (.error ⟨unreadable⟩, m)
  | (.ok t, m) =>
    match rounds w p t start (countableRounds + 1) Progress.start [] m with
    | none => none
    | some r =>
      let (stop, m) := w.now r.machine
      some (.ok
        { task := p.name
          status := r.status
          iterations := r.progress.iteration
          modelCalls := r.progress.modelCalls
          best := r.progress.best
          history := r.history
          duration := stop.since start }, m)

end PrimitiveSearch.Search
