import PrimitiveSearch.Answer.Reading
import PrimitiveSearch.Prompt.Text
import PrimitiveSearch.Search.Module
import PrimitiveSearch.Search.Progress

/-!
# One round of a search

A round writes a prompt, asks the model, reads its answer, writes the module, builds the engine and
lets it run.  It ends at the first step that fails, and wherever a stop request is noticed.

* `Search.round` — the whole round.
* `Search.afterAnswer`, `Search.afterModule` — the same from a later step on.
* `Search.outcomeOf` — the outcome that a result of the pipeline gives.
-/

set_option autoImplicit false

namespace PrimitiveSearch.Search

variable {σ : Type}

/-- What is said of an engine that passed without a report. -/
def noReport : Text := "no engine report"

/-- The outcome of a round whose pipeline has run. -/
def outcomeOf (r : PipelineResult) : Outcome :=
  if r.cancelled then .cancelled
  else
    match r.firstFailure with
    | some failure =>
      if failure.stage = Stage.build.name then .failed .build failure.errorText
      else .failed .engine failure.errorText
    | none =>
      match r.report with
      | some report => .evaluated report
      | none => .failed .engine noReport

/-- A round from the building of the engine on. -/
def afterModule (w : World σ) (p : Plan) (depth : Nat) (m : Machine σ) :
    Option (Outcome × Machine σ) :=
  (Pipeline.run w p.stages p.name depth m).map fun (result, m) => (outcomeOf result, m)

/-- A round from the text of the model on. -/
def afterAnswer (w : World σ) (p : Plan) (t : EngineModule.Template) (text : Text)
    (m : Machine σ) : Option (Outcome × Machine σ) :=
  let (_, m) := w.write p.limits.artifactDirectory
    (outputFile p.limits.artifactDirectory p.name.id) text m
  match Answer.parse p.catalogue text with
  | .error fault => some (.failed .answer fault.message, m)
  | .ok answer =>
    if m.stopped then some (.cancelled, m)
    else
      let module := EngineModule.render .default p.catalogue answer t
      match writeModule w p.layout module (m.note .writing) with
      | (.error reason, m) => some (.failed .writing reason, m)
      | (.ok (), m) => afterModule w p answer.depth m

/-- Asks the model; nothing if that never returns. -/
def ask (w : World σ) (p : Plan) (prompt : Text) (m : Machine σ) :
    Option (Ending (Except Model.Fault Text) × Machine σ) :=
  (m.note (.asked p.limits.model prompt)).attempt p.limits.modelTimeout
    (w.complete p.limits.model prompt)

/-- A round from the call of the model on. -/
def afterPrompt (w : World σ) (p : Plan) (t : EngineModule.Template) (prompt : Text)
    (m : Machine σ) : Option (Outcome × Machine σ) :=
  match ask w p prompt m with
  | none => none
  | some (.interrupted, m) => some (.cancelled, m)
  | some (.expired, m) =>
    let fault := Model.Fault.expired (p.limits.modelTimeout.getD Duration.zero)
    some (.failed .model fault.message, m)
  | some (.finished (.error fault), m) => some (.failed .model fault.message, m)
  | some (.finished (.ok text), m) => afterAnswer w p t text (m.note (.answered text))

/-- The progress after an outcome. -/
def Progress.conclude (g : Progress) (o : Outcome) : Progress :=
  match o.report? with
  | some report => g.record report
  | none => g

/-- The event of an outcome that changes the progress. -/
def Machine.conclude (m : Machine σ) (o : Outcome) : Machine σ :=
  match o.report? with
  | some report => m.note (.recorded report)
  | none => m

/-- One round, whose number is that of the given progress: its outcome and the progress after it;
nothing if it never ends. -/
def round (w : World σ) (p : Plan) (t : EngineModule.Template) (g : Progress)
    (m : Machine σ) : Option (Outcome × Progress × Machine σ) :=
  let prompt := Prompt.text p.task p.catalogue g.feedback
  let (_, m) := w.write p.limits.artifactDirectory
    (promptFile p.limits.artifactDirectory p.name.id) prompt (m.note (.round g.iteration))
  if m.stopped then some (.cancelled, g, m)
  else
    let asked := { g with modelCalls := g.modelCalls + 1 }
    (afterPrompt w p t prompt m).map fun (outcome, m) =>
      (outcome, asked.conclude outcome, m.conclude outcome)

end PrimitiveSearch.Search
