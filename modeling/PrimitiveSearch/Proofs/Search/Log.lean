import PrimitiveSearch.Search.Run

/-!
# What a round writes to the log

* `Asks`, `Silent` — the log went on with a number of calls of the model, or without any.
* `silent_runFrom`, `silent_afterAnswer` — nothing after the answer asks the model.
* `round_spec` — a round asks the model once, unless it is cancelled before, and the progress after
  it says so.
-/

set_option autoImplicit false

namespace PrimitiveSearch.Search

variable {σ : Type} {w : World σ} {p : Plan} {m m' m'' : Machine σ}

/-- Whether an event is a call of the model. -/
def Event.isAsked : Event → Bool
  | .asked _ _ => true
  | _ => false

/-- The log goes on, and `n` of the events that are added are calls of the model. -/
def Asks (n : Nat) (m m' : Machine σ) : Prop :=
  ∃ events, m'.log = m.log ++ events ∧ events.countP Event.isAsked = n

/-- The log goes on without a call of the model. -/
abbrev Silent (m m' : Machine σ) : Prop := Asks 0 m m'

theorem Silent.of_log_eq (h : m'.log = m.log) : Silent m m' :=
  ⟨[], by rw [h, List.append_nil], rfl⟩

theorem Silent.refl (m : Machine σ) : Silent m m := .of_log_eq rfl

theorem Asks.trans {a b : Nat} (h : Asks a m m') (h' : Asks b m' m'') : Asks (a + b) m m'' := by
  obtain ⟨es, hlog, hes⟩ := h
  obtain ⟨es', hlog', hes'⟩ := h'
  refine ⟨es ++ es', by rw [hlog', hlog, List.append_assoc], ?_⟩
  rw [List.countP_append, hes, hes']

theorem Silent.trans (h : Silent m m') (h' : Silent m' m'') : Silent m m'' := Asks.trans h h'

theorem asks_note (e : Event) (m : Machine σ) : Asks (if e.isAsked then 1 else 0) m (m.note e) :=
  ⟨[e], rfl, List.countP_singleton⟩

theorem silent_note {e : Event} (he : e.isAsked = false) (m : Machine σ) :
    Silent m (m.note e) := by
  have h := asks_note e m
  rwa [he] at h

/-! ## Calls -/

theorem silent_now (w : World σ) (m : Machine σ) : Silent m (w.now m).2 := .of_log_eq rfl

theorem silent_after (m : Machine σ) (stops : Bool) (s : σ) : Silent m (m.after stops s) := by
  unfold Machine.after
  dsimp only
  split
  · exact Silent.trans (.of_log_eq rfl) (silent_note rfl _)
  · exact .of_log_eq rfl

theorem silent_observe {α : Type} (m : Machine σ) (call : σ → Reply α × σ) :
    Silent m (m.observe call).2 := silent_after m _ _

theorem silent_attempt {α : Type} {limit : Option Duration} {call : σ → Reply (Ending α) × σ}
    {ending : Ending α} (h : m.attempt limit call = some (ending, m')) : Silent m m' := by
  obtain ⟨e, -, h⟩ := Option.map_eq_some_iff.mp h
  cases h
  exact silent_after m _ _

theorem silent_write (w : World σ) (directory file : Path) (text : Text) (m : Machine σ) :
    Silent m (w.write directory file text m).2 :=
  (silent_observe m (w.save directory file text)).trans (silent_note rfl _)

theorem silent_writeModule {l : EngineModule.Layout} {e : EngineModule}
    {result : Except Text Unit} (h : writeModule w l e m = (result, m')) : Silent m m' := by
  have hheader := silent_write w ((Path.parent? l.header).getD []) l.header e.header m
  unfold writeModule writeFile at h
  split at h
  · rename_i reason m₁ hw
    rw [hw] at hheader
    cases h
    exact hheader
  · rename_i m₁ hw
    rw [hw] at hheader
    have hsource := silent_write w ((Path.parent? l.engineSource).getD []) l.engineSource
      e.engineSource m₁
    rw [h] at hsource
    exact hheader.trans hsource

/-! ## Stages -/

theorem silent_runStage {l : Pipeline.Limits} {task : TaskName} {depth : Nat} {s : Stage}
    {result : StageResult} (h : Pipeline.runStage w l task depth s m = some (result, m')) :
    Silent m m' := by
  have hevent : (Pipeline.eventOf task depth s).isAsked = false := by cases s <;> rfl
  have hbegin := (silent_note hevent m).trans (silent_now w (m.note (Pipeline.eventOf task depth s)))
  unfold Pipeline.runStage at h
  dsimp only at h
  split at h
  · cases h
  · rename_i value m₁ hcall
    cases h
    exact hbegin.trans (silent_attempt hcall)
  · rename_i m₁ hcall
    cases h
    exact (hbegin.trans (silent_attempt hcall)).trans (silent_now w m₁)
  · rename_i m₁ hcall
    cases h
    exact (hbegin.trans (silent_attempt hcall)).trans (silent_now w m₁)

theorem silent_runFrom {l : Pipeline.Limits} {task : TaskName} {depth : Nat} {stages : List Stage}
    {results : List StageResult} {r : PipelineResult}
    (h : Pipeline.runFrom w l task depth stages results m = some (r, m')) : Silent m m' := by
  induction stages generalizing results m with
  | nil => cases h; exact Silent.refl _
  | cons s rest ih =>
    unfold Pipeline.runFrom at h
    split at h
    · cases h
      exact Silent.refl _
    · split at h
      · cases h
      rename_i result m₁ hstage
      have hm₁ := silent_runStage hstage
      split at h
      · cases h
        exact hm₁
      · split at h
        · cases h
          exact hm₁
        · exact hm₁.trans (ih h)

theorem silent_run {l : Pipeline.Limits} {task : TaskName} {depth : Nat} {r : PipelineResult}
    (h : Pipeline.run w l task depth m = some (r, m')) : Silent m m' := silent_runFrom h

/-! ## The steps of a round -/

theorem silent_afterModule {depth : Nat} {o : Outcome}
    (h : afterModule w p depth m = some (o, m')) : Silent m m' := by
  obtain ⟨⟨r, m₁⟩, hrun, h⟩ := Option.map_eq_some_iff.mp h
  cases h
  exact silent_run hrun

theorem silent_afterAnswer {t : EngineModule.Template} {text : Text} {o : Outcome}
    (h : afterAnswer w p t text m = some (o, m')) : Silent m m' := by
  have hwrite := silent_write w p.limits.artifactDirectory
    (outputFile p.limits.artifactDirectory p.name.id) text m
  unfold afterAnswer at h
  dsimp only at h
  split at h
  · cases h
    exact hwrite
  split at h
  · cases h
    exact hwrite
  have hnote := hwrite.trans (silent_note (rfl : Event.writing.isAsked = false) _)
  split at h
  · rename_i reason m₁ hmodule
    cases h
    exact hnote.trans (silent_writeModule hmodule)
  · rename_i m₁ hmodule
    exact (hnote.trans (silent_writeModule hmodule)).trans (silent_afterModule h)

/-- From the prompt on, the model is asked at once and never again. -/
theorem asks_afterPrompt {t : EngineModule.Template} {prompt : Text} {o : Outcome}
    (h : afterPrompt w p t prompt m = some (o, m')) : Asks 1 m m' := by
  have hasked : Asks 1 m (m.note (.asked p.limits.model prompt)) := asks_note _ m
  suffices Silent (m.note (.asked p.limits.model prompt)) m' from hasked.trans this
  unfold afterPrompt ask at h
  split at h
  · cases h
  · rename_i m₁ hcall
    cases h
    exact silent_attempt hcall
  · rename_i m₁ hcall
    cases h
    exact silent_attempt hcall
  · rename_i fault m₁ hcall
    cases h
    exact silent_attempt hcall
  · rename_i text m₁ hcall
    exact ((silent_attempt hcall).trans (silent_note rfl m₁)).trans (silent_afterAnswer h)

/-! ## A whole round -/

@[simp] theorem best_conclude (g : Progress) (o : Outcome) :
    (g.conclude o).best = o.report?.or g.best := by
  unfold Progress.conclude
  cases o.report? <;> rfl

@[simp] theorem iteration_conclude (g : Progress) (o : Outcome) :
    (g.conclude o).iteration = g.iteration := by
  unfold Progress.conclude
  cases o.report? <;> rfl

@[simp] theorem modelCalls_conclude (g : Progress) (o : Outcome) :
    (g.conclude o).modelCalls = g.modelCalls := by
  unfold Progress.conclude
  cases o.report? <;> rfl

theorem silent_conclude (m : Machine σ) (o : Outcome) : Silent m (m.conclude o) := by
  unfold Machine.conclude
  split
  · exact silent_note rfl m
  · exact Silent.refl m

/-- What a round with a given outcome and a number of calls makes of the progress. -/
structure Advances (g : Progress) (o : Outcome) (calls : Nat) (g' : Progress) : Prop where
  best : g'.best = o.report?.or g.best
  modelCalls : g'.modelCalls = g.modelCalls + calls
  calls : calls = 1 ∨ calls = 0 ∧ o = .cancelled

/-- A round asks the model once, unless it is cancelled before. -/
theorem round_spec {t : EngineModule.Template} {g g' : Progress} {o : Outcome}
    (h : round w p t g m = some (o, g', m')) :
    g'.iteration = g.iteration ∧ ∃ calls, Asks calls m m' ∧ Advances g o calls g' := by
  have hbegin := (silent_note (rfl : (Event.round g.iteration).isAsked = false) m).trans
    (silent_write w p.limits.artifactDirectory
      (promptFile p.limits.artifactDirectory p.name.id)
      (Prompt.text p.task p.catalogue g.feedback) (m.note (.round g.iteration)))
  unfold round at h
  dsimp only at h
  split at h
  · cases h
    exact ⟨rfl, 0, hbegin, rfl, rfl, .inr ⟨rfl, rfl⟩⟩
  · obtain ⟨⟨o', m₁⟩, hprompt, h⟩ := Option.map_eq_some_iff.mp h
    cases h
    refine ⟨iteration_conclude _ o', 1, ?_, best_conclude _ o', modelCalls_conclude _ o', .inl rfl⟩
    exact Asks.trans (Asks.trans hbegin (asks_afterPrompt hprompt)) (silent_conclude m₁ o')

/-- So does a round whose duration is read. -/
theorem recordedRound_spec {t : EngineModule.Template} {g g' : Progress} {r : Record}
    (h : recordedRound w p t g m = some (r, g', m')) :
    r.iteration = g.iteration + 1 ∧ g'.iteration = g.iteration + 1 ∧
      ∃ calls, Asks calls m m' ∧ Advances g r.outcome calls g' := by
  unfold recordedRound at h
  dsimp only at h
  split at h
  · cases h
  rename_i o g₁ m₁ hround
  obtain ⟨hiteration, calls, hasks, hadvances⟩ := round_spec hround
  have hall : ∀ record, Asks calls m ((w.now m₁).2.observe (w.roundOver record)).2 := by
    intro record
    have hend := (silent_now w m₁).trans (silent_observe (w.now m₁).2 (w.roundOver record))
    have := Asks.trans (Asks.trans (silent_now w m) hasks) hend
    rwa [Nat.zero_add] at this
  cases h
  exact ⟨hiteration, hiteration, calls, hall _, hadvances.best, hadvances.modelCalls,
    hadvances.calls⟩

end PrimitiveSearch.Search
