import PrimitiveSearch.Proofs.Search.Stops

/-!
# What a round does

* `AnswerDeeds`, `Deeds` — what a round does from the answer on, and all that it does, in order.
* `Waits` — the state in which a round waits for ever.
* `round_deeds`, `Waits.deeds` — no round does anything else, whether it ends or waits.
* `round_waits` — a round that does not end waits somewhere.
-/

set_option autoImplicit false

namespace PrimitiveSearch.Search

variable {σ : Type} {w : World σ} {p : Plan} {t : EngineModule.Template} {m m' n : Machine σ}
  {k : Nat} {last : Option Report} {text : Text} {a : Answer} {o : Outcome}

/-! ## The order of things -/

/-- The outcomes that the stages give. -/
def Outcome.isStaged : Outcome → Bool
  | .failed .build _ => true
  | .failed .engine _ => true
  | .failed _ _ => false
  | .evaluated _ => true
  | .cancelled => true

/-- The module for an answer. -/
abbrev moduleOf (p : Plan) (t : EngineModule.Template) (a : Answer) : EngineModule :=
  EngineModule.render .default p.catalogue a t

/-- The prompt after a given last result. -/
abbrev promptOf (p : Plan) (last : Option Report) : Text := Prompt.text p.task p.catalogue last

/-- What a round does from the text of the model on, and its outcome, if it ends. -/
inductive AnswerDeeds (p : Plan) (t : EngineModule.Template) (text : Text) :
    Option Outcome → List Event → Prop where
  | unread {kept : Bool} {fault : Answer.Fault}
      (refused : Answer.parse p.catalogue text = .error fault) :
      AnswerDeeds p t text (some (.failed .answer fault.message))
        [.saved (outputFile p.limits.artifactDirectory p.name.id) text kept]
  | unwritten {kept : Bool} {a : Answer} (parsed : Answer.parse p.catalogue text = .ok a) :
      AnswerDeeds p t text (some .cancelled)
        [.saved (outputFile p.limits.artifactDirectory p.name.id) text kept]
  | written {kept : Bool} {a : Answer} {reason : Text} {saves : List Event}
      (parsed : Answer.parse p.catalogue text = .ok a)
      (failed : ModuleSaves p.layout (moduleOf p t a) (.error reason) saves) :
      AnswerDeeds p t text (some (.failed .writing reason))
        (.saved (outputFile p.limits.artifactDirectory p.name.id) text kept :: .writing :: saves)
  | staged {kept : Bool} {a : Answer} {ran : List Stage} {o : Option Outcome}
      (parsed : Answer.parse p.catalogue text = .ok a) (first : ran <+: Stage.all)
      (ends : ∀ o', o = some o' → o'.isStaged = true) :
      AnswerDeeds p t text o
        ([.saved (outputFile p.limits.artifactDirectory p.name.id) text kept, .writing,
          .saved p.layout.header (moduleOf p t a).header true,
          .saved p.layout.engineSource (moduleOf p t a).engineSource true] ++
          ran.map (Pipeline.eventOf p.name a.depth))

/-- The event of an outcome that changes the progress. -/
def recordedOf (o : Option Outcome) : List Event :=
  ((o.bind Outcome.report?).map Event.recorded).toList

/-- What the round with number `k` does after the last result `last`, and its outcome, if it
ends. -/
inductive Deeds (p : Plan) (t : EngineModule.Template) (k : Nat) (last : Option Report) :
    Option Outcome → List Event → Prop where
  | unasked {kept : Bool} : Deeds p t k last (some .cancelled)
      [.round k, .saved (promptFile p.limits.artifactDirectory p.name.id) (promptOf p last) kept]
  | unanswered {kept : Bool} {o : Option Outcome}
      (ends : ∀ o', o = some o' → o' = .cancelled ∨ ∃ reason, o' = .failed .model reason) :
      Deeds p t k last o
        [.round k, .saved (promptFile p.limits.artifactDirectory p.name.id) (promptOf p last) kept,
          .asked p.limits.model (promptOf p last)]
  | answered {kept : Bool} {text : Text} {o : Option Outcome} {acts : List Event}
      (deeds : AnswerDeeds p t text o acts) : Deeds p t k last o
        ([.round k, .saved (promptFile p.limits.artifactDirectory p.name.id) (promptOf p last) kept,
          .asked p.limits.model (promptOf p last), .answered text] ++ acts ++ recordedOf o)

/-- From the answer on, files are written and stages begin, for the depth of the answer. -/
theorem AnswerDeeds.mem {o : Option Outcome} {acts : List Event}
    (h : AnswerDeeds p t text o acts) {e : Event} (he : e ∈ acts) :
    (∃ file text' ok, e = .saved file text' ok) ∨ e = .writing ∨
      ∃ a s, Answer.parse p.catalogue text = .ok a ∧ e = Pipeline.eventOf p.name a.depth s := by
  cases h with
  | unread | unwritten => exact .inl ⟨_, _, _, List.mem_singleton.mp he⟩
  | written _ hfailed =>
    cases hfailed <;> simp only [List.mem_cons, List.not_mem_nil, or_false] at he
    · rcases he with rfl | rfl | rfl <;> simp
    · rcases he with rfl | rfl | rfl | rfl <;> simp
  | staged hparse =>
    rcases List.mem_append.mp he with he | he
    · simp only [List.mem_cons, List.not_mem_nil, or_false] at he
      rcases he with rfl | rfl | rfl | rfl <;> simp
    · obtain ⟨s, -, rfl⟩ := List.mem_map.mp he
      exact .inr (.inr ⟨_, s, hparse, rfl⟩)

/-! ## Rounds that end -/

@[simp] theorem outcomeOf_isStaged (r : PipelineResult) : (outcomeOf r).isStaged = true := by
  unfold outcomeOf
  split
  · rfl
  split
  · split <;> rfl
  · split <;> rfl

theorem cancelled_of_report {r : PipelineResult} (h : (outcomeOf r).report?.isSome = true) :
    r.cancelled = false := by
  unfold outcomeOf at h
  split at h
  · cases h
  · rename_i hcancelled
    simpa using hcancelled

theorem did_afterModule {depth : Nat} (h : afterModule w p depth m = some (o, m')) :
    (∃ ran, ran <+: Stage.all ∧ Did m (ran.map (Pipeline.eventOf p.name depth)) m') ∧
      o.isStaged = true ∧ (o.report?.isSome = true → m'.stopped = false) := by
  obtain ⟨⟨r, m₁⟩, hrun, h⟩ := Option.map_eq_some_iff.mp h
  cases h
  obtain ⟨hran, hcancelled⟩ := did_runFrom (fun h => by cases h) hrun
  refine ⟨hran, outcomeOf_isStaged r, fun hreport => ?_⟩
  rw [← hcancelled, cancelled_of_report hreport]

/-- The state of a round whose answer has been kept. -/
abbrev keptAnswer (w : World σ) (p : Plan) (text : Text) (m : Machine σ) : Machine σ :=
  (w.write p.limits.artifactDirectory (outputFile p.limits.artifactDirectory p.name.id) text m).2

theorem did_keptAnswer (w : World σ) (p : Plan) (text : Text) (m : Machine σ) : ∃ kept,
    Did m [.saved (outputFile p.limits.artifactDirectory p.name.id) text kept]
      (keptAnswer w p text m) := ⟨_, did_write w _ _ text m⟩

theorem did_afterAnswer (h : afterAnswer w p t text m = some (o, m')) :
    (∃ acts, Did m acts m' ∧ AnswerDeeds p t text (some o) acts) ∧
      (o.report?.isSome = true → m'.stopped = false) := by
  obtain ⟨kept, hkept⟩ := did_keptAnswer w p text m
  unfold afterAnswer at h
  dsimp only at h
  split at h
  · rename_i fault hparse
    cases h
    exact ⟨⟨_, hkept, .unread hparse⟩, fun hreport => by cases hreport⟩
  rename_i a hparse
  split at h
  · cases h
    exact ⟨⟨_, hkept, .unwritten hparse⟩, fun hreport => by cases hreport⟩
  rename_i hstopped
  have hbegin := hkept.trans (did_act (e := .writing) rfl (by simpa using hstopped))
  split at h
  · rename_i reason m₁ hmodule
    cases h
    obtain ⟨saves, hdid, hsaves⟩ := did_writeModule hmodule
    exact ⟨⟨_, hbegin.trans hdid, .written hparse hsaves⟩, fun hreport => by cases hreport⟩
  · rename_i m₁ hmodule
    obtain ⟨saves, hdid, hsaves⟩ := did_writeModule hmodule
    obtain ⟨⟨ran, hran, hstages⟩, hstaged, hreport⟩ := did_afterModule h
    cases hsaves
    refine ⟨⟨_, (hbegin.trans hdid).trans hstages, .staged hparse hran ?_⟩, hreport⟩
    rintro o' ho
    cases ho
    exact hstaged

theorem did_ask {prompt : Text} {ending : Ending (Except Model.Fault Text)}
    (hm : m.stopped = false) (h : ask w p prompt m = some (ending, m')) :
    Did m [.asked p.limits.model prompt] m' := (did_act rfl hm).trans (did_attempt h)

theorem did_afterPrompt {prompt : Text} (hm : m.stopped = false)
    (h : afterPrompt w p t prompt m = some (o, m')) :
    (Did m [.asked p.limits.model prompt] m' ∧
        (o = .cancelled ∨ ∃ reason, o = .failed .model reason)) ∨
      ∃ text acts, Did m ([.asked p.limits.model prompt, .answered text] ++ acts) m' ∧
        AnswerDeeds p t text (some o) acts ∧ (o.report?.isSome = true → m'.stopped = false) := by
  unfold afterPrompt at h
  split at h
  · cases h
  · rename_i m₁ hask
    cases h
    exact .inl ⟨did_ask hm hask, .inl rfl⟩
  · rename_i m₁ hask
    cases h
    exact .inl ⟨did_ask hm hask, .inr ⟨_, rfl⟩⟩
  · rename_i fault m₁ hask
    cases h
    exact .inl ⟨did_ask hm hask, .inr ⟨_, rfl⟩⟩
  · rename_i text m₁ hask
    obtain ⟨⟨acts, hdid, hdeeds⟩, hreport⟩ := did_afterAnswer h
    have hanswered := (did_ask hm hask).trans (did_end (e := .answered text) rfl m₁)
    exact .inr ⟨text, acts, hanswered.trans hdid, hdeeds, hreport⟩

theorem did_conclude (h : o.report?.isSome = true → m.stopped = false) :
    Did m (recordedOf (some o)) (m.conclude o) := by
  unfold Machine.conclude recordedOf
  cases hreport : o.report? with
  | none => simpa [hreport] using Did.refl m
  | some report => simpa [hreport] using did_act (e := .recorded report) rfl (h (by simp [hreport]))

/-- The state of a round whose prompt has been kept. -/
abbrev prompted (w : World σ) (p : Plan) (g : Progress) (m : Machine σ) : Machine σ :=
  (w.write p.limits.artifactDirectory (promptFile p.limits.artifactDirectory p.name.id)
    (promptOf p g.feedback) (m.note (.round g.iteration))).2

theorem did_prompted (w : World σ) (p : Plan) (g : Progress) (hm : m.stopped = false) :
    ∃ kept, Did m [.round g.iteration, .saved (promptFile p.limits.artifactDirectory p.name.id)
      (promptOf p g.feedback) kept] (prompted w p g m) :=
  ⟨_, (did_act (e := .round g.iteration) rfl hm).trans (did_write w _ _ _ _)⟩

/-- A round that begins without a stop request does what rounds do. -/
theorem round_deeds {g g' : Progress} (hm : m.stopped = false)
    (h : round w p t g m = some (o, g', m')) :
    ∃ acts, Did m acts m' ∧ Deeds p t g.iteration g.feedback (some o) acts := by
  obtain ⟨kept, hbegin⟩ := did_prompted w p g hm
  unfold round at h
  dsimp only at h
  split at h
  · cases h
    exact ⟨_, hbegin, .unasked⟩
  rename_i hstopped
  obtain ⟨⟨o', m₁⟩, hprompt, h⟩ := Option.map_eq_some_iff.mp h
  cases h
  rcases did_afterPrompt (by simpa using hstopped) hprompt with
    ⟨hdid, hends⟩ | ⟨text, acts, hdid, hdeeds, hreport⟩
  · have hnone : o'.report? = none := by
      rcases hends with rfl | ⟨reason, rfl⟩ <;> rfl
    have hconclude := did_conclude (m := m₁) (o := o') fun h => by simp [hnone] at h
    have hall := (hbegin.trans hdid).trans hconclude
    rw [recordedOf, Option.bind_some, hnone] at hall
    refine ⟨_, hall, .unanswered fun o'' ho => ?_⟩
    cases ho
    exact hends
  · refine ⟨_, (hbegin.trans hdid).trans (did_conclude hreport), ?_⟩
    have := @Deeds.answered p t g.iteration g.feedback kept text _ _ hdeeds
    simpa using this

/-! ## Rounds that wait -/

/-- A round waits in the given state for a call that never returns. -/
inductive Waits (w : World σ) (p : Plan) (t : EngineModule.Template) (g : Progress)
    (m : Machine σ) : Machine σ → Prop where
  | model (unstopped : (prompted w p g m).stopped = false)
      (waits : ask w p (promptOf p g.feedback) (prompted w p g m) = none) :
      Waits w p t g m (((prompted w p g m).note
        (.asked p.limits.model (promptOf p g.feedback))).during
          (w.complete p.limits.model (promptOf p g.feedback)))
  | stages {text : Text} {a : Answer} {m₁ m₂ n : Machine σ}
      (unstopped : (prompted w p g m).stopped = false)
      (answered : ask w p (promptOf p g.feedback) (prompted w p g m) =
        some (.finished (.ok text), m₁))
      (parsed : Answer.parse p.catalogue text = .ok a)
      (unstopped' : (keptAnswer w p text (m₁.note (.answered text))).stopped = false)
      (written : writeModule w p.layout (moduleOf p t a)
        ((keptAnswer w p text (m₁.note (.answered text))).note .writing) = (.ok (), m₂))
      (waits : StagesWait w p.stages p.name a.depth Stage.all m₂ n) : Waits w p t g m n

/-- What a round that waits has done before. -/
theorem Waits.deeds {g : Progress} (hm : m.stopped = false) (h : Waits w p t g m n) :
    ∃ acts, Did m acts n ∧ n.stopped = false ∧
      Deeds p t g.iteration g.feedback none acts := by
  obtain ⟨kept, hbegin⟩ := did_prompted w p g hm
  cases h with
  | model hstopped hwaits =>
    have hasked := (did_act (e := .asked p.limits.model (promptOf p g.feedback)) rfl hstopped).trans
      (did_during _ (w.complete p.limits.model (promptOf p g.feedback)))
    exact ⟨_, hbegin.trans hasked, stopped_during hwaits, .unanswered fun o' ho => by cases ho⟩
  | @stages text a m₁ m₂ _ hstopped hanswered hparse hstopped' hwritten hwaits =>
    obtain ⟨⟨ran, hran, hstages⟩, hn⟩ := hwaits.did
    obtain ⟨saves, hdid, hsaves⟩ := did_writeModule hwritten
    cases hsaves
    obtain ⟨kept', hkept⟩ := did_keptAnswer w p text (m₁.note (.answered text))
    have hanswer := ((did_ask hstopped hanswered).trans (did_end (e := .answered text) rfl m₁)).trans
      hkept
    have hmodule := (did_act (e := .writing) rfl hstopped').trans hdid
    refine ⟨_, (hbegin.trans hanswer).trans (hmodule.trans hstages), hn, ?_⟩
    have := @Deeds.answered p t g.iteration g.feedback kept text none _
      (@AnswerDeeds.staged p t text kept' a ran none hparse hran fun o' ho => by cases ho)
    simpa [recordedOf] using this

/-- A round that does not end waits. -/
theorem round_waits {g : Progress} (h : round w p t g m = none) : ∃ n, Waits w p t g m n := by
  unfold round at h
  dsimp only at h
  split at h
  · cases h
  rename_i hstopped
  have hm : (prompted w p g m).stopped = false := by simpa using hstopped
  have hprompt := Option.map_eq_none_iff.mp h
  unfold afterPrompt at hprompt
  split at hprompt
  · rename_i hask
    exact ⟨_, .model hm hask⟩
  · cases hprompt
  · cases hprompt
  · cases hprompt
  rename_i text m₁ hask
  unfold afterAnswer at hprompt
  dsimp only at hprompt
  split at hprompt
  · cases hprompt
  rename_i a hparse
  split at hprompt
  · cases hprompt
  rename_i hstopped'
  split at hprompt
  · cases hprompt
  rename_i m₂ hwritten
  obtain ⟨n, hn⟩ := runFrom_stagesWait (Option.map_eq_none_iff.mp hprompt)
  exact ⟨n, .stages hm hask hparse (by simpa using hstopped') hwritten hn⟩

end PrimitiveSearch.Search
