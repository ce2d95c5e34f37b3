import PrimitiveSearch.Proofs.Search.Stops
import PrimitiveSearch.Rehearsal.Bench
import PrimitiveSearch.Search.Equipment

/-!
# The discipline of the stages

* `StageRun`, `StageRun.Took` — a stage that ran: what its collaborator replied, how its call ended
  under its limit, and the result that fits this.
* `Passage` — the stages that ran one after another, and what ended them.  `runFrom_passage`: every
  run of the pipeline is such a passage.
* `Labelled` — results carry the names of their stages; `labelled_equipment`: those of real
  programs do.
* `run_disciplined` — what a result says agrees with the stages that ran, and a run returns unless
  a stage without a limit goes on for ever and no stop is requested.
-/

set_option autoImplicit false

namespace PrimitiveSearch.Pipeline

open Search

variable {σ : Type} {w : World σ} {l : Limits} {task : TaskName} {depth : Nat} {s : Stage}
  {stages : List Stage} {m m' m₁ : Machine σ} {result : StageResult} {r : PipelineResult}

/-! ## One stage -/

/-- A stage that ran. -/
structure StageRun where
  stage : Stage
  /-- What the collaborator replied, and whether a stop was requested meanwhile. -/
  reply : Reply (Ending StageResult)
  /-- How the call ended under the limit of the stage. -/
  ending : Ending StageResult
  result : StageResult

/-- The result that fits an ending: what the collaborator said, or else a failure that says why it
was given up. -/
def Fits (l : Limits) (s : Stage) (result : StageResult) : Ending StageResult → Prop
  | .finished told => result = told
  | .expired => ∃ limit d, l.of s = some limit ∧ result = .fail s (timeoutText limit) [] d
  | .interrupted => ∃ d, result = .fail s cancelledText [] d

/-- How a stage led from one state to another. -/
structure StageRun.Took (w : World σ) (l : Limits) (task : TaskName) (depth : Nat)
    (m : Machine σ) (x : StageRun) (m' : Machine σ) : Prop where
  unstopped : m.stopped = false
  replied : x.reply = (callOf w task depth x.stage (begun w task depth x.stage m).world).1
  ended : x.reply.value.settle (l.of x.stage) x.reply.stops = some x.ending
  fits : Fits l x.stage x.result x.ending
  stopped : m'.stopped = x.reply.stops
  did : Did m [eventOf task depth x.stage] m'

theorem stopped_eq_during {α : Type} (m : Machine σ) (call : σ → Reply α × σ) :
    (m.during call).stopped = (m.stopped || (call m.world).1.stops) := Machine.stopped_after ..

theorem attempt_eq_some_iff {α : Type} {limit : Option Duration}
    {call : σ → Reply (Ending α) × σ} {ending : Ending α} :
    m.attempt limit call = some (ending, m') ↔
      (call m.world).1.value.settle limit (m.stopped || (call m.world).1.stops) = some ending ∧
        m' = m.during call := by
  rw [← stopped_eq_during]
  constructor
  · intro h
    obtain ⟨e, he, h⟩ := Option.map_eq_some_iff.mp h
    cases h
    exact ⟨he, rfl⟩
  · rintro ⟨h, rfl⟩
    exact Option.map_eq_some_iff.mpr ⟨ending, h, rfl⟩

/-- Only a call with a limit expires. -/
theorem exists_limit_of_expired {α : Type} {limit : Option Duration} {stops : Bool}
    {ending : Ending α} (h : ending.settle limit stops = some .expired) : ∃ d, limit = some d := by
  apply Option.isSome_iff_exists.mp
  cases ending <;> cases limit <;> cases stops <;> first | rfl | cases h

/-- Only a requested stop interrupts a call. -/
theorem stops_of_interrupted {α : Type} {limit : Option Duration} {stops : Bool}
    {ending : Ending α} (h : ending.settle limit stops = some .interrupted) : stops = true := by
  cases ending <;> cases limit <;> cases stops <;> first | rfl | cases h

theorem value_of_finished {α : Type} {limit : Option Duration} {stops : Bool} {ending : Ending α}
    {a : α} (h : ending.settle limit stops = some (.finished a)) : ending = .finished a := by
  cases ending with
  | finished b => simpa using h
  | expired => cases limit <;> cases stops <;> cases h
  | interrupted => cases limit <;> cases stops <;> cases h

/-- A stage that returns took its time: what it yields fits what its collaborator did. -/
theorem runStage_took (hm : m.stopped = false)
    (h : runStage w l task depth s m = some (result, m')) :
    ∃ x : StageRun, x.stage = s ∧ x.result = result ∧ x.Took w l task depth m m' := by
  have hdid := did_runStage hm h
  have hbegun : (begun w task depth s m).stopped = false := hm
  unfold runStage at h
  dsimp only at h
  split at h
  · cases h
  all_goals
    rename_i m₁ hcall
    obtain ⟨hsettle, rfl⟩ := attempt_eq_some_iff.mp hcall
    have hstopped : ((begun w task depth s m).during (callOf w task depth s)).stopped =
        (callOf w task depth s (begun w task depth s m).world).1.stops := by
      rw [stopped_eq_during, hbegun, Bool.false_or]
    rw [hbegun, Bool.false_or] at hsettle
    cases h
  · exact ⟨⟨s, _, .finished result, result⟩, rfl, rfl, hm, rfl, hsettle, rfl, hstopped, hdid⟩
  · obtain ⟨limit, hlimit⟩ := exists_limit_of_expired hsettle
    have hfits : ∀ d, Fits l s (.fail s (timeoutText ((l.of s).getD .zero)) [] d) .expired :=
      fun d => ⟨limit, d, hlimit, by rw [hlimit]; rfl⟩
    exact ⟨⟨s, _, .expired, _⟩, rfl, rfl, hm, rfl, hsettle, hfits _, hstopped, hdid⟩
  · exact ⟨⟨s, _, .interrupted, _⟩, rfl, rfl, hm, rfl, hsettle, ⟨_, rfl⟩, hstopped, hdid⟩

/-! ## One stage after another -/

/-- From one state to another the first of some stages ran, until a stop was requested, a failure
ended the run, or no stage was left.  The flag tells whether it was a stop request. -/
inductive Passage (w : World σ) (l : Limits) (task : TaskName) (depth : Nat) :
    List Stage → Machine σ → List StageRun → Bool → Machine σ → Prop where
  | stopped {stages : List Stage} {m : Machine σ} (stopped : m.stopped = true) :
      Passage w l task depth stages m [] true m
  | done {m : Machine σ} (unstopped : m.stopped = false) : Passage w l task depth [] m [] false m
  | broken {x : StageRun} {rest : List Stage} {m m' : Machine σ} (took : x.Took w l task depth m m')
      (unstopped : m'.stopped = false) (failed : x.result.passed = false)
      (failFast : l.failFast = true) : Passage w l task depth (x.stage :: rest) m [x] false m'
  | next {x : StageRun} {rest : List Stage} {ran : List StageRun} {cut : Bool}
      {m m₁ m' : Machine σ} (took : x.Took w l task depth m m₁)
      (goesOn : m₁.stopped = true ∨ x.result.passed = true ∨ l.failFast = false)
      (more : Passage w l task depth rest m₁ ran cut m') :
      Passage w l task depth (x.stage :: rest) m (x :: ran) cut m'

theorem runFrom_passage {results : List StageResult} (hm : stages = [] → m.stopped = false)
    (h : runFrom w l task depth stages results m = some (r, m')) :
    ∃ ran, Passage w l task depth stages m ran r.cancelled m' ∧
      r.results = results ++ ran.map StageRun.result := by
  -- one step for each stage that is left: its branches are the constructors of `Passage`
  induction stages generalizing results m with
  | nil =>
    cases h
    exact ⟨[], .done (hm rfl), by simp⟩
  | cons s rest ih =>
    unfold runFrom at h
    split at h
    · rename_i hstopped
      cases h
      exact ⟨[], .stopped hstopped, by simp⟩
    rename_i hstopped
    split at h
    · cases h
    rename_i result m₁ hstage
    obtain ⟨x, rfl, rfl, hx⟩ := runStage_took (by simpa using hstopped) hstage
    split at h
    · rename_i hstopped₁
      cases h
      exact ⟨[x], .next hx (.inl hstopped₁) (.stopped hstopped₁), rfl⟩
    rename_i hstopped₁
    have hm₁ : m₁.stopped = false := by simpa using hstopped₁
    split at h
    · rename_i hbroken
      cases h
      have hboth : x.result.passed = false ∧ l.failFast = true := by simpa using hbroken
      exact ⟨[x], .broken hx hm₁ hboth.1 hboth.2, rfl⟩
    · rename_i hgoesOn
      obtain ⟨ran, hran, hresults⟩ := ih (fun _ => hm₁) h
      have hgoes : x.result.passed = true ∨ l.failFast = false := by
        cases hp : x.result.passed with
        | true => exact .inl rfl
        | false => exact .inr (by simpa [hp] using hgoesOn)
      exact ⟨x :: ran, .next hx (.inr hgoes) hran, by rw [hresults]; simp⟩

namespace Passage

variable {ran : List StageRun} {cut : Bool}

/-- The stages that ran are the first of those that were left. -/
theorem isPrefix (h : Passage w l task depth stages m ran cut m') :
    ran.map StageRun.stage <+: stages := by
  induction h with
  | stopped _ => exact List.nil_prefix
  | done _ => exact List.nil_prefix
  | broken _ _ _ _ => exact List.cons_prefix_cons.mpr ⟨rfl, List.nil_prefix⟩
  | next _ _ _ ih => exact List.cons_prefix_cons.mpr ⟨rfl, ih⟩

/-- Nothing but the stages that ran was begun. -/
theorem did (h : Passage w l task depth stages m ran cut m') :
    Did m (ran.map fun x => eventOf task depth x.stage) m' := by
  induction h with
  | stopped _ => exact Did.refl _
  | done _ => exact Did.refl _
  | broken took _ _ _ => exact took.did
  | next took _ _ ih => exact took.did.trans ih

/-- Only a stop request cuts a run short: one before it, or one during a stage that ran. -/
theorem cut_iff (h : Passage w l task depth stages m ran cut m') :
    cut = true ↔ m.stopped = true ∨ ∃ x ∈ ran, x.reply.stops = true := by
  induction h with
  | stopped hm => simp [hm]
  | done hm => simp [hm]
  | broken took hm' _ _ =>
    rw [took.stopped] at hm'
    simp [took.unstopped, hm']
  | next took _ _ ih => simp [ih, took.unstopped, took.stopped]

theorem took (h : Passage w l task depth stages m ran cut m') {x : StageRun} (hx : x ∈ ran) :
    ∃ m₁ m₂, x.Took w l task depth m₁ m₂ := by
  induction h with
  | stopped _ => cases hx
  | done _ => cases hx
  | broken took _ _ _ =>
    rw [List.mem_singleton.mp hx]
    exact ⟨_, _, took⟩
  | next took _ _ ih =>
    rcases List.mem_cons.mp hx with rfl | hx
    · exact ⟨_, _, took⟩
    · exact ih hx

/-- A run that was not cut short has no stage left, or its last stage failed. -/
theorem complete (h : Passage w l task depth stages m ran cut m') (hcut : cut = false) :
    ran.map StageRun.stage = stages ∨
      ∃ front x, ran = front ++ [x] ∧ x.result.passed = false ∧ l.failFast = true := by
  induction h with
  | stopped _ => cases hcut
  | done _ => exact .inl rfl
  | broken _ _ failed failFast => exact .inr ⟨[], _, rfl, failed, failFast⟩
  | @next x _ ran _ _ _ _ _ _ _ ih =>
    rcases ih hcut with hall | ⟨front, y, rfl, hy⟩
    · exact .inl (by rw [List.map_cons, hall])
    · exact .inr ⟨x :: front, y, rfl, hy⟩

/-- A stage that another one follows was not interrupted by a stop request, and if it failed then
failures do not end the run. -/
theorem goesOn (h : Passage w l task depth stages m ran cut m') {front back : List StageRun}
    {x y : StageRun} (hran : ran = front ++ x :: y :: back) :
    x.reply.stops = false ∧ (x.result.passed = true ∨ l.failFast = false) := by
  induction h generalizing front with
  | stopped _ => simp at hran
  | done _ => simp at hran
  | broken _ _ _ _ => cases front <;> simp at hran
  | @next z _ ran _ _ m₁ _ took goesOn more ih =>
    cases front with
    | cons d front =>
      obtain ⟨-, hran⟩ := List.cons.inj hran
      exact ih hran
    | nil =>
      obtain ⟨rfl, rfl⟩ := List.cons.inj hran
      -- the stage that follows began without a stop request
      have hm₁ : m₁.stopped = false := by
        cases more with
        | broken took' _ _ _ => exact took'.unstopped
        | next took' _ _ => exact took'.unstopped
      rw [took.stopped] at hm₁ goesOn
      exact ⟨hm₁, goesOn.resolve_left (by simp [hm₁])⟩

end Passage

/-! ## Results that carry their names -/

/-- Every result carries the name of its stage, and a build has no report. -/
structure Labelled (w : World σ) (task : TaskName) (depth : Nat) : Prop where
  stage : ∀ s x result, (callOf w task depth s x).1.value = .finished result →
    result.stage = s.name
  report : ∀ x result, (w.build x).1.value = .finished result → result.report? = none

theorem stage_buildResult (p : BuildPlan) (run : ProgramRun) (d : Duration) :
    (p.result run d).stage = Stage.build.name ∧ (p.result run d).report? = none := by
  unfold BuildPlan.result
  split
  · exact ⟨rfl, rfl⟩
  · dsimp only
    split <;> exact ⟨rfl, rfl⟩

@[simp] theorem stage_engineResult (engine : Path) (run : ProgramRun) (d : Duration) :
    (Engine.result engine run d).stage = Stage.evaluate.name := by
  unfold Engine.result
  split
  · rfl
  · dsimp only
    split
    · split <;> rfl
    · rfl

theorem exists_of_map {α β : Type} {f : α → β} {ending : Ending α} {b : β}
    (h : ending.map f = .finished b) : ∃ a, ending = .finished a ∧ f a = b := by
  cases ending with
  | finished a => exact ⟨a, rfl, Ending.finished.inj h⟩
  | expired => cases h
  | interrupted => cases h

/-- The container runtime and the engine are such collaborators. -/
theorem labelled_equipment (e : Equipment) (h : Host σ) (task : TaskName) (depth : Nat) :
    Labelled (e.world h) task depth := by
  have hbuild : ∀ x result, ((e.world h).build x).1.value = .finished result →
      result.stage = Stage.build.name ∧ result.report? = none := by
    intro x result hx
    obtain ⟨⟨run, d⟩, -, rfl⟩ := exists_of_map hx
    exact stage_buildResult e.build run d
  refine ⟨fun s x result hx => ?_, fun x result hx => (hbuild x result hx).2⟩
  cases s with
  | build => exact (hbuild x result hx).1
  | evaluate =>
    obtain ⟨⟨run, d⟩, -, rfl⟩ := exists_of_map hx
    exact stage_engineResult e.engine run d

/-- A result is what the collaborator said, or a failure in the name of the stage that says why it
was given up. -/
theorem StageRun.Took.result_cases {x : StageRun} (h : x.Took w l task depth m m') :
    (∃ y, (callOf w task depth x.stage y).1.value = .finished x.result) ∨
      ∃ error d, x.result = .fail x.stage error [] d ∧
        (error = cancelledText ∨ ∃ limit, error = timeoutText limit) := by
  have hended := h.ended
  have hfits := h.fits
  rw [h.replied] at hended
  cases hending : x.ending with
  | finished told =>
    rw [hending] at hended hfits
    obtain rfl : x.result = told := hfits
    exact .inl ⟨_, value_of_finished hended⟩
  | expired =>
    rw [hending] at hfits
    obtain ⟨limit, d, -, hresult⟩ := hfits
    exact .inr ⟨_, d, hresult, .inr ⟨limit, rfl⟩⟩
  | interrupted =>
    rw [hending] at hfits
    obtain ⟨d, hresult⟩ := hfits
    exact .inr ⟨_, d, hresult, .inl rfl⟩

theorem StageRun.Took.stage_result {x : StageRun} (h : x.Took w l task depth m m')
    (hw : Labelled w task depth) : x.result.stage = x.stage.name := by
  rcases h.result_cases with ⟨y, hy⟩ | ⟨error, d, hresult, -⟩
  · exact hw.stage _ _ _ hy
  · simp [hresult]

theorem StageRun.Took.report_build {x : StageRun} (h : x.Took w l task depth m m')
    (hw : Labelled w task depth) (hx : x.stage = .build) : x.result.report? = none := by
  rcases h.result_cases with ⟨y, hy⟩ | ⟨error, d, hresult, -⟩
  · rw [hx] at hy
    exact hw.report _ _ hy
  · simp [hresult]

/-! ## Both stages -/

namespace Passage

variable {ran : List StageRun} {cut : Bool} {x : StageRun}

/-- Nothing ran, or the build alone, or the build and then the engine. -/
theorem shape (h : Passage w l task depth Stage.all m ran cut m') : ran = [] ∨
    (∃ b, ran = [b] ∧ b.stage = .build) ∨
      ∃ b e, ran = [b, e] ∧ b.stage = .build ∧ e.stage = .evaluate := by
  have hprefix : ran.map StageRun.stage <+: [.build, .evaluate] := h.isPrefix
  match ran with
  | [] => exact .inl rfl
  | [b] => exact .inr (.inl ⟨b, rfl, (List.cons_prefix_cons.mp hprefix).1⟩)
  | [b, e] =>
    obtain ⟨hb, hrest⟩ := List.cons_prefix_cons.mp hprefix
    exact .inr (.inr ⟨b, e, rfl, hb, (List.cons_prefix_cons.mp hrest).1⟩)
  | b :: e :: x :: xs =>
    have hlength := hprefix.length_le
    simp at hlength

/-- If the engine ran, then the build ran before it and nothing else. -/
theorem eq_pair_of_engine (h : Passage w l task depth Stage.all m ran cut m') (hx : x ∈ ran)
    (hstage : x.stage = .evaluate) : ∃ b, ran = [b, x] ∧ b.stage = .build := by
  rcases h.shape with rfl | ⟨b, rfl, hb⟩ | ⟨b, e, rfl, hb, -⟩
  · cases hx
  · rw [List.mem_singleton.mp hx, hb] at hstage
    cases hstage
  · rcases List.mem_cons.mp hx with rfl | hx
    · rw [hb] at hstage
      cases hstage
    · rw [List.mem_singleton.mp hx]
      exact ⟨b, rfl, hb⟩

theorem uncancelled (h : Passage w l task depth Stage.all m ran cut m') (hcut : cut = false) :
    ran.map StageRun.stage = Stage.all ∨
      ∃ b, ran = [b] ∧ b.stage = .build ∧ b.result.passed = false ∧ l.failFast = true := by
  rcases h.complete hcut with hall | ⟨front, x, hran, hfailed, hfast⟩
  · exact .inl hall
  rcases h.shape with rfl | ⟨b, rfl, hb⟩ | ⟨b, e, rfl, hb, he⟩
  · simp at hran
  · obtain rfl : b = x := by
      cases front with
      | nil => simpa using hran
      | cons y front => simp at hran
    exact .inr ⟨b, rfl, hb, hfailed, hfast⟩
  · exact .inl (by rw [List.map_cons, List.map_singleton, hb, he]; rfl)

theorem timeout (h : Passage w l task depth stages m ran cut m') (hx : x ∈ ran)
    (hexpired : x.ending = .expired) : ∃ limit, l.of x.stage = some limit ∧
      x.result.passed = false ∧ x.result.error? = some (timeoutText limit) := by
  obtain ⟨m₁, m₂, htook⟩ := h.took hx
  have hfits := htook.fits
  rw [hexpired] at hfits
  obtain ⟨limit, d, hlimit, hresult⟩ := hfits
  exact ⟨limit, hlimit, by simp [hresult]⟩

theorem interruption (h : Passage w l task depth stages m ran cut m') (hx : x ∈ ran)
    (hinterrupted : x.ending = .interrupted) : x.reply.stops = true ∧
      x.result.passed = false ∧ x.result.error? = some cancelledText := by
  obtain ⟨m₁, m₂, htook⟩ := h.took hx
  have hended := htook.ended
  have hfits := htook.fits
  rw [hinterrupted] at hended hfits
  obtain ⟨d, hresult⟩ := hfits
  exact ⟨stops_of_interrupted hended, by simp [hresult]⟩

end Passage

theorem firstFailure_eq_some_iff {ran : List StageRun}
    (hr : r.results = ran.map StageRun.result) : r.firstFailure = some result ↔
      ∃ before x after, ran = before ++ x :: after ∧ x.result = result ∧ result.passed = false ∧
        ∀ y ∈ before, y.result.passed = true := by
  rw [PipelineResult.firstFailure, hr, List.find?_map, Option.map_eq_some_iff]
  constructor
  · rintro ⟨x, hx, rfl⟩
    obtain ⟨hfailed, before, after, rfl, hbefore⟩ := List.find?_eq_some_iff_append.mp hx
    exact ⟨before, x, after, rfl, rfl, by simpa using hfailed, by simpa using hbefore⟩
  · rintro ⟨before, x, after, rfl, rfl, hfailed, hbefore⟩
    exact ⟨x, List.find?_eq_some_iff_append.mpr
      ⟨by simpa using hfailed, before, after, rfl, by simpa using hbefore⟩, rfl⟩

theorem firstFailure_eq_none_iff {ran : List StageRun}
    (hr : r.results = ran.map StageRun.result) :
    r.firstFailure = none ↔ ∀ x ∈ ran, x.result.passed = true := by
  rw [PipelineResult.firstFailure, hr, List.find?_eq_none]
  simp

/-- What a result of the pipeline says, put beside the stages that ran. -/
structure Disciplined (w : World σ) (l : Limits) (task : TaskName) (depth : Nat)
    (m m' : Machine σ) (ran : List StageRun) (r : PipelineResult) : Prop where
  passage : Passage w l task depth Stage.all m ran r.cancelled m'
  begun : Did m (ran.map fun x => eventOf task depth x.stage) m'
  results : r.results = ran.map StageRun.result
  inOrder : r.results.map StageResult.stage <+: Stage.all.map Stage.name
  /-- The engine runs only after a build that was not interrupted, and that passed unless failures
  do not end the run. -/
  engine : ∀ x ∈ ran, x.stage = .evaluate → ∃ b, ran = [b, x] ∧ b.stage = .build ∧
    b.reply.stops = false ∧ (b.result.passed = true ∨ l.failFast = false)
  uncancelled : r.cancelled = false → ran.map StageRun.stage = Stage.all ∨
    ∃ b, ran = [b] ∧ b.stage = .build ∧ b.result.passed = false ∧ l.failFast = true
  allPassed : r.allPassed = true ↔ r.cancelled = false ∧ ran.map StageRun.stage = Stage.all ∧
    ∀ x ∈ ran, x.result.passed = true
  firstFailure : ∀ s, r.firstFailure = some s ↔ ∃ before x after, ran = before ++ x :: after ∧
    x.result = s ∧ s.passed = false ∧ ∀ y ∈ before, y.result.passed = true
  noFailure : r.firstFailure = none ↔ ∀ x ∈ ran, x.result.passed = true
  report : ∀ x ∈ ran, x.stage = .evaluate → ∀ report, x.result.verdict = .passed (some report) →
    r.report = some report
  /-- Only stop requests cancel a run; in particular no stage does whose time is over. -/
  cancelled : r.cancelled = true ↔ m.stopped = true ∨ ∃ x ∈ ran, x.reply.stops = true
  timeout : ∀ x ∈ ran, x.ending = .expired → ∃ limit, l.of x.stage = some limit ∧
    x.result.passed = false ∧ x.result.error? = some (timeoutText limit)
  interruption : ∀ x ∈ ran, x.ending = .interrupted → x.reply.stops = true ∧
    x.result.passed = false ∧ x.result.error? = some cancelledText

theorem disciplined_of_passage {ran : List StageRun} (hw : Labelled w task depth)
    (h : Passage w l task depth Stage.all m ran r.cancelled m')
    (hr : r.results = ran.map StageRun.result) : Disciplined w l task depth m m' ran r := by
  have hnames : r.results.map StageResult.stage = ran.map fun x => x.stage.name := by
    rw [hr, List.map_map]
    refine List.map_congr_left fun x hx => ?_
    obtain ⟨m₁, m₂, htook⟩ := h.took hx
    exact htook.stage_result hw
  have hnone := firstFailure_eq_none_iff hr
  refine ⟨h, h.did, hr, ?_, fun x hx hstage => ?_, h.uncancelled, ?_,
    fun s => firstFailure_eq_some_iff hr, hnone, fun x hx hstage report hreport => ?_, h.cut_iff,
    fun x hx => h.timeout hx, fun x hx => h.interruption hx⟩
  · rw [hnames, show (fun x : StageRun => x.stage.name) = Stage.name ∘ StageRun.stage from rfl,
      ← List.map_map]
    exact h.isPrefix.map _
  · obtain ⟨b, rfl, hb⟩ := h.eq_pair_of_engine hx hstage
    exact ⟨b, rfl, hb, h.goesOn (List.nil_append [b, x]).symm⟩
  · rw [PipelineResult.allPassed, Bool.and_eq_true, Option.isNone_iff_eq_none, hnone,
      Bool.not_eq_true']
    constructor
    · rintro ⟨hcancelled, hpassed⟩
      rcases h.uncancelled hcancelled with hall | ⟨b, rfl, -, hfailed, -⟩
      · exact ⟨hcancelled, hall, hpassed⟩
      · rw [hpassed b List.mem_cons_self] at hfailed
        cases hfailed
    · rintro ⟨hcancelled, -, hpassed⟩
      exact ⟨hcancelled, hpassed⟩
  · obtain ⟨b, rfl, hb⟩ := h.eq_pair_of_engine hx hstage
    obtain ⟨m₁, m₂, htook⟩ := h.took (x := b) List.mem_cons_self
    have hreport' : x.result.report? = some report := by
      rw [StageResult.report?, hreport]
    rw [PipelineResult.report, hr]
    simp [htook.report_build hw hb, hreport']

/-! ## Runs that never return -/

/-- A call is waited for in vain if it has no limit, does not end by itself and no stop is
requested. -/
theorem settle_eq_none_iff {α : Type} {limit : Option Duration} {stops : Bool}
    {ending : Ending α} : ending.settle limit stops = none ↔
      limit = none ∧ stops = false ∧ ∀ a, ending ≠ .finished a := by
  cases ending <;> cases limit <;> cases stops <;> simp [Ending.settle]

theorem exists_unending {n : Machine σ} (h : StagesWait w l task depth stages m n) :
    ∃ s, l.of s = none ∧ ∃ y, (callOf w task depth s y).1.stops = false ∧
      ∀ result, (callOf w task depth s y).1.value ≠ .finished result := by
  induction h with
  | @here s rest m hm hwaits =>
    obtain ⟨hlimit, hstopped, hvalue⟩ := settle_eq_none_iff.mp (Option.map_eq_none_iff.mp hwaits)
    have hstops := (stopped_eq_during (begun w task depth s m) (callOf w task depth s)).symm.trans
      hstopped
    exact ⟨s, hlimit, _, (Bool.or_eq_false_iff.mp hstops).2, hvalue⟩
  | later _ _ _ _ _ ih => exact ih

/-- A run returns if every stage has a limit, comes to its end or is met by a stop request. -/
theorem exists_result (h : ∀ s, (l.of s).isSome = true ∨
    ∀ y, (callOf w task depth s y).1.stops = true ∨
      ∃ result, (callOf w task depth s y).1.value = .finished result) (m : Machine σ) :
    ∃ r m', run w l task depth m = some (r, m') := by
  cases hrun : run w l task depth m with
  | some x => exact ⟨x.1, x.2, rfl⟩
  | none =>
    obtain ⟨n, hn⟩ := runFrom_stagesWait hrun
    obtain ⟨s, hlimit, y, hstops, hvalue⟩ := exists_unending hn
    rcases h s with hsome | hends
    · rw [hlimit] at hsome
      cases hsome
    · rcases hends y with hstopped | ⟨result, hresult⟩
      · rw [hstops] at hstopped
        cases hstopped
      · exact absurd hresult (hvalue result)

/-- A run that never returns waits for a stage, and nobody has requested a stop. -/
theorem run_eq_none_iff : run w l task depth m = none ↔
    ∃ n, StagesWait w l task depth Stage.all m n ∧ n.stopped = false := by
  constructor
  · intro h
    obtain ⟨n, hn⟩ := runFrom_stagesWait h
    exact ⟨n, hn, hn.did.2⟩
  · rintro ⟨n, hn, -⟩
    exact hn.runFrom_eq_none []

/-- **The stages keep their discipline**, whatever the collaborators do and whenever a stop is
requested: what a result says agrees with the stages that ran; there is a result if every stage
has a limit, comes to its end or is met by a stop request; and a run that never returns waits for a
stage without having been stopped, so that a stop request always ends it. -/
theorem run_disciplined (l : Limits) (m : Machine σ) (hw : Labelled w task depth) :
    (∀ r m', run w l task depth m = some (r, m') →
      ∃ ran, Disciplined w l task depth m m' ran r) ∧
    ((∀ s, (l.of s).isSome = true ∨ ∀ y, (callOf w task depth s y).1.stops = true ∨
      ∃ result, (callOf w task depth s y).1.value = .finished result) →
        ∃ r m', run w l task depth m = some (r, m')) ∧
    (run w l task depth m = none ↔
      ∃ n, StagesWait w l task depth Stage.all m n ∧ n.stopped = false) := by
  refine ⟨fun r m' h => ?_, fun h => exists_result h m, run_eq_none_iff⟩
  obtain ⟨ran, hran, hresults⟩ := runFrom_passage (fun h => by cases h) h
  exact ⟨ran, disciplined_of_passage hw hran hresults⟩

/-- A build that goes on for ever.  Under a limit its time is over, and the engine runs and passes
all the same; without a limit a stop request ends the run, and without a stop request nothing
does. -/
theorem run_disciplined_endless :
    let e : Equipment := {
      build := { BuildPlan.usual [] 1 with runtime := "/runtime" }
      workingDirectory := "/"
      engine := "/engine"
      model := .kept [] }
    let w := e.world Bench.host
    let within (limit : Option Duration) : Limits := ⟨limit, none, false⟩
    let task : TaskName := ⟨"training", "1"⟩
    let start (stops : Bool) : Machine Bench := ⟨{
      files := ⟨[(["runtime".toList], .file []), (["engine".toList], .file [])]⟩
      workingDirectory := []
      players := [⟨["runtime".toList], ⟨[⟨none, stops⟩]⟩, []⟩,
        ⟨["engine".toList], ⟨[⟨some (.ended (some 0) [48, 10, 102] []), false⟩]⟩, []⟩]
      server := fun _ => .failed [] }, false, []⟩
    let expired : PipelineResult := {
      results := [.fail .build "Timeout after 2s" [] .zero,
        .pass .evaluate (some ⟨.zero false, "f"⟩) "0\nf\n" .zero]
      cancelled := false }
    let interrupted : PipelineResult := {
      results := [.fail .build "Cancelled" [] .zero]
      cancelled := true }
    Labelled w task 2 ∧
      (∃ m' ran, run w (within (some (.ofSeconds 2))) task 2 (start false) = some (expired, m') ∧
        Disciplined w (within (some (.ofSeconds 2))) task 2 (start false) m' ran expired) ∧
      (∃ m' ran, run w (within none) task 2 (start true) = some (interrupted, m') ∧
        Disciplined w (within none) task 2 (start true) m' ran interrupted) ∧
      ∃ n, StagesWait w (within none) task 2 Stage.all (start false) n ∧ n.stopped = false := by
  intro e w within task start expired interrupted
  have hw : Labelled w task 2 := labelled_equipment e Bench.host task 2
  have hreturns : ∀ limits m r, (run w limits task 2 m).map Prod.fst = some r →
      ∃ m' ran, run w limits task 2 m = some (r, m') ∧
        Disciplined w limits task 2 m m' ran r := by
    intro limits m r hresult
    obtain ⟨⟨r', m'⟩, hrun, rfl⟩ := Option.map_eq_some_iff.mp hresult
    obtain ⟨ran, hran⟩ := (run_disciplined limits m hw).1 _ m' hrun
    exact ⟨m', ran, hrun, hran⟩
  refine ⟨hw, hreturns _ _ _ ?_, hreturns _ _ _ ?_, ?_⟩
  · decide +kernel
  · decide +kernel
  · have hrun : (run w (within none) task 2 (start false)).map Prod.fst = none := by
      decide +kernel
    exact (run_disciplined (within none) (start false) hw).2.2.mp (Option.map_eq_none_iff.mp hrun)

end PrimitiveSearch.Pipeline
