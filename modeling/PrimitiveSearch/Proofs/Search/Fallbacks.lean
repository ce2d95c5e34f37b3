import PrimitiveSearch.Proofs.Pipeline.Results
import PrimitiveSearch.Proofs.Search.Deeds

/-!
# What decides a round that came to its stages

* `FirstFailure` — the first stage that failed.
* `DecidedBy` — the outcome of a round against the stages that ran: which of them failed first, and
  that every reason and every report is one that a stage gave.
* `Settles` — the three ways in which an uncut run settles an outcome.
* `Reaches` — a round comes to its stages.  `round_staged`: a round that does not ends early, and
  one that does ends with the outcome that the results of the stages give.
* `Account` — a round that came to its stages.  `round_accounted`: every round of a host ends before
  its stages or has one, whatever its programs do.
-/

set_option autoImplicit false

namespace PrimitiveSearch.Search

open Pipeline

variable {σ : Type} {w : World σ} {e : Equipment} {h : Host σ} {p : Plan} {t : EngineModule.Template}
  {g g' : Progress} {m m' : Machine σ} {l : Pipeline.Limits} {task : TaskName} {depth : Nat}
  {o : Outcome} {r : PipelineResult} {ran : List StageRun} {x : StageRun}

/-! ## Stages that decide -/

/-- The first stage that failed. -/
def FirstFailure (ran : List StageRun) (x : StageRun) : Prop :=
  ∃ before after, ran = before ++ x :: after ∧ x.result.passed = false ∧
    ∀ y ∈ before, y.result.passed = true

/-- The build ran and then the engine, and nothing else. -/
def BothRan (ran : List StageRun) (b x : StageRun) : Prop :=
  ran = [b, x] ∧ b.stage = .build ∧ x.stage = .evaluate

/-- What the stages that ran make of a round that was not cut short. -/
structure DecidedBy (ran : List StageRun) (o : Outcome) : Prop where
  build : (∃ text, o = .failed .build text) ↔ ∃ b, FirstFailure ran b ∧ b.stage = .build
  engine : (∃ text, o = .failed .engine text) ↔
    ∃ b x, BothRan ran b x ∧ b.result.passed = true ∧ x.result.passed = false
  evaluated : (∃ report, o = .evaluated report) ↔
    ∃ b x, BothRan ran b x ∧ b.result.passed = true ∧ x.result.passed = true
  /-- A reason is that of the first stage that failed. -/
  reason : ∀ step text, o = .failed step text →
    ∃ x, FirstFailure ran x ∧ x.result.error? = some text
  /-- A report is that of the engine. -/
  report : ∀ report, o = .evaluated report →
    ∃ x ∈ ran, x.stage = .evaluate ∧ x.result.report? = some report

/-- How the results of stages settle an outcome. -/
inductive Settles : List StageRun → Outcome → Prop where
  | build {b : StageRun} {after : List StageRun} {text : Text} (stage : b.stage = .build)
      (failed : b.result.passed = false) (reason : b.result.error? = some text) :
      Settles (b :: after) (.failed .build text)
  | engine {b x : StageRun} {text : Text} (first : b.stage = .build) (stage : x.stage = .evaluate)
      (passed : b.result.passed = true) (failed : x.result.passed = false)
      (reason : x.result.error? = some text) : Settles [b, x] (.failed .engine text)
  | evaluated {b x : StageRun} {report : Report} (first : b.stage = .build)
      (stage : x.stage = .evaluate) (passed : b.result.passed = true)
      (passed' : x.result.passed = true) (reported : x.result.report? = some report) :
      Settles [b, x] (.evaluated report)

theorem FirstFailure.mem (hx : FirstFailure ran x) : x ∈ ran ∧ x.result.passed = false := by
  obtain ⟨before, after, rfl, hfailed, -⟩ := hx
  exact ⟨by simp, hfailed⟩

theorem FirstFailure.head {after : List StageRun} (hfailed : x.result.passed = false) :
    FirstFailure (x :: after) x := ⟨[], after, rfl, hfailed, by simp⟩

/-- The engine fails first only after a build that passed. -/
theorem FirstFailure.engine {b : StageRun} (hpassed : b.result.passed = true)
    (hfailed : x.result.passed = false) : FirstFailure [b, x] x :=
  ⟨[b], [], rfl, hfailed, by simpa using hpassed⟩

namespace Settles

/-- No build fails first in the two other ways. -/
theorem not_build {b x : StageRun} (hstage : x.stage = .evaluate)
    (hpassed : b.result.passed = true) : ¬ ∃ y, FirstFailure [b, x] y ∧ y.stage = .build := by
  rintro ⟨y, hy, hbuild⟩
  obtain ⟨hmem, hfailed⟩ := hy.mem
  rcases List.mem_cons.mp hmem with rfl | hmem
  · rw [hpassed] at hfailed
    cases hfailed
  · rw [List.mem_singleton.mp hmem, hstage] at hbuild
    cases hbuild

theorem decidedBy (hsettles : Settles ran o) : DecidedBy ran o := by
  cases hsettles with
  | @build b after text hstage hfailed hreason =>
    have hnot : ∀ c x, BothRan (b :: after) c x → c.result.passed = true → False := by
      rintro c x ⟨hran, -⟩ hpassed
      obtain ⟨rfl, -⟩ := List.cons.inj hran
      rw [hfailed] at hpassed
      cases hpassed
    exact {
      build := ⟨fun _ => ⟨b, .head hfailed, hstage⟩, fun _ => ⟨text, rfl⟩⟩
      engine := ⟨by simp, fun ⟨c, x, hboth, hpassed, _⟩ => (hnot c x hboth hpassed).elim⟩
      evaluated := ⟨by simp, fun ⟨c, x, hboth, hpassed, _⟩ => (hnot c x hboth hpassed).elim⟩
      reason := fun step text' htext => ⟨b, .head hfailed, by cases htext; exact hreason⟩
      report := by simp }
  | @engine b x text hfirst hstage hpassed hfailed hreason =>
    refine {
      build := ⟨by simp, fun hbuild => (not_build hstage hpassed hbuild).elim⟩
      engine := ⟨fun _ => ⟨b, x, ⟨rfl, hfirst, hstage⟩, hpassed, hfailed⟩, fun _ => ⟨text, rfl⟩⟩
      evaluated := ⟨by simp, ?_⟩
      reason := fun step text' htext =>
        ⟨x, .engine hpassed hfailed, by cases htext; exact hreason⟩
      report := by simp }
    rintro ⟨c, y, ⟨hran, -⟩, -, hy⟩
    cases hran
    rw [hfailed] at hy
    cases hy
  | @evaluated b x report hfirst hstage hpassed hpassed' hreport =>
    refine {
      build := ⟨by simp, fun hbuild => (not_build hstage hpassed hbuild).elim⟩
      engine := ⟨by simp, ?_⟩
      evaluated :=
        ⟨fun _ => ⟨b, x, ⟨rfl, hfirst, hstage⟩, hpassed, hpassed'⟩, fun _ => ⟨report, rfl⟩⟩
      reason := by simp
      report := fun report' htext => ⟨x, by simp, hstage, by cases htext; exact hreport⟩ }
    rintro ⟨c, y, ⟨hran, -⟩, -, hy⟩
    cases hran
    rw [hpassed'] at hy
    cases hy

end Settles

/-! ## Results in form settle an outcome -/

theorem outcomeOf_of_failure (hcut : r.cancelled = false) {result : StageResult} {text : Text}
    (hfirst : r.firstFailure = some result) (hreason : result.error? = some text) :
    outcomeOf r =
      .failed (if result.stage = Stage.build.name then .build else .engine) text := by
  have htext : result.errorText = text := by rw [StageResult.errorText, hreason]; rfl
  unfold outcomeOf
  rw [hcut, hfirst, if_neg Bool.false_ne_true]
  dsimp only
  split <;> rw [htext]

theorem outcomeOf_of_report (hcut : r.cancelled = false) {report : Report}
    (hfirst : r.firstFailure = none) (hreport : r.report = some report) :
    outcomeOf r = .evaluated report := by
  unfold outcomeOf
  rw [hcut, hfirst, hreport, if_neg Bool.false_ne_true]

/-- An uncut run whose results are all in form settles the outcome of its round. -/
theorem settles_outcomeOf (hran : Passage w l task depth Stage.all m ran r.cancelled m')
    (hresults : r.results = ran.map StageRun.result)
    (hform : ∀ x ∈ ran, WellFormed x.stage x.result) (hcut : r.cancelled = false) :
    Settles ran (outcomeOf r) := by
  -- a build that failed settles the outcome, whether or not the engine ran after it
  have hbroken : ∀ b after, ran = b :: after → b.stage = .build → b.result.passed = false →
      Settles ran (outcomeOf r) := by
    rintro b after rfl hstage hfailed
    obtain ⟨text, hreason, -⟩ := (hform b List.mem_cons_self).reason hfailed
    have hfirst : r.firstFailure = some b.result := by
      rw [PipelineResult.firstFailure, hresults]
      simp [hfailed]
    have hname : b.result.stage = Stage.build.name := by
      rw [(hform b List.mem_cons_self).stage, hstage]
    rw [outcomeOf_of_failure hcut hfirst hreason, if_pos hname]
    exact .build hstage hfailed hreason
  rcases hran.uncancelled hcut with hall | ⟨b, hb, hstage, hfailed, -⟩
  swap
  · exact hbroken b [] hb hstage hfailed
  have hboth : ran.length = Stage.all.length := by simpa using congrArg List.length hall
  rcases hran.shape with rfl | ⟨b, rfl, -⟩ | ⟨b, x, rfl, hb, hx⟩
  · cases hboth
  · cases hboth
  have hformB := hform b List.mem_cons_self
  have hformX := hform x (List.mem_cons_of_mem b List.mem_cons_self)
  cases hpassed : b.result.passed with
  | false => exact hbroken b [x] rfl hb hpassed
  | true =>
    cases hpassed' : x.result.passed with
    | false =>
      obtain ⟨text, hreason, -⟩ := hformX.reason hpassed'
      have hfirst : r.firstFailure = some x.result := by
        rw [PipelineResult.firstFailure, hresults]
        simp [hpassed, hpassed']
      have hname : ¬ x.result.stage = Stage.build.name := by
        rw [hformX.stage, hx]
        decide
      rw [outcomeOf_of_failure hcut hfirst hreason, if_neg hname]
      exact .engine hb hx hpassed hpassed' hreason
    | true =>
      obtain ⟨report, hreport⟩ := hformX.report.mpr ⟨hx, hpassed'⟩
      have hbuild : b.result.report? = none := by
        refine Option.eq_none_iff_forall_ne_some.mpr fun report' hreport' => ?_
        have hstage := (hformB.report.mp ⟨report', hreport'⟩).1
        rw [hb] at hstage
        cases hstage
      have hfirst : r.firstFailure = none := by
        rw [PipelineResult.firstFailure, hresults]
        simp [hpassed, hpassed']
      have hfound : r.report = some report := by
        rw [PipelineResult.report, hresults]
        simp [hbuild, hreport]
      rw [outcomeOf_of_report hcut hfirst hfound]
      exact .evaluated hb hx hpassed hpassed' hreport

/-! ## Rounds -/

/-- An outcome of a round that has not come to its stages. -/
def Outcome.isEarly : Outcome → Prop
  | .cancelled => True
  | o => o.isStaged = false

/-- A round comes to its stages in the given state, with the given answer. -/
inductive Reaches (w : World σ) (p : Plan) (t : EngineModule.Template) (g : Progress)
    (m : Machine σ) : Answer → Machine σ → Prop where
  | intro {text : Text} {a : Answer} {m₁ m₂ : Machine σ}
      (unstopped : (prompted w p g m).stopped = false)
      (answered : ask w p (promptOf p g.feedback) (prompted w p g m) =
        some (.finished (.ok text), m₁))
      (parsed : Answer.parse p.catalogue text = .ok a)
      (unstopped' : (keptAnswer w p text (m₁.note (.answered text))).stopped = false)
      (written : writeModule w p.layout (moduleOf p t a)
        ((keptAnswer w p text (m₁.note (.answered text))).note .writing) = (.ok (), m₂)) :
      Reaches w p t g m a m₂

/-- A round ends before its stages, or with the outcome that they give. -/
theorem round_staged (hround : round w p t g m = some (o, g', m')) :
    o.isEarly ∨ ∃ a m₁ m₂ r, Reaches w p t g m a m₁ ∧
      Pipeline.run w p.stages p.name a.depth m₁ = some (r, m₂) ∧ o = outcomeOf r ∧
        m' = m₂.conclude o := by
  unfold round at hround
  dsimp only at hround
  split at hround
  · cases hround
    exact .inl trivial
  rename_i hstopped
  obtain ⟨⟨o', m₃⟩, hprompt, heq⟩ := Option.map_eq_some_iff.mp hround
  cases heq
  unfold afterPrompt at hprompt
  split at hprompt
  · cases hprompt
  · cases hprompt
    exact .inl trivial
  · cases hprompt
    exact .inl rfl
  · cases hprompt
    exact .inl rfl
  rename_i text m₁ hask
  unfold afterAnswer at hprompt
  dsimp only at hprompt
  split at hprompt
  · cases hprompt
    exact .inl rfl
  rename_i a hparse
  split at hprompt
  · cases hprompt
    exact .inl trivial
  rename_i hstopped'
  split at hprompt
  · cases hprompt
    exact .inl rfl
  rename_i m₂ hwritten
  obtain ⟨⟨r, m₄⟩, hrun, heq⟩ := Option.map_eq_some_iff.mp hprompt
  cases heq
  exact .inr ⟨a, m₂, _, r,
    .intro (by simpa using hstopped) hask hparse (by simpa using hstopped') hwritten,
    hrun, rfl, rfl⟩

/-- A round of a host that came to its stages, put beside the stages that ran. -/
structure Account (e : Equipment) (h : Host σ) (p : Plan) (t : EngineModule.Template)
    (g : Progress) (m m' : Machine σ) (ran : List StageRun) (r : PipelineResult) (o : Outcome) :
    Prop where
  staged : ∃ a m₁ m₂, Reaches (e.world h) p t g m a m₁ ∧
    Pipeline.run (e.world h) p.stages p.name a.depth m₁ = some (r, m₂) ∧
    Passage (e.world h) p.stages p.name a.depth Stage.all m₁ ran r.cancelled m₂ ∧
    m' = m₂.conclude o
  results : r.results = ran.map StageRun.result
  wellFormed : ∀ x ∈ ran, WellFormed x.stage x.result
  cancelled : r.cancelled = true → o = .cancelled
  decided : r.cancelled = false → DecidedBy ran o
  /-- Nothing ever stands in for a reason or a report of the engine. -/
  engine : ∀ text, o = .failed .engine text → text ∉ standIns
  /-- Such a text is the reason for a failed build only if the build itself said it. -/
  build : ∀ text ∈ standIns, o = .failed .build text → ∃ x ∈ ran, x.stage = .build ∧
    ∃ run d, x.result = e.build.result run d ∧ RelaysFirstLine run text

theorem accounted_of_run {a : Answer} {m₁ m₂ : Machine σ}
    (hreaches : Reaches (e.world h) p t g m a m₁)
    (hrun : Pipeline.run (e.world h) p.stages p.name a.depth m₁ = some (r, m₂)) :
    ∃ ran, Account e h p t g m (m₂.conclude (outcomeOf r)) ran r (outcomeOf r) := by
  obtain ⟨ran, hran, hresults⟩ := runFrom_passage (fun hnil => by cases hnil) hrun
  rw [List.nil_append] at hresults
  have hform : ∀ x ∈ ran, WellFormed x.stage x.result := by
    intro x hx
    obtain ⟨n, n', htook⟩ := hran.took hx
    exact htook.wellFormed
  have hcancelled : r.cancelled = true → outcomeOf r = .cancelled := by
    intro hcut
    rw [outcomeOf, hcut, if_pos rfl]
  -- a run that was cut short gives no reason
  have huncut : ∀ {step text}, outcomeOf r = .failed step text → r.cancelled = false := by
    intro step text hfailed
    refine Bool.eq_false_iff.mpr fun hcut => ?_
    rw [hcancelled hcut] at hfailed
    cases hfailed
  have hsettles := settles_outcomeOf hran hresults hform
  refine ⟨ran, ⟨a, m₁, m₂, hreaches, hrun, hran, rfl⟩, hresults, hform, hcancelled,
    fun hcut => (hsettles hcut).decidedBy, ?_, ?_⟩
  · intro text hfailed
    have hsettled := hsettles (huncut hfailed)
    rw [hfailed] at hsettled
    cases hsettled with
    | @engine b x _ _ hstage _ _ hreason =>
      obtain ⟨n, n', htook⟩ := hran.took (x := x) (by simp)
      exact not_mem_standIns_of_engine htook hstage hreason
  · intro text hmem hfailed
    have hsettled := hsettles (huncut hfailed)
    rw [hfailed] at hsettled
    cases hsettled with
    | @build b after _ hstage _ hreason =>
      obtain ⟨n, n', htook⟩ := hran.took (x := b) List.mem_cons_self
      exact ⟨b, List.mem_cons_self, hstage, relays_of_mem_standIns htook hstage hreason hmem⟩

/-- **Whatever the container runtime and the engine do**, however their stages are limited and
whenever a stop is requested: every result of a stage is in form, and a round ends before its
stages or is decided by them, with the reasons and reports that they gave. -/
theorem round_accounted (e : Equipment) (h : Host σ) :
    (∀ (l : Pipeline.Limits) (task : TaskName) (depth : Nat) (s : Stage) (m m' : Machine σ)
      (result : StageResult), m.stopped = false →
        runStage (e.world h) l task depth s m = some (result, m') → WellFormed s result) ∧
    ∀ (p : Plan) (t : EngineModule.Template) (g g' : Progress) (m m' : Machine σ) (o : Outcome),
      round (e.world h) p t g m = some (o, g', m') →
        o.isEarly ∨ ∃ ran r, Account e h p t g m m' ran r o := by
  refine ⟨fun l task depth s m m' result hm hrun => wellFormed_runStage hm hrun,
    fun p t g g' m m' o hround => ?_⟩
  rcases round_staged hround with hearly | ⟨a, m₁, m₂, r, hreaches, hrun, rfl, rfl⟩
  · exact .inl hearly
  · obtain ⟨ran, hran⟩ := accounted_of_run hreaches hrun
    exact .inr ⟨ran, r, hran⟩

/-! ## Rounds on a machine in memory -/

/-- Two programs, and an answer that is kept in a file. -/
def benchEquipment : Equipment where
  build := { BuildPlan.usual "/" 1 with runtime := "/runtime" }
  workingDirectory := "/"
  engine := "/engine"
  model := .kept "/answer"

/-- A search without limits that knows no primitives. -/
def benchPlan : Plan where
  limits := .usual
  stages := .usual
  layout := .rooted "/"
  name := ⟨"training", "1"⟩
  task := ⟨[], []⟩
  catalogue := .empty

/-- The machine, with the next run of the container runtime and of the engine. -/
def benchMachine (runtime engine : ProgramRun) : Machine Bench :=
  ⟨{files := ⟨[(["runtime".toList], .file []), (["engine".toList], .file []),
      (["answer".toList], .file (Text.bytes
        "SELECTED_PRIMITIVES:\nPARTIAL_PARAMETERIZATIONS:\nDEPTH_LEVEL: 1"))]⟩
    workingDirectory := []
    players := [⟨["runtime".toList], ⟨[⟨some runtime, false⟩]⟩, []⟩,
      ⟨["engine".toList], ⟨[⟨some engine, false⟩]⟩, []⟩]
    server := fun _ => .failed [] }, false, []⟩

/-- Both stages pass, and the round is decided by the report of the engine. -/
theorem round_accounted_passed :
    let m := benchMachine (.ended (some 0) [] []) (.ended (some 0) (Text.bytes "0\nf\n") [])
    let w := benchEquipment.world Bench.host
    (m.stopped = false ∧ ∃ result m', runStage w .usual benchPlan.name 1 .build m =
      some (result, m') ∧ WellFormed .build result) ∧
    ∃ g' m' ran r, round w benchPlan ⟨[], []⟩ .start m =
        some (.evaluated ⟨.zero false, "f"⟩, g', m') ∧
      Account benchEquipment Bench.host benchPlan ⟨[], []⟩ .start m m' ran r
        (.evaluated ⟨.zero false, "f"⟩) := by
  intro m w
  constructor
  · have hstage : (runStage w .usual benchPlan.name 1 .build m).isSome = true := by decide +kernel
    obtain ⟨⟨result, m'⟩, hstage⟩ := Option.isSome_iff_exists.mp hstage
    exact ⟨rfl, result, m', hstage, (round_accounted benchEquipment Bench.host).1 .usual
      benchPlan.name 1 .build m m' result rfl hstage⟩
  · have hround : (round w benchPlan ⟨[], []⟩ .start m).map Prod.fst =
        some (.evaluated ⟨.zero false, "f"⟩) := by decide +kernel
    obtain ⟨⟨o, g', m'⟩, hround, rfl⟩ := Option.map_eq_some_iff.mp hround
    rcases (round_accounted benchEquipment Bench.host).2 benchPlan ⟨[], []⟩ .start g' m m' _ hround
      with hearly | ⟨ran, r, haccount⟩
    · cases hearly
    · exact ⟨g', m', ran, r, hround, haccount⟩

/-- A build may say of itself what is said of a failure without a reason. -/
theorem round_relays_unknown :
    (round (benchEquipment.world Bench.host) benchPlan ⟨[], []⟩ .start
      (benchMachine (.ended (some 1) [] (Text.bytes "unknown\n")) (.ended (some 0) [] []))).map
        Prod.fst = some (.failed .build StageResult.unknownError) := by decide +kernel

end PrimitiveSearch.Search
