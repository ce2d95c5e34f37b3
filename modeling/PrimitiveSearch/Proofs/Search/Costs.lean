import PrimitiveSearch.Proofs.Report.Reading
import PrimitiveSearch.Proofs.Search.Cancellation
import PrimitiveSearch.Proofs.Search.DataFlow
import PrimitiveSearch.Proofs.Search.Fallbacks

/-!
# Where the costs of a search come from

* `Told` — a report that the engine of a host has told.
* `told_of_round` — the report of a round is such a one.
* `OnlyTold` — events record no other reports, and the prompts among them tell no others.
* `Course.told`, `run_told`, `run_told_unending` — so do the events of a search, ended or not.
* `costs_told` — all costs of a search are read from what the engine wrote, and one of them is no
  number exactly if the engine has written the word for that.
-/

set_option autoImplicit false

namespace PrimitiveSearch.Search

open Binary64 Pipeline

variable {σ : Type} {e : Equipment} {h : Host σ} {p : Plan} {t : EngineModule.Template}
  {m m' m₀ n : Machine σ} {g g' : Progress} {turns : List Turn} {start : Duration} {r : Report}
  {o : Option Outcome} {acts : List Event} {k : Nat} {last : Option Report}

/-! ## Reports of the engine -/

/-- The engine of a host told a report: it is read from the output of a run that ended well. -/
def Told (e : Equipment) (h : Host σ) (task : TaskName) (r : Report) : Prop :=
  ∃ depth s out err, (h.run e.engine (Engine.arguments task depth) s).1.value =
      .finished (.ended (some 0) out err) ∧
    Report.parse (Text.ofBytesLossy out) = .ok r

/-- The engine of a host never writes the word for not-a-number in the place of a cost. -/
def WritesNumbers (e : Equipment) (h : Host σ) (task : TaskName) : Prop :=
  ∀ depth s out err, (h.run e.engine (Engine.arguments task depth) s).1.value =
      .finished (.ended (some 0) out err) →
    ¬ SpellsNaN (Report.costText (Text.ofBytesLossy out))

theorem Told.cost_ne_nan {task : TaskName} (hr : Told e h task r)
    (hwrites : WritesNumbers e h task) : r.cost ≠ .nan := by
  obtain ⟨depth, s, out, err, hrun, hparse⟩ := hr
  exact fun hnan => hwrites depth s out err hrun ((Report.cost_eq_nan_iff hparse).mp hnan)

theorem report_engineResult {engine : Path} {run : ProgramRun} {d : Duration}
    (hreport : (Engine.result engine run d).report? = some r) : ∃ out err,
      run = .ended (some 0) out err ∧ Report.parse (Text.ofBytesLossy out) = .ok r := by
  unfold Engine.result at hreport
  split at hreport
  · cases hreport
  · rename_i code out err
    dsimp only at hreport
    split at hreport
    · rename_i hcode
      subst hcode
      split at hreport
      · rename_i report hparse
        obtain rfl : report = r := Option.some.inj hreport
        exact ⟨out, err, rfl, hparse⟩
      · cases hreport
    · cases hreport

/-- A stage with a report is a run of the engine that told it. -/
theorem told_of_took {l : Pipeline.Limits} {task : TaskName} {depth : Nat} {x : StageRun}
    (htook : x.Took (e.world h) l task depth m m') (hreport : x.result.report? = some r) :
    Told e h task r := by
  have hlabelled := labelled_equipment e h task depth
  rcases htook.result_cases with ⟨y, hy⟩ | ⟨error, d, hresult, -⟩
  · cases hstage : x.stage with
    | build =>
      rw [htook.report_build hlabelled hstage] at hreport
      cases hreport
    | evaluate =>
      -- the result is made of the run and its duration, and these of the run alone
      rw [hstage] at hy
      obtain ⟨⟨run, d⟩, htimed, hresult⟩ := exists_of_map hy
      obtain ⟨run', hrun, heq⟩ := exists_of_map htimed
      obtain rfl : run' = run := congrArg Prod.fst heq
      rw [← hresult] at hreport
      obtain ⟨out, err, rfl, hparse⟩ := report_engineResult hreport
      exact ⟨depth, _, out, err, hrun, hparse⟩
  · rw [hresult] at hreport
    cases hreport

theorem Outcome.report?_eq_some_iff {o : Outcome} : o.report? = some r ↔ o = .evaluated r := by
  cases o <;> simp [Outcome.report?]

/-- The report of a round is what the engine told. -/
theorem told_of_round {o : Outcome} (hround : round (e.world h) p t g m = some (o, g', m'))
    (hreport : o.report? = some r) : Told e h p.name r := by
  obtain rfl := Outcome.report?_eq_some_iff.mp hreport
  rcases round_staged hround with hearly | ⟨a, m₁, m₂, result, hreaches, hrun, ho, -⟩
  · cases hearly
  · obtain ⟨ran, haccount⟩ := accounted_of_run hreaches hrun
    rw [← ho] at haccount
    have hcut : result.cancelled = false := cancelled_of_report (by rw [← ho]; rfl)
    obtain ⟨x, hx, -, hreport⟩ := (haccount.decided hcut).report r rfl
    obtain ⟨a', m₃, m₄, -, -, hpassage, -⟩ := haccount.staged
    obtain ⟨m₅, m₆, htook⟩ := hpassage.took hx
    exact told_of_took htook hreport

theorem told_of_recordedRound {record : Record}
    (hround : recordedRound (e.world h) p t g m = some (record, g', m'))
    (hreport : record.outcome.report? = some r) : Told e h p.name r := by
  unfold recordedRound at hround
  dsimp only at hround
  split at hround
  · cases hround
  · rename_i hround'
    cases hround
    exact told_of_round hround' hreport

/-! ## What rounds do -/

/-- Of all reports, events record and the prompts among them tell only those of the engine. -/
structure OnlyTold (e : Equipment) (h : Host σ) (p : Plan) (events : List Event) : Prop where
  recorded : ∀ r, .recorded r ∈ events → Told e h p.name r
  asked : ∀ model prompt, .asked model prompt ∈ events → ∃ last,
    prompt = Prompt.text p.task p.catalogue last ∧ ∀ r, last = some r → Told e h p.name r

theorem OnlyTold.append {acts' : List Event} (hfront : OnlyTold e h p acts)
    (hback : OnlyTold e h p acts') : OnlyTold e h p (acts ++ acts') where
  recorded r hr := (List.mem_append.mp hr).elim (hfront.recorded r) (hback.recorded r)
  asked model prompt ha :=
    (List.mem_append.mp ha).elim (hfront.asked model prompt) (hback.asked model prompt)

/-- Stop requests tell nothing of reports. -/
theorem Did.onlyTold (hdid : Did m acts m') (hacts : OnlyTold e h p acts) :
    ∃ events, m'.log = m.log ++ events ∧ OnlyTold e h p events := by
  obtain ⟨events, hlog, -, rfl⟩ := hdid
  exact ⟨events, hlog, fun r hr => hacts.recorded r ((mem_filter_isStop rfl).mpr hr),
    fun model prompt ha => hacts.asked model prompt ((mem_filter_isStop rfl).mpr ha)⟩

theorem Deeds.onlyTold (hdeeds : Deeds p t k last o acts)
    (hlast : ∀ r, last = some r → Told e h p.name r)
    (hreport : ∀ r, o.bind Outcome.report? = some r → Told e h p.name r) :
    OnlyTold e h p acts where
  recorded r hr := by
    obtain ⟨front, rfl, hfront⟩ := hdeeds.recorded
    rcases List.mem_append.mp hr with hr | hr
    · cases hfront _ hr
    · simp only [recordedOf, Option.mem_toList, Option.map_eq_some_iff] at hr
      obtain ⟨r', hr', heq⟩ := hr
      cases heq
      exact hreport r hr'
  asked model prompt ha := ⟨last, (hdeeds.asked ha).2, hlast⟩

theorem told_of_feedback (hbest : ∀ r, g.best = some r → Told e h p.name r)
    (hr : g.feedback = some r) : Told e h p.name r :=
  hbest r (Option.filter_eq_some_iff.mp hr).1

/-! ## Searches -/

/-- Up to a state between rounds, nothing but the reports of the engine is known. -/
structure AllTold (e : Equipment) (h : Host σ) (p : Plan) (turns : List Turn) (g : Progress)
    (acts : List Event) : Prop where
  acts : OnlyTold e h p acts
  best : ∀ r, g.best = some r → Told e h p.name r
  turns : ∀ x ∈ turns, ∀ r, x.outcome.report? = some r → Told e h p.name r

theorem Course.told (hc : Course (e.world h) p t start m₀ turns g m) :
    ∃ acts, Did m₀ acts m ∧ AllTold e h p turns g acts := by
  induction hc with
  | begin => exact ⟨[], Did.refl m₀, ⟨nofun, nofun⟩, nofun, nofun⟩
  | @turn turns g g' m m₁ m' record events _ _ hm _ htime hround _ ih =>
    obtain ⟨acts, hdid, htold⟩ := ih
    have hm₁ : m₁.stopped = false := (timeIsUp_keeps htime).2.trans hm
    obtain ⟨acts', hdid', hdeeds⟩ := recordedRound_deeds hm₁ hround
    obtain ⟨-, -, calls, -, hadvances⟩ := recordedRound_spec hround
    have hrecord := fun r => told_of_recordedRound (r := r) hround
    -- the prompt of the round tells what the rounds before it have recorded
    have hacts := hdeeds.onlyTold (fun r => told_of_feedback htold.best) hrecord
    have hall := (hdid.trans (did_timeIsUp htime)).trans hdid'
    rw [List.append_nil] at hall
    refine ⟨_, hall, htold.acts.append hacts, fun r hr => ?_, fun x hx => ?_⟩
    · rw [hadvances.best, Option.or_eq_some_iff] at hr
      rcases hr with hr | ⟨-, hr⟩
      · exact hrecord r hr
      · exact htold.best r hr
    · rcases List.mem_append.mp hx with hx | hx
      · exact htold.turns x hx
      · rw [List.mem_singleton.mp hx]
        exact hrecord

theorem run_told {result : Except Fault Result} (hrun : run (e.world h) p m = some (result, m')) :
    (∃ events, m'.log = m.log ++ events ∧ OnlyTold e h p events) ∧
      ∀ r, result = .ok r → (∀ report, r.best = some report → Told e h p.name report) ∧
        ∀ x ∈ r.history, ∀ report, x.outcome.report? = some report → Told e h p.name report := by
  cases result with
  | error fault => exact ⟨(run_error hrun).2.onlyTold ⟨nofun, nofun⟩, nofun⟩
  | ok r =>
    obtain ⟨t, m₀, turns, g, last, m₁, hload, hcourse, hends, rfl, -, hbest, -, hhistory⟩ :=
      run_ok hrun
    obtain ⟨acts, hdid, htold⟩ := hcourse.told
    have hbegin := (did_now (e.world h) m).trans (did_loadTemplate hload)
    have hall := (hbegin.trans hdid).trans (hends.did.trans (did_now (e.world h) m₁))
    rw [List.nil_append, List.append_nil, List.nil_append] at hall
    refine ⟨hall.onlyTold htold.acts, ?_⟩
    rintro r' ⟨⟩
    rw [hbest, hhistory]
    refine ⟨htold.best, fun x hx => ?_⟩
    obtain ⟨turn, hturn, rfl⟩ := List.mem_map.mp (List.mem_of_mem_drop hx)
    exact htold.turns turn hturn

theorem Unending.told (hg : ∀ r, g.best = some r → Told e h p.name r)
    (hn : Unending (e.world h) p t start turns g m n) :
    ∃ acts, Did m acts n ∧ OnlyTold e h p acts := by
  cases hn with
  | uncounted => exact ⟨[], Did.refl m, nofun, nofun⟩
  | @waits m₁ _ hm _ htime hwaits =>
    have hm₁ : ((e.world h).now m₁).2.stopped = false := (timeIsUp_keeps htime).2.trans hm
    obtain ⟨acts, hdid, -, hdeeds⟩ := hwaits.deeds hm₁
    have hall := ((did_timeIsUp htime).trans (did_now (e.world h) m₁)).trans hdid
    exact ⟨acts, hall, hdeeds.onlyTold (fun r => told_of_feedback hg) nofun⟩

theorem run_told_unending (hrun : run (e.world h) p m = none) :
    ∃ t m₀ turns g last n, loadTemplate (e.world h) p.layout ((e.world h).now m).2 = (.ok t, m₀) ∧
      Course (e.world h) p t ((e.world h).now m).1 m₀ turns g last ∧
        Unending (e.world h) p t ((e.world h).now m).1 turns g last n ∧
          ∃ events, n.log = m.log ++ events ∧ OnlyTold e h p events := by
  obtain ⟨t, m₀, turns, g, last, n, hload, hcourse, -, hn⟩ := run_unending hrun
  obtain ⟨acts, hdid, htold⟩ := hcourse.told
  obtain ⟨acts', hdid', htold'⟩ := hn.told htold.best
  have hbegin := (did_now (e.world h) m).trans (did_loadTemplate hload)
  exact ⟨t, m₀, turns, g, last, n, hload, hcourse, hn,
    ((hbegin.trans hdid).trans hdid').onlyTold (htold.acts.append htold')⟩

/-- **Every cost is read from what the engine wrote.**  An output is a report exactly if its first
line spells a numeral or the word for not-a-number, and what is behind the second line does not
matter.  Whatever the programs of a host do, a search records and tells the model such reports only,
whether it ends or not; and their costs are numbers unless the engine writes that word. -/
theorem costs_told (e : Equipment) (h : Host σ) (p : Plan) (m : Machine σ) :
    (∀ output result, Report.parse output = result ↔ Report.Reads output result) ∧
    (∀ output r, Report.parse output = .ok r →
      (r.cost = .nan ↔ SpellsNaN (Report.costText output))) ∧
    (∀ first second rest, '\n' ∉ first → '\n' ∉ second →
      Report.parse (first ++ '\n' :: (second ++ '\n' :: rest)) =
        Report.parse (first ++ '\n' :: second)) ∧
    (∀ result m', run (e.world h) p m = some (result, m') →
      (∃ events, m'.log = m.log ++ events ∧ OnlyTold e h p events) ∧
        ∀ r, result = .ok r → (∀ report, r.best = some report → Told e h p.name report) ∧
          ∀ x ∈ r.history, ∀ report, x.outcome.report? = some report → Told e h p.name report) ∧
    (run (e.world h) p m = none → ∃ t m₀ turns g last n,
      loadTemplate (e.world h) p.layout ((e.world h).now m).2 = (.ok t, m₀) ∧
        Course (e.world h) p t ((e.world h).now m).1 m₀ turns g last ∧
          Unending (e.world h) p t ((e.world h).now m).1 turns g last n ∧
            ∃ events, n.log = m.log ++ events ∧ OnlyTold e h p events) ∧
    (WritesNumbers e h p.name → ∀ r, Told e h p.name r → r.cost ≠ .nan) :=
  ⟨fun _ _ => Report.parse_eq_iff, fun _ _ => Report.cost_eq_nan_iff,
    fun _ _ rest hfirst hsecond => Report.parse_append hfirst hsecond rest,
    fun _ _ => run_told, run_told_unending, fun hwrites _ hr => hr.cost_ne_nan hwrites⟩

/-- The word is accepted as a cost.  It is never zero, so that a search goes on and tells it to the
model. -/
theorem nan_accepted :
    Report.parse "nan\nexpr" = .ok ⟨.nan, "expr"⟩ ∧
    ((round (benchEquipment.world Bench.host) benchPlan ⟨[], []⟩ .start
      (benchMachine (.ended (some 0) [] [])
        (.ended (some 0) (Text.bytes "nan\nexpr\n") []))).map fun x =>
          (x.1, x.1.decides, x.2.1.feedback)) =
      some (.evaluated ⟨.nan, "expr"⟩, none, some ⟨.nan, "expr"⟩) := by
  decide +kernel

end PrimitiveSearch.Search
