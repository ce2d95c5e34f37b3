import PrimitiveSearch.Proofs.Search.Trace
import PrimitiveSearch.Rehearsal.Collaborators

/-!
# Stop requests are heeded

* `StopsOnRequest` — what a search with a result makes of a stop request.
* `run_heeds_stops` — nothing is begun after a stop request, the best report stays as it is, and
  the search is cancelled; and only searches without a stop request never end.
-/

set_option autoImplicit false

namespace PrimitiveSearch.Search

variable {σ : Type} {w : World σ} {p : Plan} {t : EngineModule.Template} {start : Duration}
  {m₀ m m' : Machine σ} {g : Progress} {turns : List Turn} {events : List Event} {r : Result}

/-- The last of the events records an exact report, so that the search is solved. -/
def SolvedBy (events : List Event) : Prop :=
  ∃ front report, events = front ++ [.recorded report] ∧ report.isExact = true

/-- What a search with a result makes of a stop request. -/
structure StopsOnRequest (m m' : Machine σ) (events : List Event) (r : Result) : Prop where
  log : m'.log = m.log ++ events
  /-- Nothing is done in a search that was to be stopped before it began. -/
  atOnce : m.stopped = true →
    events = [] ∧ r.status = .cancelled ∧ r.iterations = 0 ∧ r.best = none
  noticed : m.stopped = false → m'.stopped = true → .stopRequested ∈ events
  /-- After a stop request nothing begins and no report is recorded; and the search is cancelled,
  unless it was solved before. -/
  after : ∀ before after, events = before ++ .stopRequested :: after →
    (∀ e ∈ after, e.isEnd = true) ∧ r.best = lastRecorded before ∧
      (r.status = .cancelled ∨ SolvedBy before)

/-! ## Searches with a result -/

theorem report?_eq_none_of_isEnd {e : Event} (h : e.isEnd = true) : e.report? = none := by
  cases e <;> first | rfl | cases h

theorem filter_isStop_eq_self (h : ∀ e ∈ events, e.isStop = false) :
    events.filter (fun e => !e.isStop) = events :=
  List.filter_eq_self.mpr fun e he => by simp [h e he]

/-- Stop requests aside, what is done stands before and after the one that there is. -/
theorem Heeds.filter_split {a b : Bool} (h : Heeds a events b) {before after : List Event}
    (hevents : events = before ++ .stopRequested :: after) :
    events.filter (fun e => !e.isStop) = before ++ after := by
  obtain ⟨-, -, hbefore, hafter⟩ := h.split hevents
  have hends := fun e he => Event.isStop_of_isEnd (hafter e he)
  rw [hevents, List.filter_append, filter_isStop_eq_self hbefore, List.filter_cons_of_neg (by decide),
    filter_isStop_eq_self hends]

/-- Where the last thing was to record an exact report, the stop request came after it. -/
theorem solvedBy_of_append {before after front : List Event} {report : Report}
    (hafter : ∀ e ∈ after, e.isEnd = true) (h : before ++ after = front ++ [.recorded report])
    (hexact : report.isExact = true) : SolvedBy before := by
  rcases List.eq_nil_or_concat after with rfl | ⟨init, e, rfl⟩
  · rw [List.append_nil] at h
    exact ⟨front, report, h, hexact⟩
  · have hend := hafter e (by simp)
    rw [List.concat_eq_append, ← List.append_assoc] at h
    obtain ⟨-, he⟩ := List.append_inj' h rfl
    cases he
    cases hend

theorem Ends.did {status : Status} {last : Machine σ}
    (h : Ends w p start turns g last status m') : Did last [] m' := by
  cases h with
  | decided | stopped | capped => exact Did.refl _
  | late _ htime => exact did_timeIsUp htime

/-- What is done in a search that is solved ends in the recording of an exact report. -/
theorem Ends.solved {last : Machine σ} (h : Ends w p start turns g last .solved m') :
    ∃ report, recordedOf (turns.getLast?.map Turn.outcome) = [.recorded report] ∧
      report.isExact = true := by
  cases h with
  | @decided x _ hx hdecides =>
    rcases Outcome.decides_eq_some_iff.mp hdecides with ⟨-, hsolved⟩ | ⟨h, -⟩
    · rw [hx]
      cases hout : x.outcome with
      | evaluated report =>
        rw [hout] at hsolved
        exact ⟨report, by simp [recordedOf, hout, Outcome.report?], hsolved⟩
      | failed | cancelled =>
        rw [hout] at hsolved
        cases hsolved
    · cases h

/-- Nothing is done in a search that was to be stopped before it began. -/
theorem run_stopped (hm : m.stopped = true) (h : run w p m = some (.ok r, m')) :
    m'.log = m.log ∧ r.status = .cancelled ∧ r.iterations = 0 ∧ r.best = none := by
  obtain ⟨t, m₀, turns, g, last, m₁, hload, hcourse, hends, rfl, hexhausted, hbest, hiterations,
    -⟩ := run_ok h
  have hbegin := (did_now w m).trans (did_loadTemplate hload)
  obtain ⟨hlog₀, hstopped₀⟩ := hbegin.log_eq hm
  obtain ⟨rfl, rfl, rfl⟩ := hcourse.eq_begin hstopped₀
  obtain ⟨hlog₁, hstopped₁⟩ := hends.did.log_eq hstopped₀
  refine ⟨hlog₁.trans hlog₀, ?_, hiterations, hbest⟩
  cases hstatus : r.status with
  | cancelled => rfl
  | solved =>
    rw [hstatus] at hends
    obtain ⟨report, hreport, -⟩ := hends.solved
    cases hreport
  | exhausted => cases hstopped₁.symm.trans (hexhausted hstatus)

theorem run_stopsOnRequest (h : run w p m = some (.ok r, m')) :
    ∃ events, StopsOnRequest m m' events r := by
  cases hm : m.stopped with
  | true =>
    obtain ⟨hlog, hresult⟩ := run_stopped hm h
    refine ⟨[], by rw [hlog, List.append_nil], fun _ => ⟨rfl, hresult⟩, fun h => ?_, fun _ _ h => ?_⟩
    · cases hm.symm.trans h
    · simp at h
  | false =>
    obtain ⟨t, m₀, turns, g, last, m₁, hload, hcourse, hends, rfl, hexhausted, hbest, -⟩ := run_ok h
    obtain ⟨acts, front, hdid, hacts, hrecorded⟩ := hcourse.did
    have hbegin := (did_now w m).trans (did_loadTemplate hload)
    have hend := hends.did.trans (did_now w m₁)
    have hall := (hbegin.trans hdid).trans hend
    rw [List.nil_append, List.append_nil, List.nil_append] at hall
    obtain ⟨events, hlog, hheeds, hfilter⟩ := hall
    refine ⟨events, hlog, fun h => ?_, fun _ => hheeds.mem_of_stopped hm,
      fun before after hevents => ?_⟩
    · cases hm.symm.trans h
    obtain ⟨-, hstopped, -, hafter⟩ := hheeds.split hevents
    have hsplit : acts = before ++ after := hfilter.symm.trans (hheeds.filter_split hevents)
    refine ⟨hafter, ?_, ?_⟩
    · have hnone := lastRecorded_eq_none fun e he => report?_eq_none_of_isEnd (hafter e he)
      simp [hbest, hrecorded, hsplit, hnone]
    · cases hstatus : r.status with
      | cancelled => exact .inl rfl
      | exhausted => cases hstopped.symm.trans (hexhausted hstatus)
      | solved =>
        rw [hstatus] at hends
        obtain ⟨report, hreport, hexact⟩ := hends.solved
        rw [hreport] at hacts
        exact .inr (solvedBy_of_append hafter (hsplit.symm.trans hacts) hexact)

/-! ## Searches without a result -/

/-- Without a template a search ends before anything is done, be it to be stopped or not. -/
theorem run_error {fault : Fault} (h : run w p m = some (.error fault, m')) :
    (loadTemplate w p.layout (w.now m).2).1 = .error fault.template ∧ Did m [] m' := by
  unfold run at h
  dsimp only at h
  split at h
  · rename_i unreadable m₁ hload
    cases h
    exact ⟨by rw [hload], (did_now w m).trans (did_loadTemplate hload)⟩
  · split at h <;> cases h

/-- A search that never ends was never to be stopped, as long as its rounds can be counted. -/
theorem Unending.unstopped {last n : Machine σ}
    (hload : loadTemplate w p.layout (w.now m).2 = (.ok t, m₀))
    (hcourse : Course w p t start m₀ turns g last) (hu : Undecided turns)
    (h : Unending w p t start turns g last n) : turns.length = countableRounds + 1 ∨
      m.stopped = false ∧ n.stopped = false ∧
        ∃ events, n.log = m.log ++ events ∧ .stopRequested ∉ events := by
  rcases h.tells hcourse hu with hlength | ⟨hn, events, hlog, hheeds, -⟩
  · exact .inl hlength
  · obtain ⟨acts, front, hdid, -⟩ := hcourse.did
    have hbegin := (did_now w m).trans (did_loadTemplate hload)
    obtain ⟨events', hlog', hheeds', -⟩ := (hbegin.trans hdid).trans ⟨events, hlog, hheeds, rfl⟩
    rw [hn] at hheeds'
    exact .inr ⟨hheeds'.unstopped, hn, events', hlog', hheeds'.not_mem_of_unstopped⟩

/-- **Stop requests are heeded**, whenever they come and whatever the collaborators do.  After a
stop request nothing is begun and the best report stays as it is; and a search whose template can
be read is cancelled, unless it was solved before.  A search that never ends was never to be
stopped, as long as its rounds can be counted. -/
theorem run_heeds_stops (w : World σ) (p : Plan) (m : Machine σ) :
    (∀ r m', run w p m = some (.ok r, m') → ∃ events, StopsOnRequest m m' events r) ∧
    (∀ fault m', run w p m = some (.error fault, m') →
      (loadTemplate w p.layout (w.now m).2).1 = .error fault.template ∧
        ∃ events, m'.log = m.log ++ events ∧ ∀ e ∈ events, e = .stopRequested) ∧
    (run w p m = none → ∃ t m₀ turns g last n,
      loadTemplate w p.layout (w.now m).2 = (.ok t, m₀) ∧
        Course w p t (w.now m).1 m₀ turns g last ∧
          Unending w p t (w.now m).1 turns g last n ∧
            (turns.length = countableRounds + 1 ∨
              m.stopped = false ∧ n.stopped = false ∧
                ∃ events, n.log = m.log ++ events ∧ .stopRequested ∉ events)) := by
  refine ⟨fun r m' h => run_stopsOnRequest h, fun fault m' h => ?_, fun h => ?_⟩
  · obtain ⟨hload, events, hlog, -, hfilter⟩ := run_error h
    exact ⟨hload, events, hlog, eq_stop_of_filter_eq_nil hfilter⟩
  · obtain ⟨t, m₀, turns, g, last, n, hload, hcourse, hu, hn⟩ := run_unending h
    exact ⟨t, m₀, turns, g, last, n, hload, hcourse, hn, hn.unstopped hload hcourse hu⟩

theorem exists_stopped_run (h : ((run w p m).bind fun x =>
    x.1.toOption.map fun r => (r, x.2.stopped)) = some (r, true)) :
    ∃ m', run w p m = some (.ok r, m') ∧ m'.stopped = true := by
  obtain ⟨⟨result, m'⟩, hrun, h⟩ := Option.bind_eq_some_iff.mp h
  cases result with
  | error fault => cases h
  | ok r' =>
    obtain ⟨rfl, hstopped⟩ := Prod.mk.inj (Option.some.inj h)
    exact ⟨m', hrun, hstopped⟩

/-- A search that is stopped in its second round, by a request during a build that passes. -/
theorem run_heeds_stops_building :
    let p : Plan := {
      limits := Limits.bounded 5
      stages := .usual
      layout := ⟨"header", "prologue", "epilogue", "source", "primitives"⟩
      name := ⟨"training", "1"⟩
      task := ⟨[], []⟩
      catalogue := .empty }
    let answer : Text := "SELECTED_PRIMITIVES:\nPARTIAL_PARAMETERIZATIONS:\nDEPTH_LEVEL: 1"
    let report : Report := ⟨.ofNat 2, "f(x)"⟩
    let built : StageResult := .pass .build none [] .zero
    let m : Machine Cast := ⟨{
      files := ⟨[(["prologue".toList], .file []), (["epilogue".toList], .file [])]⟩
      model := ⟨[⟨some (.ok answer), false⟩]⟩
      build := ⟨[⟨some built, false⟩, ⟨some built, true⟩]⟩
      engine := ⟨[⟨some (.pass .evaluate (some report) [] .zero), false⟩]⟩ }, false, []⟩
    let r : Result := {
      task := p.name
      status := .cancelled
      iterations := 2
      modelCalls := 2
      best := some report
      history := [⟨1, .evaluated report, .zero⟩, ⟨2, .cancelled, .zero⟩]
      duration := .zero }
    ∃ m' before after, run Cast.world p m = some (.ok r, m') ∧
      m'.log = before ++ .stopRequested :: after ∧ (∀ e ∈ after, e.isEnd = true) ∧
        lastRecorded before = some report := by
  intro p answer report built m r
  obtain ⟨m', hrun, hstopped⟩ : ∃ m', run Cast.world p m = some (.ok r, m') ∧ m'.stopped = true :=
    exists_stopped_run (by decide +kernel)
  obtain ⟨events, hstops⟩ := (run_heeds_stops Cast.world p m).1 r m' hrun
  obtain ⟨before, after, hevents⟩ := List.append_of_mem (hstops.noticed rfl hstopped)
  obtain ⟨hafter, hbest, -⟩ := hstops.after before after hevents
  exact ⟨m', before, after, hrun, by rw [hstops.log, hevents]; rfl, hafter, hbest.symm⟩

/-- A search that was to be stopped before it began has no result if its template is missing. -/
theorem run_stopped_without_template :
    let p : Plan := {
      limits := Limits.usual
      stages := .usual
      layout := .default
      name := ⟨"training", "1"⟩
      task := ⟨[], []⟩
      catalogue := .empty }
    let m : Machine Cast := ⟨⟨⟨[]⟩, ⟨[]⟩, ⟨[]⟩, ⟨[]⟩⟩, true, []⟩
    m.stopped = true ∧
      ¬ ∃ r m', run Cast.world p m = some (.ok r, m') ∧ r.status = .cancelled := by
  intro p m
  refine ⟨rfl, ?_⟩
  rintro ⟨r, m', hrun, -⟩
  have hnone : (run Cast.world p m).map (fun x => x.1.toOption) = some none := by decide +kernel
  rw [hrun] at hnone
  cases hnone

end PrimitiveSearch.Search
