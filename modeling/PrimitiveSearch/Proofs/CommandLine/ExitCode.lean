import PrimitiveSearch.CommandLine.Run
import PrimitiveSearch.Proofs.Session.Trail

/-!
# The exit code of a session

* `Account` — what a session that is over did, printed and said by its exit code.
* `Stuck` — where a session got to that never ends.
* `runSession_exitCode` — once the settings are known, a session gives such an account, and its
  exit code tells success exactly when every task is solved, one after another.
-/

set_option autoImplicit false

namespace PrimitiveSearch.CommandLine

open Search (Machine)
open Session

variable {σ : Type} {h : Host σ} {s : Session} {m m' : Machine σ} {t : Transcript}
  {visits : List (TaskName × Visit)} {left : List TaskName}

/-! ## Accounts -/

/-- The results of all searches, in order. -/
def resultsOf (visits : List (TaskName × Visit)) : List Search.Result :=
  visits.filterMap fun x => x.2.result?

/-- What is printed of a result: its summary, and the expression of the best report if the task
was solved. -/
def printed (r : Search.Result) : Text :=
  Visit.line r.summary ++
    match r.status, r.best with
    | .solved, some report => Visit.line report.expression
    | _, _ => []

/-- A status as it stands in front of a summary. -/
def badge : Search.Status → Text
  | .solved => "[SOLVED] "
  | .exhausted => "[EXHAUSTED] "
  | .cancelled => "[CANCELLED] "

/-- How the summary of a search begins. -/
def heading (r : Search.Result) : Text :=
  badge r.status ++ r.task.folder ++ '/' :: r.task.id ++ " in "

/-- A result is only called solved when its best report reproduces every demonstration. -/
def Vouched (r : Search.Result) : Prop :=
  r.status = .solved → ∃ report, r.best = some report ∧ report.isExact = true

/-- What a session that began in the state `m` and is over in the state `m'` did: its visits, the
tasks that are left, and what it leaves behind. -/
structure Account (h : Host σ) (s : Session) (m m' : Machine σ) (t : Transcript)
    (visits : List (TaskName × Visit)) (left : List TaskName) : Prop where
  /-- The tasks are visited in the order in which they were named. -/
  names : s.names = visits.map Prod.fst ++ left
  trail : Trail h s visits m m'
  ends : Ends m' visits left
  output : t.output = s.banner ++ (resultsOf visits).flatMap printed
  /-- A search is one of the task visited, and what is printed of it begins so. -/
  headed : ∀ n r, (n, .searched r) ∈ visits → r.task = n ∧ heading r <+: printed r
  vouched : ∀ r ∈ resultsOf visits, Vouched r
  exitCode : (Conclusion.ended t).exitCode = 0 ↔ left = [] ∧ AllSolved visits

/-- Where a session got to that began in the state `m` and never ends: to a task that is searched
for ever. -/
def Stuck (h : Host σ) (s : Session) (m : Machine σ) : Prop :=
  ∃ visits n left m' task catalogue m₁ m₂, s.names = visits.map Prod.fst ++ n :: left ∧
    Trail h s visits m m' ∧ Benign visits ∧ m'.stopped = false ∧
      obtain h s n m' = (.ok task, m₁) ∧ loadCatalogue h s m₁ = (.ok catalogue, m₂) ∧
        Search.run (s.equipment.world h) (s.plan n task catalogue) m₂ = none

/-! ## What is printed -/

theorem exists_visits_of_mem {r : Search.Result} (ht : Trail h s visits m m')
    (hr : r ∈ resultsOf visits) : ∃ n m₁ m₂, Visits h s n m₁ (.searched r) m₂ := by
  induction ht with
  | nil => cases hr
  | @cons n v _ m m₁ _ _ hvisit _ ih =>
    cases v with
    | unobtained | fatal => exact ih hr
    | searched result =>
      rcases List.mem_cons.mp hr with rfl | hr
      · exact ⟨n, m, m₁, hvisit⟩
      · exact ih hr

theorem vouched_of_mem {r : Search.Result} (ht : Trail h s visits m m')
    (hr : r ∈ resultsOf visits) : Vouched r := by
  obtain ⟨n, m₁, m₂, hvisit⟩ := exists_visits_of_mem ht hr
  cases hvisit with
  | searched _ _ hrun => exact Search.run_best_of_solved hrun

theorem heading_isPrefix (r : Search.Result) : heading r <+: printed r := by
  have hbadge : badge r.status = '[' :: r.status.text ++ "] ".toList := by
    cases r.status <;> rfl
  have hsummary : heading r <+: r.summary := by
    rw [Search.Result.summary, Search.Result.lines, List.append_assoc, List.cons_append,
      Text.ofLines_cons, heading, hbadge, TaskName.text]
    simp [List.append_assoc]
  exact hsummary.trans ((List.prefix_append _ _).trans (List.prefix_append _ _))

theorem task_of_mem {n : TaskName} {r : Search.Result} (ht : Trail h s visits m m')
    (hr : (n, .searched r) ∈ visits) : r.task = n := by
  induction ht with
  | nil => cases hr
  | cons _ hvisit _ ih =>
    rcases List.mem_cons.mp hr with heq | hr
    · obtain ⟨rfl, rfl⟩ := Prod.mk.inj heq
      cases hvisit with
      | searched _ _ hrun => exact Search.task_of_run hrun
    · exact ih hr

/-- A search that was solved has a best report, so that its expression is there to be printed. -/
theorem output_searched {r : Search.Result} (hr : Vouched r) :
    (Visit.searched r).output = printed r := by
  cases hstatus : r.status with
  | solved =>
    obtain ⟨report, hreport, -⟩ := hr hstatus
    simp [Visit.output, printed, Search.Result.isSolved, hstatus, hreport, Report.expressionOf]
  | exhausted | cancelled => simp [Visit.output, printed, Search.Result.isSolved, hstatus]

/-- What is printed of all visits is what is printed of the results of their searches. -/
theorem output_eq {complete : Bool} (hall : ∀ r ∈ resultsOf visits, Vouched r) :
    Tour.output ⟨visits, complete⟩ = (resultsOf visits).flatMap printed := by
  unfold Tour.output
  dsimp only
  induction visits with
  | nil => rfl
  | cons x visits ih =>
    obtain ⟨n, v⟩ := x
    cases v with
    | unobtained | fatal => exact ih hall
    | searched r =>
      obtain ⟨hr, hall⟩ := List.forall_mem_cons.mp hall
      have hrest := ih hall
      rw [List.flatMap_cons, hrest, output_searched hr]
      rfl

/-! ## The exit code -/

theorem exitCode_eq_zero_iff : (Conclusion.ended t).exitCode = 0 ↔ t.succeeded = true := by
  rw [Conclusion.exitCode]
  cases t.succeeded <;> simp

theorem run_account (hrun : Session.run h s m = some (t, m')) :
    ∃ visits left, Account h s m m' t visits left := by
  obtain ⟨⟨tour, m₁⟩, htour, heq⟩ := Option.map_eq_some_iff.mp hrun
  obtain ⟨rfl, rfl⟩ := Prod.mk.inj heq
  obtain ⟨left, hnames, htrail, hends, hcomplete⟩ := through_trail htour
  -- the expression of a solved task is printed from its best report, so there has to be one
  have hall : ∀ r ∈ resultsOf tour.visits, Vouched r := fun r hr => vouched_of_mem htrail hr
  refine ⟨tour.visits, left, hnames, htrail, hends, ?_,
    fun n r hr => ⟨task_of_mem htrail hr, heading_isPrefix r⟩, hall, ?_⟩
  · exact congrArg (s.banner ++ ·) (output_eq hall)
  · exact exitCode_eq_zero_iff.trans (succeeded_iff hcomplete)

theorem run_stuck (hrun : Session.run h s m = none) : Stuck h s m := by
  obtain ⟨visits, n, left, m', hnames, htrail, hb, hm', hvisit⟩ :=
    through_unending (Option.map_eq_none_iff.mp hrun)
  obtain ⟨task, catalogue, m₁, m₂, hobtain, hcatalogue, hsearch⟩ := visit_unending hvisit
  exact ⟨visits, n, left, m', task, catalogue, m₁, m₂, hnames, htrail, hb, hm', hobtain,
    hcatalogue, hsearch⟩

theorem run_succeeds_iff : (∃ t m', Session.run h s m = some (t, m') ∧
    (Conclusion.ended t).exitCode = 0) ↔ ∃ m', SolvesAll h s s.names m m' := by
  rw [← through_succeeded_iff]
  constructor
  · rintro ⟨t, m', hrun, hcode⟩
    obtain ⟨⟨tour, m₁⟩, htour, heq⟩ := Option.map_eq_some_iff.mp hrun
    obtain ⟨rfl, rfl⟩ := Prod.mk.inj heq
    exact ⟨tour, m₁, htour, exitCode_eq_zero_iff.mp hcode⟩
  · rintro ⟨tour, m', htour, hsucceeded⟩
    refine ⟨s.transcript tour, m', ?_, exitCode_eq_zero_iff.mpr hsucceeded⟩
    rw [Session.run, htour]
    rfl

/-- **The exit code tells of the whole batch.**  Once the settings are known, and whenever a stop
is requested, a session that ends gives an account of its visits; its exit code is zero exactly
when every task named is obtained, finds the catalogue and the files of the engine, and is solved,
one after another; and it only never ends when one of the searches does not. -/
theorem runSession_exitCode (h : Host σ) (p : Surroundings) (o : Options) (settings : Settings)
    (m m₁ : Machine σ) (hload : loadSettings h o m = (.ok settings, m₁)) :
    let s := session p o (o.override (settings.withEnvironment p.environment))
    (∀ t m', runSession h p o m = some (t, m') →
      ∃ visits left, Account h s m₁ m' t visits left) ∧
    ((∃ t m', runSession h p o m = some (t, m') ∧ (Conclusion.ended t).exitCode = 0) ↔
      ∃ m', SolvesAll h s s.names m₁ m') ∧
    (runSession h p o m = none → Stuck h s m₁) := by
  intro s
  have hrun : runSession h p o m = Session.run h s m₁ := by rw [runSession, hload]
  rw [hrun]
  exact ⟨fun t m' => run_account, run_succeeds_iff, run_stuck⟩

/-- Three tasks: the first cannot be obtained, the second is solved, and the last is not. -/
theorem runSession_exitCode_unobtained :
    let answer : Text := "SELECTED_PRIMITIVES:\nPARTIAL_PARAMETERIZATIONS:\nDEPTH_LEVEL: 1"
    let document : Text := "\x7b\x7d"
    let h : Host Unit := {
      clock := fun _ => (.zero, ())
      load := fun _ _ => (.quiet (.ok []), ())
      read := fun _ _ => (.quiet (.finished (.ok [])), ())
      save := fun _ _ _ _ => (.quiet (.ok ()), ())
      run := fun program arguments _ =>
        let out : Text :=
          if program = Model.defaultRunner then answer
          else if "2".toList ∈ arguments then "0\ng(x)" else "0.5\nh(x)"
        (.quiet (.finished (.ended (some 0) (Text.bytes out) [])), ())
      fetch := fun url _ =>
        if "1.json".toList.isSuffixOf url then (.quiet (.failed "gone"), ())
        else (.quiet (.answered 200 (Text.bytes document)), ()) }
    let p : Surroundings := ⟨"/work", fun _ => none, 1⟩
    let o : Options := { Options.none with ids := ["1", "2", "3"], maxIterations := some 1 }
    let m : Machine Unit := ⟨(), false, []⟩
    let s := session p o (o.override (Settings.none.withEnvironment p.environment))
    let output : Text :=
      "Partial-Specialization Refinement\n" ++
      "=================================\n\n" ++
      "Model: gpt-oss:20b\n" ++
      "Primitives: ../include/aicpp/primitives.h\n" ++
      "Tasks: 1, 2, 3\n\n" ++
      "[SOLVED] training/2 in 0.00s\n" ++
      "  Iterations: 1\n" ++
      "  Model calls: 1\n" ++
      "  Best cost: 0.0\n" ++
      "  Expression: g(x)\n\n" ++
      "g(x)\n" ++
      "[EXHAUSTED] training/3 in 0.00s\n" ++
      "  Iterations: 1\n" ++
      "  Model calls: 1\n" ++
      "  Best cost: 0.5\n" ++
      "  Expression: h(x)\n" ++
      "  #1 (0.00s): cost 0.5, expression h(x)\n\n"
    let complaints : Text := "Error fetching training/1: HTTP error: gone\n"
    loadSettings h o m = (.ok Settings.none, m) ∧
      (∃ m' visits left, runSession h p o m = some (⟨output, complaints, false⟩, m') ∧
        Account h s m m' ⟨output, complaints, false⟩ visits left) ∧
        ¬ ∃ m', SolvesAll h s s.names m m' := by
  intro answer document h p o m s output complaints
  have hload : loadSettings h o m = (.ok Settings.none, m) := rfl
  obtain ⟨haccount, hsucceeds, -⟩ := runSession_exitCode h p o Settings.none m m hload
  have hresult : (runSession h p o m).map Prod.fst = some ⟨output, complaints, false⟩ := by
    decide +kernel
  obtain ⟨⟨t, m'⟩, hrun, rfl⟩ := Option.map_eq_some_iff.mp hresult
  obtain ⟨visits, left, ha⟩ := haccount _ m' hrun
  refine ⟨hload, ⟨m', visits, left, hrun, ha⟩, fun hall => ?_⟩
  obtain ⟨t', m'', hrun', hcode⟩ := hsucceeds.mpr hall
  cases Option.some.inj (hrun.symm.trans hrun')
  cases exitCode_eq_zero_iff.mp hcode

end PrimitiveSearch.CommandLine
