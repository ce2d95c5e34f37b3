import PrimitiveSearch.Proofs.Pipeline.Discipline
import PrimitiveSearch.Proofs.Text.Lines
import PrimitiveSearch.Search.Round

/-!
# Results of real programs

What a stage yields that is a program of a host, whatever becomes of the program.

* `WellFormed` — a result carries the name of its stage, a report exactly if it is that of an engine
  that passed, and a reason exactly if the stage failed.  `wellFormed_runStage`: every result does.
* `standIns` — what is said in the place of a reason or a report that is missing.
* `RelaysFirstLine` — the one way in which the reason for a failed build is such a text:
  the build itself said so.  `relays_of_mem_standIns`; `not_mem_standIns_of_engine`.
-/

set_option autoImplicit false

namespace PrimitiveSearch.Pipeline

open Search Text

variable {σ : Type} {l : Limits} {task : TaskName} {depth : Nat} {s : Stage} {m m' : Machine σ}
  {result : StageResult} {x : StageRun} {e : Equipment} {h : Host σ}

/-! ## Results in form -/

/-- A result is in form for a stage. -/
structure WellFormed (s : Stage) (r : StageResult) : Prop where
  stage : r.stage = s.name
  error : r.passed = true ↔ r.error? = none
  report : (∃ report, r.report? = some report) ↔ s = .evaluate ∧ r.passed = true
  reason : r.passed = false → ∃ text, r.error? = some text ∧ text ≠ []

theorem wellFormed_fail {error : Text} (herror : error ≠ []) (output : Text) (d : Duration) :
    WellFormed s (.fail s error output d) where
  stage := rfl
  error := by simp
  report := by simp
  reason _ := ⟨error, rfl, herror⟩

theorem wellFormed_pass {report : Option Report} (hreport : report.isSome = true ↔ s = .evaluate)
    (output : Text) (d : Duration) : WellFormed s (.pass s report output d) where
  stage := rfl
  error := by simp
  report := by
    rw [← hreport, Option.isSome_iff_exists]
    simp
  reason hfailed := by cases hfailed

theorem append_ne_nil {front : Text} (hfront : front ≠ []) (rest : Text) : front ++ rest ≠ [] :=
  List.append_ne_nil_of_left_ne_nil hfront rest

/-- Every failed build has a reason: the last resort is its exit code. -/
theorem failure_ne_nil (code : Option Int) (stdout stderr : Text) :
    BuildPlan.failure code stdout stderr ≠ [] := by
  unfold BuildPlan.failure
  dsimp only
  split
  · rename_i line hline
    rintro rfl
    exact absurd (List.find?_some hline) (by decide)
  split
  · rename_i line hline
    simpa using List.find?_some hline
  · split
    · exact append_ne_nil (by decide) _
    · decide

theorem wellFormed_buildResult (p : BuildPlan) (run : ProgramRun) (d : Duration) :
    WellFormed .build (p.result run d) := by
  unfold BuildPlan.result
  split
  · refine wellFormed_fail ?_ _ d
    rw [List.append_assoc, List.append_assoc]
    exact append_ne_nil (by decide) _
  · dsimp only
    split
    · exact wellFormed_pass (by simp) _ d
    · exact wellFormed_fail (failure_ne_nil _ _ _) _ d

theorem wellFormed_engineResult (engine : Path) (run : ProgramRun) (d : Duration) :
    WellFormed .evaluate (Engine.result engine run d) := by
  unfold Engine.result
  split
  · refine wellFormed_fail ?_ _ d
    rw [List.append_assoc, List.append_assoc]
    exact append_ne_nil (by decide) _
  dsimp only
  split
  · split
    · exact wellFormed_pass (by simp) _ d
    · rename_i fault _
      refine wellFormed_fail ?_ _ d
      cases fault with
      | missingCost => decide
      | invalidCost line => exact append_ne_nil (by decide) line
  · rename_i code _ _ _
    refine wellFormed_fail ?_ _ d
    cases code with
    | none => decide
    | some c => exact append_ne_nil (by decide) _

/-- Why a stage of a host yields what it does: its program came to an end, or it was given up. -/
theorem StageRun.Took.program_cases (htook : x.Took (e.world h) l task depth m m') :
    (x.stage = .build ∧ ∃ run d, x.result = e.build.result run d) ∨
    (x.stage = .evaluate ∧ ∃ run d, x.result = Engine.result e.engine run d) ∨
      ∃ error d, x.result = .fail x.stage error [] d ∧
        (error = cancelledText ∨ ∃ limit, error = timeoutText limit) := by
  rcases htook.result_cases with ⟨y, hy⟩ | hgivenUp
  · cases hstage : x.stage with
    | build =>
      rw [hstage] at hy
      obtain ⟨⟨run, d⟩, -, hrun⟩ := exists_of_map hy
      exact .inl ⟨rfl, run, d, hrun.symm⟩
    | evaluate =>
      rw [hstage] at hy
      obtain ⟨⟨run, d⟩, -, hrun⟩ := exists_of_map hy
      exact .inr (.inl ⟨rfl, run, d, hrun.symm⟩)
  · exact .inr (.inr hgivenUp)

theorem StageRun.Took.wellFormed (htook : x.Took (e.world h) l task depth m m') :
    WellFormed x.stage x.result := by
  rcases htook.program_cases with ⟨hstage, run, d, hresult⟩ | ⟨hstage, run, d, hresult⟩ |
    ⟨error, d, hresult, herror⟩
  · rw [hstage, hresult]
    exact wellFormed_buildResult e.build run d
  · rw [hstage, hresult]
    exact wellFormed_engineResult e.engine run d
  · rw [hresult]
    refine wellFormed_fail ?_ [] d
    rcases herror with rfl | ⟨limit, rfl⟩
    · decide
    · exact append_ne_nil (by decide) _

/-- Every result of a stage is in form, whatever becomes of its program. -/
theorem wellFormed_runStage (hm : m.stopped = false)
    (hrun : runStage (e.world h) l task depth s m = some (result, m')) : WellFormed s result := by
  obtain ⟨x, rfl, rfl, htook⟩ := runStage_took hm hrun
  exact htook.wellFormed

/-! ## Reasons that are no reasons -/

/-- What is said of a failure without a reason, and of an engine that passed without a report. -/
def standIns : List Text := [StageResult.unknownError, noReport]

theorem not_mem_standIns {front : Text} (hfront : ∀ t ∈ standIns, ¬ front <+: t) (rest : Text) :
    front ++ rest ∉ standIns := fun hmem => hfront _ hmem (List.prefix_append front rest)

/-- A run of the container runtime that failed without an error line, and whose error output has
the given text as its first line that is not blank. -/
def RelaysFirstLine (run : ProgramRun) (text : Text) : Prop :=
  ∃ code out err, run = .ended code out err ∧ code ≠ some 0 ∧
    (∀ line ∈ trimLines (ofBytesLossy err) ++ trimLines (ofBytesLossy out),
      BuildPlan.isErrorLine line = false) ∧
    ∃ before after, trimLines (ofBytesLossy err) = before ++ text :: after ∧
      (∀ line ∈ before, line = []) ∧ text ≠ []

theorem failure_mem_standIns {code : Option Int} {stdout stderr text : Text}
    (hfailure : BuildPlan.failure code stdout stderr = text) (hmem : text ∈ standIns) :
    (∀ line ∈ trimLines stderr ++ trimLines stdout, BuildPlan.isErrorLine line = false) ∧
    ∃ before after, trimLines stderr = before ++ text :: after ∧
      (∀ line ∈ before, line = []) ∧ text ≠ [] := by
  unfold BuildPlan.failure at hfailure
  dsimp only at hfailure
  split at hfailure
  · rename_i line hline
    obtain rfl := hfailure
    have hplain : ∀ t ∈ standIns, BuildPlan.isErrorLine t = false := by decide
    have hmarked : BuildPlan.isErrorLine line = true := List.find?_some hline
    rw [hplain line hmem] at hmarked
    cases hmarked
  · rename_i hnone
    split at hfailure
    · rename_i line hline
      obtain rfl := hfailure
      obtain ⟨hne, before, after, hlines, hbefore⟩ := List.find?_eq_some_iff_append.mp hline
      refine ⟨fun t ht => by simpa using List.find?_eq_none.mp hnone t ht, before, after, hlines,
        by simpa using hbefore, by simpa using hne⟩
    · refine absurd hmem ?_
      rw [← hfailure]
      split
      · exact not_mem_standIns (by decide) _
      · decide

theorem not_mem_standIns_of_givenUp {error : Text}
    (herror : error = cancelledText ∨ ∃ limit, error = timeoutText limit) : error ∉ standIns := by
  rcases herror with rfl | ⟨limit, rfl⟩
  · decide
  · exact not_mem_standIns (by decide) _

/-- A build whose reason is a text that stands in for a missing one has said so itself. -/
theorem relays_of_mem_standIns {text : Text} (htook : x.Took (e.world h) l task depth m m')
    (hstage : x.stage = .build) (herror : x.result.error? = some text) (hmem : text ∈ standIns) :
    ∃ run d, x.result = e.build.result run d ∧ RelaysFirstLine run text := by
  rcases htook.program_cases with ⟨-, run, d, hresult⟩ | ⟨hother, -⟩ | ⟨error, d, hresult, hgiven⟩
  · refine ⟨run, d, hresult, ?_⟩
    rw [hresult] at herror
    unfold BuildPlan.result at herror
    split at herror
    · obtain rfl := Option.some.inj herror
      simp only [List.append_assoc] at hmem
      exact absurd hmem (not_mem_standIns (by decide) _)
    · rename_i code out err
      dsimp only at herror
      split at herror
      · cases herror
      · rename_i hcode
        exact ⟨code, out, err, rfl, hcode,
          failure_mem_standIns (Option.some.inj herror) hmem⟩
  · rw [hstage] at hother
    cases hother
  · rw [hresult] at herror
    obtain rfl := Option.some.inj herror
    exact absurd hmem (not_mem_standIns_of_givenUp hgiven)

/-- The reason for a failed run of the engine is never such a text. -/
theorem not_mem_standIns_of_engine {text : Text} (htook : x.Took (e.world h) l task depth m m')
    (hstage : x.stage = .evaluate) (herror : x.result.error? = some text) : text ∉ standIns := by
  rcases htook.program_cases with ⟨hother, -⟩ | ⟨-, run, d, hresult⟩ | ⟨error, d, hresult, hgiven⟩
  · rw [hstage] at hother
    cases hother
  · rw [hresult] at herror
    unfold Engine.result at herror
    split at herror
    · obtain rfl := Option.some.inj herror
      simp only [List.append_assoc]
      exact not_mem_standIns (by decide) _
    dsimp only at herror
    split at herror
    · split at herror
      · cases herror
      · rename_i fault _
        obtain rfl := Option.some.inj herror
        cases fault with
        | missingCost => decide
        | invalidCost line => exact not_mem_standIns (by decide) line
    · rename_i code _ _ _
      obtain rfl := Option.some.inj herror
      cases code with
      | none => decide
      | some c => exact not_mem_standIns (by decide) _
  · rw [hresult] at herror
    obtain rfl := Option.some.inj herror
    exact not_mem_standIns_of_givenUp hgiven

end PrimitiveSearch.Pipeline
