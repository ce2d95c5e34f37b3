import PrimitiveSearch.Proofs.Search.Course
import PrimitiveSearch.Rehearsal.Collaborators

/-!
# The books of a search

* `Books` — what the progress says of the rounds so far; `Books.turn` keeps it through a round, and
  `Course.books` through a course.
* `Bookkeeping` — what a result says of all rounds of its search.
* `run_bookkeeping` — every result is so.
-/

set_option autoImplicit false

namespace PrimitiveSearch.Search

variable {σ : Type} {w : World σ} {p : Plan} {t : EngineModule.Template} {start : Duration}
  {m₀ m m' : Machine σ} {g : Progress} {turns : List Turn}

/-! ## What outcomes decide -/

namespace Outcome

variable {o : Outcome} {status : Status}

theorem decides_eq_none_iff : o.decides = none ↔ o ≠ .cancelled ∧ o.isSolved = false := by
  cases o with
  | failed step error => simp [decides, isSolved]
  | evaluated report => simp [decides]
  | cancelled => simp [decides]

theorem decides_eq_some_iff : o.decides = some status ↔
    status = .solved ∧ o.isSolved = true ∨ status = .cancelled ∧ o = .cancelled := by
  cases o with
  | failed step error => simp [decides, isSolved]
  | evaluated report =>
    cases h : (evaluated report).isSolved <;> simp [decides, h, eq_comm]
  | cancelled => simp [decides, isSolved, eq_comm]

end Outcome

/-! ## The invariant -/

/-- What the progress says of the rounds so far. -/
structure Books (p : Plan) (turns : List Turn) (g : Progress) : Prop where
  iteration : g.iteration = turns.length
  numbered : turns.map (fun x => x.record.iteration) = List.range' 1 turns.length
  best : g.best = (turns.filterMap fun x => x.outcome.report?).getLast?
  modelCalls : g.modelCalls = (turns.flatMap Turn.events).countP Event.isAsked
  calls : ∀ x ∈ turns, x.calls = 1 ∨ x.calls = 0 ∧ x.outcome = .cancelled
  undecided : ∀ x ∈ turns.dropLast, x.outcome.decides = none
  capped : ∀ most, p.limits.maxRounds = some most → turns.length ≤ most

theorem books_start (p : Plan) : Books p [] Progress.start := by
  refine ⟨rfl, rfl, rfl, rfl, ?_, ?_, fun most _ => Nat.zero_le most⟩
  all_goals exact fun x hx => absurd hx List.not_mem_nil

theorem getLast?_filterMap_concat (x : Turn) : ((turns ++ [x]).filterMap
    fun x => x.outcome.report?).getLast? =
      x.outcome.report?.or (turns.filterMap fun x => x.outcome.report?).getLast? := by
  rw [List.filterMap_append]
  cases h : x.outcome.report? <;> simp [h]

theorem Books.turn {g' : Progress} {record : Record} {events : List Event} (hb : Books p turns g)
    (hu : Undecided turns) (hspent : p.limits.roundsSpent g.iteration = false)
    (hround : recordedRound w p t g m = some (record, g', m'))
    (hlog : m'.log = m.log ++ events) : Books p (turns ++ [⟨record, events⟩]) g' := by
  obtain ⟨hnumber, hiteration, calls, ⟨events', hlog', rfl⟩, hbest, hcalls, hone⟩ :=
    recordedRound_spec hround
  -- both describe the part of the log that the round added
  obtain rfl : events = events' := List.append_cancel_left (hlog.symm.trans hlog')
  constructor
  · rw [hiteration, hb.iteration, List.length_append]
    rfl
  · have hlast : record.iteration = 1 + turns.length := by
      rw [hnumber, hb.iteration, Nat.add_comm]
    rw [List.map_append, hb.numbered, List.length_append, List.length_singleton,
      List.range'_1_concat, ← hlast]
    rfl
  · rw [getLast?_filterMap_concat, ← hb.best]
    exact hbest
  · rw [hcalls, hb.modelCalls, List.flatMap_append, List.countP_append, List.flatMap_singleton]
  · intro x hx
    rcases List.mem_append.mp hx with hx | hx
    · exact hb.calls x hx
    · rw [List.mem_singleton.mp hx]
      exact hone
  · intro x hx
    rw [List.dropLast_concat] at hx
    have hne : turns ≠ [] := List.ne_nil_of_mem hx
    rw [← List.dropLast_concat_getLast hne, List.mem_append, List.mem_singleton] at hx
    rcases hx with hx | rfl
    · exact hb.undecided x hx
    · exact hu _ (List.getLast?_eq_some_getLast hne)
  · intro most hmost
    rw [Limits.roundsSpent, hmost] at hspent
    have hlt : turns.length < most := by
      rw [← hb.iteration]
      simpa using hspent
    rw [List.length_append]
    exact hlt

theorem Course.books (h : Course w p t start m₀ turns g m) : Books p turns g := by
  induction h with
  | begin => exact books_start p
  | turn _ hu _ hspent _ hround hlog ih => exact ih.turn hu hspent hround hlog

/-! ## Calls of the model -/

/-- The last round was cancelled before the model was asked. -/
def CancelledUnasked (turns : List Turn) : Prop :=
  ∃ x, turns.getLast? = some x ∧ x.outcome = .cancelled ∧ x.calls = 0

theorem countP_calls {xs : List Turn} (h : ∀ x ∈ xs, x.calls = 1) :
    (xs.flatMap Turn.events).countP Event.isAsked = xs.length := by
  induction xs with
  | nil => rfl
  | cons x xs ih =>
    have hx : x.events.countP Event.isAsked = 1 := h x List.mem_cons_self
    have hxs := ih fun y hy => h y (List.mem_cons_of_mem x hy)
    rw [List.flatMap_cons, List.countP_append, List.length_cons, hx, hxs]
    omega

/-- Every round asks the model once, but a last one that was cancelled before it could. -/
theorem Books.modelCalls_eq (hb : Books p turns g) :
    (CancelledUnasked turns → g.modelCalls + 1 = turns.length) ∧
      (¬ CancelledUnasked turns → g.modelCalls = turns.length) := by
  have hsum := hb.modelCalls
  by_cases hne : turns = []
  · subst hne
    refine ⟨?_, fun _ => hsum⟩
    rintro ⟨x, hx, -⟩
    cases hx
  · have hlast := List.getLast?_eq_some_getLast hne
    have hfull := List.dropLast_concat_getLast hne
    generalize turns.getLast hne = x at hlast hfull
    -- only the last round can have been cancelled, so all before it asked once
    have hinit : (turns.dropLast.flatMap Turn.events).countP Event.isAsked =
        turns.dropLast.length := by
      apply countP_calls
      intro y hy
      have hy' := (Outcome.decides_eq_none_iff.mp (hb.undecided y hy)).1
      rcases hb.calls y (List.dropLast_subset _ hy) with h | ⟨-, h⟩
      · exact h
      · exact absurd h hy'
    have htotal : g.modelCalls = turns.dropLast.length + x.calls := by
      rw [hsum, ← hfull, List.flatMap_append, List.countP_append, List.dropLast_concat, hinit,
        List.flatMap_singleton]
      rfl
    have hlength : turns.length = turns.dropLast.length + 1 := by
      rw [← hfull, List.dropLast_concat, List.length_append, List.length_singleton]
    constructor
    · rintro ⟨y, hy, -, hcalls⟩
      rw [hlast] at hy
      cases hy
      omega
    · intro hnot
      rcases hb.calls x (List.mem_of_getLast? hlast) with h | ⟨h, hx⟩
      · omega
      · exact absurd ⟨x, hlast, hx, h⟩ hnot

/-! ## The result -/

/-- What a result says of all rounds of its search, whether they are kept or not. -/
structure Bookkeeping (w : World σ) (p : Plan) (start : Duration) (turns : List Turn)
    (last : Machine σ) (r : Result) : Prop where
  iterations : r.iterations = turns.length
  undecided : ∀ x ∈ turns.dropLast, x.outcome ≠ .cancelled ∧ x.outcome.isSolved = false
  solved : r.status = .solved ↔ ∃ x, turns.getLast? = some x ∧ x.outcome.isSolved = true
  cancelled : ∀ x, turns.getLast? = some x → x.outcome = .cancelled → r.status = .cancelled
  capped : ∀ most, p.limits.maxRounds = some most → turns.length ≤ most
  exhausted : r.status = .exhausted → p.limits.maxRounds = some turns.length ∨
    p.limits.timeSpent ((w.now last).1.since start) = true
  best : r.best = (turns.filterMap fun x => x.outcome.report?).getLast?
  history : r.history = (turns.map Turn.record).drop (turns.length - p.limits.historyLimit)
  kept : r.history.length = min turns.length p.limits.historyLimit
  numbered : r.history.map Record.iteration =
    List.range' (turns.length + 1 - r.history.length) r.history.length
  unasked : CancelledUnasked turns → r.modelCalls + 1 = turns.length
  asked : ¬ CancelledUnasked turns → r.modelCalls = turns.length

/-- A search that its last round did not decide is not solved, nor was that round cancelled. -/
theorem Undecided.status {status : Status} (hu : Undecided turns) (hne : status ≠ .solved) :
    (status = .solved ↔ ∃ x, turns.getLast? = some x ∧ x.outcome.isSolved = true) ∧
      ∀ x, turns.getLast? = some x → x.outcome = .cancelled → status = .cancelled := by
  have hopen : ∀ x, turns.getLast? = some x → x.outcome ≠ .cancelled ∧ x.outcome.isSolved = false :=
    fun x hx => Outcome.decides_eq_none_iff.mp (hu x hx)
  refine ⟨⟨fun h => absurd h hne, ?_⟩, fun x hx hc => absurd hc (hopen x hx).1⟩
  rintro ⟨x, hx, hsolved⟩
  rw [(hopen x hx).2] at hsolved
  cases hsolved

/-- The last round decides the status, or it leaves it to the limits and to stop requests. -/
theorem Ends.status {status : Status} (h : Ends w p start turns g m status m') :
    (status = .solved ↔ ∃ x, turns.getLast? = some x ∧ x.outcome.isSolved = true) ∧
      ∀ x, turns.getLast? = some x → x.outcome = .cancelled → status = .cancelled := by
  cases h with
  | @decided x _ hx hdecides =>
    rcases Outcome.decides_eq_some_iff.mp hdecides with ⟨rfl, hsolved⟩ | ⟨rfl, hcancelled⟩
    · refine ⟨⟨fun _ => ⟨x, hx, hsolved⟩, fun _ => rfl⟩, fun y hy hc => ?_⟩
      rw [hx] at hy
      cases hy
      rw [hc] at hsolved
      cases hsolved
    · refine ⟨⟨fun h => absurd h (by decide), ?_⟩, fun _ _ _ => rfl⟩
      rintro ⟨y, hy, hsolved⟩
      rw [hx] at hy
      cases hy
      rw [hcancelled] at hsolved
      cases hsolved
  | stopped hu _ => exact hu.status (by decide)
  | capped hu _ => exact hu.status (by decide)
  | late hu _ => exact hu.status (by decide)

/-- Only the limits exhaust a search. -/
theorem Ends.exhausted (hb : Books p turns g) (h : Ends w p start turns g m .exhausted m') :
    p.limits.maxRounds = some turns.length ∨
      p.limits.timeSpent ((w.now m).1.since start) = true := by
  cases h with
  | decided _ hdecides =>
    rcases Outcome.decides_eq_some_iff.mp hdecides with ⟨h, -⟩ | ⟨h, -⟩ <;> cases h
  | capped _ hspent =>
    unfold Limits.roundsSpent at hspent
    split at hspent
    · rename_i most hmost
      have hle : most ≤ turns.length := by
        rw [← hb.iteration]
        simpa using hspent
      have hge := hb.capped most hmost
      exact .inl (by rw [hmost, Nat.le_antisymm hle hge])
    · cases hspent
  | late _ htime =>
    unfold timeIsUp at htime
    split at htime
    · cases htime
    · exact .inr (Prod.mk.inj htime).1

@[simp] theorem length_lastRecords (limit : Nat) (turns : List Turn) :
    (lastRecords limit turns).length = min turns.length limit := by
  rw [lastRecords, List.length_drop, List.length_map]
  omega

theorem numbered_lastRecords (hb : Books p turns g) (limit : Nat) :
    (lastRecords limit turns).map Record.iteration =
      List.range' (turns.length + 1 - (lastRecords limit turns).length)
        (lastRecords limit turns).length := by
  have hnumbers : (turns.map Turn.record).map Record.iteration = List.range' 1 turns.length := by
    rw [List.map_map]
    exact hb.numbered
  rw [length_lastRecords, lastRecords, List.map_drop, hnumbers, List.drop_range']
  congr 1 <;> omega

/-- **The books of a search are right.**  A search with a result had a course of rounds from which
its status, its best report, its history and its counts follow, however many rounds there were. -/
theorem run_bookkeeping {r : Result} (h : run w p m = some (.ok r, m')) :
    ∃ t m₀ turns g last m₁, loadTemplate w p.layout (w.now m).2 = (.ok t, m₀) ∧
      Course w p t (w.now m).1 m₀ turns g last ∧
        Ends w p (w.now m).1 turns g last r.status m₁ ∧
          Bookkeeping w p (w.now m).1 turns last r := by
  unfold run at h
  dsimp only at h
  split at h
  · cases h
  rename_i t m₀ hload
  split at h
  · cases h
  rename_i rs hrounds
  have hnil : lastRecords p.limits.historyLimit [] = [] := List.drop_nil
  rw [← hnil] at hrounds
  have hundecided : Undecided [] := fun x hx => by cases hx
  obtain ⟨turns, last, hcourse, hends, hhistory⟩ :=
    rounds_course Course.begin hundecided hrounds
  cases h
  have hb := hcourse.books
  obtain ⟨hsolved, hcancelled⟩ := hends.status
  refine ⟨t, m₀, turns, rs.progress, last, rs.machine, hload, hcourse, hends, ?_⟩
  constructor
  · exact hb.iteration
  · exact fun x hx => Outcome.decides_eq_none_iff.mp (hb.undecided x hx)
  · exact hsolved
  · exact hcancelled
  · exact hb.capped
  · intro hstatus
    dsimp only at hstatus
    rw [hstatus] at hends
    exact hends.exhausted hb
  · exact hb.best
  · exact hhistory
  · rw [hhistory]
    exact length_lastRecords _ turns
  · rw [hhistory]
    exact numbered_lastRecords hb _
  · exact hb.modelCalls_eq.1
  · exact hb.modelCalls_eq.2

theorem exists_run {r : Result} (h : ((run w p m).bind fun x => x.1.toOption) = some r) :
    ∃ m', run w p m = some (.ok r, m') := by
  obtain ⟨⟨result, m'⟩, hrun, hr⟩ := Option.bind_eq_some_iff.mp h
  cases result with
  | error fault => cases hr
  | ok r' =>
    cases hr
    exact ⟨m', hrun⟩

/-- A search whose only report comes from its first round, while only its third and last one is
kept: it is stopped while the model is asked. -/
theorem run_bookkeeping_stopped :
    let p : Plan := {
      limits := { Limits.bounded 5 with historyLimit := 1 }
      stages := .usual
      layout := ⟨"header", "prologue", "epilogue", "source", "primitives"⟩
      name := ⟨"training", "1"⟩
      task := ⟨[], []⟩
      catalogue := .empty }
    let answer : Text := "SELECTED_PRIMITIVES:\nPARTIAL_PARAMETERIZATIONS:\nDEPTH_LEVEL: 1"
    let report : Report := ⟨.ofNat 2, "f(x)"⟩
    let m : Machine Cast := ⟨{
      files := ⟨[(["prologue".toList], .file []), (["epilogue".toList], .file [])]⟩
      model := ⟨[⟨some (.ok answer), false⟩, ⟨some (.error (.failed none [])), false⟩, ⟨none, true⟩]⟩
      build := ⟨[]⟩
      engine := ⟨[⟨some (.pass .evaluate (some report) [] .zero), false⟩]⟩ }, false, []⟩
    let r : Result := {
      task := p.name
      status := .cancelled
      iterations := 3
      modelCalls := 3
      best := some report
      history := [⟨3, .cancelled, .zero⟩]
      duration := .zero }
    (∃ m', run Cast.world p m = some (.ok r, m')) ∧
      ∃ turns last, turns.length = 3 ∧ Bookkeeping Cast.world p .zero turns last r := by
  intro p answer report m r
  obtain ⟨m', hrun⟩ : ∃ m', run Cast.world p m = some (.ok r, m') :=
    exists_run (by decide +kernel)
  obtain ⟨t, m₀, turns, g, last, m₁, -, -, -, hbooks⟩ := run_bookkeeping hrun
  exact ⟨⟨m', hrun⟩, turns, last, hbooks.iterations.symm, hbooks⟩

end PrimitiveSearch.Search
