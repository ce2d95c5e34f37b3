import PrimitiveSearch.Proofs.Search.Bookkeeping
import PrimitiveSearch.Proofs.Search.Deeds

/-!
# What a search does

* `lastReport`, `Course.feedback_eq` — each prompt tells the last report of the rounds before it.
* `Tells`, `Course.tells` — the events of every round of a course are what rounds do.
* `Course.did` — what a course did, of which the last report is the best one.
* `Unending`, `rounds_unending` — where a search that never ends got to.
-/

set_option autoImplicit false

namespace PrimitiveSearch.Search

variable {σ : Type} {w : World σ} {p : Plan} {t : EngineModule.Template} {start : Duration}
  {m₀ m m' n : Machine σ} {g : Progress} {turns : List Turn} {acts : List Event}
  {k : Nat} {last : Option Report} {o : Option Outcome}

/-! ## Reports -/

/-- The last report of some rounds. -/
def lastReport (turns : List Turn) : Option Report :=
  (turns.filterMap fun x => x.outcome.report?).getLast?

/-- The report that an event records. -/
def Event.report? : Event → Option Report
  | .recorded report => some report
  | _ => none

/-- The last report that events record. -/
def lastRecorded (events : List Event) : Option Report :=
  (events.filterMap Event.report?).getLast?

@[simp] theorem lastRecorded_append (acts acts' : List Event) : lastRecorded (acts ++ acts') =
    (lastRecorded acts').or (lastRecorded acts) := by
  rw [lastRecorded, List.filterMap_append, List.getLast?_append]
  rfl

@[simp] theorem lastRecorded_recordedOf (o : Option Outcome) :
    lastRecorded (recordedOf o) = o.bind Outcome.report? := by
  unfold recordedOf lastRecorded
  cases o.bind Outcome.report? <;> rfl

theorem lastRecorded_eq_none {events : List Event} (h : ∀ e ∈ events, e.report? = none) :
    lastRecorded events = none := by
  rw [lastRecorded, List.filterMap_eq_nil_iff.mpr h]
  rfl

theorem AnswerDeeds.report?_eq_none {text : Text} (h : AnswerDeeds p t text o acts) {e : Event}
    (he : e ∈ acts) : e.report? = none := by
  rcases h.mem he with ⟨file, text', ok, rfl⟩ | rfl | ⟨a, s, -, rfl⟩
  · rfl
  · rfl
  · cases s <;> rfl

/-- A round records the report of its outcome at its end, and nothing else. -/
theorem Deeds.recorded (h : Deeds p t k last o acts) :
    ∃ front, acts = front ++ recordedOf o ∧ ∀ e ∈ front, e.report? = none := by
  cases h with
  | unasked =>
    refine ⟨_, (List.append_nil _).symm, fun e he => ?_⟩
    simp only [List.mem_cons, List.not_mem_nil, or_false] at he
    rcases he with rfl | rfl <;> rfl
  | unanswered hends =>
    have hnone : recordedOf o = [] := by
      cases o with
      | none => rfl
      | some o' => rcases hends o' rfl with rfl | ⟨reason, rfl⟩ <;> rfl
    refine ⟨_, by rw [hnone, List.append_nil], fun e he => ?_⟩
    simp only [List.mem_cons, List.not_mem_nil, or_false] at he
    rcases he with rfl | rfl | rfl <;> rfl
  | answered hdeeds =>
    refine ⟨_, rfl, fun e he => ?_⟩
    rcases List.mem_append.mp he with he | he
    · simp only [List.mem_cons, List.not_mem_nil, or_false] at he
      rcases he with rfl | rfl | rfl | rfl <;> rfl
    · exact hdeeds.report?_eq_none he

/-! ## Rounds -/

theorem timeIsUp_keeps {late : Bool} (h : timeIsUp w p start m = (late, m')) :
    m'.log = m.log ∧ m'.stopped = m.stopped := by
  unfold timeIsUp at h
  split at h <;> cases h <;> exact ⟨rfl, rfl⟩

theorem did_timeIsUp {late : Bool} (h : timeIsUp w p start m = (late, m')) : Did m [] m' :=
  .of_eq (timeIsUp_keeps h).1 (timeIsUp_keeps h).2

theorem recordedRound_deeds {record : Record} {g' : Progress} (hm : m.stopped = false)
    (h : recordedRound w p t g m = some (record, g', m')) : ∃ acts, Did m acts m' ∧
      Deeds p t (g.iteration + 1) g.feedback (some record.outcome) acts := by
  unfold recordedRound at h
  dsimp only at h
  split at h
  · cases h
  rename_i o g₁ m₁ hround
  obtain ⟨acts, hdid, hdeeds⟩ := round_deeds (m := (w.now m).2) hm hround
  have hall : ∀ record, Did m acts ((w.now m₁).2.observe (w.roundOver record)).2 := by
    intro record
    have hend := (did_now w m₁).trans (did_observe (w.now m₁).2 (w.roundOver record))
    have := ((did_now w m).trans hdid).trans hend
    rwa [List.nil_append, List.append_nil, List.append_nil] at this
  cases h
  exact ⟨acts, hall _, hdeeds⟩

theorem recordedRound_waits (h : recordedRound w p t g m = none) :
    ∃ n, Waits w p t { g with iteration := g.iteration + 1 } (w.now m).2 n := by
  unfold recordedRound at h
  dsimp only at h
  split at h
  · rename_i hround
    exact round_waits hround
  · cases h

/-! ## Courses -/

/-- What the next prompt tells is the last report: none was exact. -/
theorem Course.feedback_eq (h : Course w p t start m₀ turns g m) (hu : Undecided turns) :
    g.feedback = lastReport turns := by
  have hb := h.books
  have hopen : ∀ x ∈ turns, x.outcome.isSolved = false := by
    intro x hx
    have hne : turns ≠ [] := List.ne_nil_of_mem hx
    rw [← List.dropLast_concat_getLast hne, List.mem_append, List.mem_singleton] at hx
    rcases hx with hx | rfl
    · exact (Outcome.decides_eq_none_iff.mp (hb.undecided x hx)).2
    · exact (Outcome.decides_eq_none_iff.mp (hu _ (List.getLast?_eq_some_getLast hne))).2
  rw [Progress.feedback, hb.best, ← lastReport]
  cases hlast : lastReport turns with
  | none => rfl
  | some report =>
    obtain ⟨x, hx, hreport⟩ := List.mem_filterMap.mp (List.mem_of_getLast? hlast)
    have hexact : report.isExact = false := by
      have hsolved := hopen x hx
      cases hout : x.outcome <;> rw [hout] at hreport hsolved <;> cases hreport
      exact hsolved
    simp [Option.filter, hexact]

/-- Events of which no stop requests are asked for twice, and otherwise what a round does. -/
def Tells (p : Plan) (t : EngineModule.Template) (k : Nat) (last : Option Report)
    (o : Option Outcome) (events : List Event) : Prop :=
  (∃ stopped, Heeds false events stopped) ∧
    Deeds p t k last o (events.filter fun e => !e.isStop)

/-- The events of every round tell what it did after the rounds before it. -/
theorem Course.tells (h : Course w p t start m₀ turns g m) {before after : List Turn} {x : Turn}
    (hturns : turns = before ++ x :: after) :
    Tells p t (before.length + 1) (lastReport before) (some x.outcome) x.events := by
  induction h generalizing after with
  | begin => simp at hturns
  | @turn turns g g' m m₁ m' record events hc hu hm _ htime hround hlog ih =>
    rcases List.eq_nil_or_concat after with rfl | ⟨after, y, rfl⟩
    · obtain ⟨rfl, hx⟩ := List.append_inj' hturns rfl
      cases hx
      have hm₁ : m₁.stopped = false := (timeIsUp_keeps htime).2.trans hm
      obtain ⟨acts, ⟨events', hlog', hheeds, rfl⟩, hdeeds⟩ := recordedRound_deeds hm₁ hround
      obtain rfl : events = events' := List.append_cancel_left (hlog.symm.trans hlog')
      rw [hm₁] at hheeds
      rw [hc.feedback_eq hu, hc.books.iteration] at hdeeds
      exact ⟨⟨_, hheeds⟩, hdeeds⟩
    · rw [List.concat_eq_append, ← List.cons_append, ← List.append_assoc] at hturns
      exact ih (List.append_inj' hturns rfl).1

/-- What a course did ends in what its last round recorded; and the best report is the last that
was recorded. -/
theorem Course.did (h : Course w p t start m₀ turns g m) : ∃ acts front,
    Did m₀ acts m ∧ acts = front ++ recordedOf (turns.getLast?.map Turn.outcome) ∧
      g.best = lastRecorded acts := by
  induction h with
  | begin => exact ⟨[], [], Did.refl m₀, rfl, rfl⟩
  | @turn turns g g' m m₁ m' record events _ _ hm _ htime hround _ ih =>
    obtain ⟨acts, front, hdid, -, hbest⟩ := ih
    have hm₁ : m₁.stopped = false := (timeIsUp_keeps htime).2.trans hm
    obtain ⟨acts', hdid', hdeeds⟩ := recordedRound_deeds hm₁ hround
    obtain ⟨front', rfl, hfront⟩ := hdeeds.recorded
    obtain ⟨-, -, calls, -, hadvances⟩ := recordedRound_spec hround
    have hall := (hdid.trans (did_timeIsUp htime)).trans hdid'
    rw [List.append_nil, ← List.append_assoc] at hall
    refine ⟨_, acts ++ front', hall, by rw [List.getLast?_concat]; rfl, ?_⟩
    simp [hadvances.best, hbest, lastRecorded_eq_none hfront]

/-- A course that is to be stopped at its beginning has no rounds. -/
theorem Course.eq_begin (h : Course w p t start m₀ turns g m) (hm₀ : m₀.stopped = true) :
    turns = [] ∧ g = Progress.start ∧ m = m₀ := by
  cases h with
  | begin => exact ⟨rfl, rfl, rfl⟩
  | turn hc _ hm =>
    obtain ⟨acts, front, ⟨events, -, hheeds, -⟩, -⟩ := hc.did
    rw [hm] at hheeds
    cases hm₀.symm.trans hheeds.unstopped

/-! ## Searches that end -/

/-- The limits only exhaust a search that was not to be stopped. -/
theorem rounds_exhausted {fuel : Nat} {history : List Record} {r : Rounds σ}
    (h : rounds w p t start fuel g history m = some r) (hstatus : r.status = .exhausted) :
    r.machine.stopped = false := by
  induction fuel generalizing g history m with
  | zero => cases h
  | succ fuel ih =>
    unfold rounds at h
    split at h
    · cases h
      cases hstatus
    rename_i hstopped
    have hm : m.stopped = false := by simpa using hstopped
    split at h
    · cases h
      exact hm
    split at h
    · rename_i m₁ htime
      cases h
      exact (timeIsUp_keeps htime).2.trans hm
    split at h
    · cases h
    dsimp only at h
    split at h
    · rename_i status hdecides
      cases h
      obtain rfl : status = .exhausted := hstatus
      rcases Outcome.decides_eq_some_iff.mp hdecides with ⟨h, -⟩ | ⟨h, -⟩ <;> cases h
    · exact ih h

/-- A search with a result has had a course of rounds. -/
theorem run_ok {r : Result} (h : run w p m = some (.ok r, m')) : ∃ t m₀ turns g last m₁,
    loadTemplate w p.layout (w.now m).2 = (.ok t, m₀) ∧
      Course w p t (w.now m).1 m₀ turns g last ∧
        Ends w p (w.now m).1 turns g last r.status m₁ ∧ m' = (w.now m₁).2 ∧
          (r.status = .exhausted → m₁.stopped = false) ∧ r.best = g.best ∧
            r.iterations = g.iteration ∧
              r.history = lastRecords p.limits.historyLimit turns := by
  unfold run at h
  dsimp only at h
  split at h
  · cases h
  rename_i t m₀ hload
  split at h
  · cases h
  rename_i rs hrounds
  have hexhausted := rounds_exhausted hrounds
  have hnil : lastRecords p.limits.historyLimit [] = [] := List.drop_nil
  rw [← hnil] at hrounds
  have hundecided : Undecided [] := fun x hx => by cases hx
  obtain ⟨turns, last, hcourse, hends, hhistory⟩ :=
    rounds_course Course.begin hundecided hrounds
  cases h
  exact ⟨t, m₀, turns, rs.progress, last, rs.machine, hload, hcourse, hends, rfl, hexhausted, rfl,
    rfl, hhistory⟩

/-! ## Searches that do not end -/

/-- Why the rounds of a search do not end, and the state in which they get no further. -/
inductive Unending (w : World σ) (p : Plan) (t : EngineModule.Template) (start : Duration)
    (turns : List Turn) (g : Progress) (last : Machine σ) : Machine σ → Prop where
  | waits {m n : Machine σ} (unstopped : last.stopped = false)
      (left : p.limits.roundsSpent g.iteration = false)
      (inTime : timeIsUp w p start last = (false, m))
      (waits : Waits w p t { g with iteration := g.iteration + 1 } (w.now m).2 n) :
      Unending w p t start turns g last n
  | uncounted (length : turns.length = countableRounds + 1) :
      Unending w p t start turns g last last

theorem rounds_unending {fuel : Nat} {history : List Record}
    (hc : Course w p t start m₀ turns g m) (hu : Undecided turns)
    (hlength : turns.length + fuel = countableRounds + 1)
    (h : rounds w p t start fuel g history m = none) :
    ∃ turns' g' last n, Course w p t start m₀ turns' g' last ∧ Undecided turns' ∧
      Unending w p t start turns' g' last n := by
  induction fuel generalizing turns g history m with
  | zero => exact ⟨turns, g, m, m, hc, hu, .uncounted hlength⟩
  | succ fuel ih =>
    unfold rounds at h
    split at h
    · cases h
    rename_i hstopped
    split at h
    · cases h
    rename_i hspent
    split at h
    · cases h
    rename_i m₁ htime
    have hm : m.stopped = false := by simpa using hstopped
    have hleft : p.limits.roundsSpent g.iteration = false := by simpa using hspent
    split at h
    · rename_i hround
      obtain ⟨n, hn⟩ := recordedRound_waits hround
      exact ⟨turns, g, m, n, hc, hu, .waits hm hleft htime hn⟩
    rename_i record g' m' hround
    obtain ⟨-, -, calls, ⟨events, hlog, -⟩, -⟩ := recordedRound_spec hround
    have hc' := hc.turn hu hm hleft htime hround hlog
    dsimp only at h
    split at h
    · cases h
    · rename_i hdecides
      refine ih hc' (undecided_concat hdecides) ?_ h
      rw [List.length_append, List.length_singleton]
      omega

/-- A search that does not end has read its template, and its rounds do not end. -/
theorem run_unending (h : run w p m = none) : ∃ t m₀ turns g last n,
    loadTemplate w p.layout (w.now m).2 = (.ok t, m₀) ∧
      Course w p t (w.now m).1 m₀ turns g last ∧ Undecided turns ∧
        Unending w p t (w.now m).1 turns g last n := by
  unfold run at h
  dsimp only at h
  split at h
  · cases h
  rename_i t m₀ hload
  split at h
  · rename_i hrounds
    have hundecided : Undecided [] := fun x hx => by cases hx
    obtain ⟨turns, g, last, n, hc, hu, hn⟩ :=
      rounds_unending Course.begin hundecided (by simp) hrounds
    exact ⟨t, m₀, turns, g, last, n, hload, hc, hu, hn⟩
  · cases h

/-- What the rounds did up to the state in which they get no further: no stop was requested there,
unless it is the counter that is at its end. -/
theorem Unending.tells (hc : Course w p t start m₀ turns g m) (hu : Undecided turns)
    (h : Unending w p t start turns g m n) : turns.length = countableRounds + 1 ∨
      n.stopped = false ∧ ∃ events, n.log = m.log ++ events ∧
        Heeds m.stopped events n.stopped ∧
          Tells p t (turns.length + 1) (lastReport turns) none events := by
  cases h with
  | uncounted hlength => exact .inl hlength
  | @waits m₁ _ hm _ htime hwaits =>
    have hm₁ : (w.now m₁).2.stopped = false := (timeIsUp_keeps htime).2.trans hm
    obtain ⟨acts, hdid, hn, hdeeds⟩ := hwaits.deeds hm₁
    obtain ⟨events, hlog, hheeds, rfl⟩ :=
      ((did_timeIsUp htime).trans (did_now w m₁)).trans hdid
    refine .inr ⟨hn, events, hlog, hheeds, ⟨n.stopped, hm ▸ hheeds⟩, ?_⟩
    rw [hc.books.iteration] at hdeeds
    have hfeedback := hc.feedback_eq hu
    rw [← hfeedback]
    exact hdeeds

end PrimitiveSearch.Search
