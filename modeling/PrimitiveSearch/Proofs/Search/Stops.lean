import PrimitiveSearch.Search.Run

/-!
# Stop requests in the log

* `Heeds` — events of which none begins anything after a stop request.
* `Did` — what was done between two states, stop requests aside, when these were heeded.
* `did_write`, `did_attempt`, `did_writeModule` — what the calls do.
* `did_runFrom` — the stages begin in their order, and the result tells whether a stop was
  requested.
* `StagesWait` — the state in which the stages wait for ever; no stop is requested there.
-/

set_option autoImplicit false

namespace PrimitiveSearch.Search

variable {σ : Type} {w : World σ} {p : Plan} {m m' m'' n : Machine σ}

/-! ## Events -/

/-- Whether an event is a stop request. -/
def Event.isStop : Event → Bool
  | .stopRequested => true
  | _ => false

/-- Whether an event only ends what was begun before it. -/
def Event.isEnd : Event → Bool
  | .answered _ => true
  | .saved _ _ _ => true
  | _ => false

theorem Event.isStop_of_isEnd {e : Event} (h : e.isEnd = true) : e.isStop = false := by
  cases e <;> first | rfl | cases h

/-- Events between two moments, each with or without a stop request before it.  After a request
nothing is begun, and there is no second one. -/
inductive Heeds : Bool → List Event → Bool → Prop where
  | nil {stopped : Bool} : Heeds stopped [] stopped
  | act {last : Bool} {e : Event} {es : List Event} (h : e.isStop = false)
      (rest : Heeds false es last) : Heeds false (e :: es) last
  | stop {last : Bool} {es : List Event} (rest : Heeds true es last) :
      Heeds false (.stopRequested :: es) last
  | finish {last : Bool} {e : Event} {es : List Event} (h : e.isEnd = true)
      (rest : Heeds true es last) : Heeds true (e :: es) last

namespace Heeds

variable {a b c : Bool} {es fs : List Event}

theorem append (h : Heeds a es b) (h' : Heeds b fs c) : Heeds a (es ++ fs) c := by
  induction h with
  | nil => exact h'
  | act he _ ih => exact .act he (ih h')
  | stop _ ih => exact .stop (ih h')
  | finish he _ ih => exact .finish he (ih h')

/-- After a stop request everything only comes to its end. -/
theorem of_stopped (h : Heeds a es b) (ha : a = true) :
    b = true ∧ ∀ e ∈ es, e.isEnd = true := by
  induction h with
  | nil => exact ⟨ha, fun e he => absurd he List.not_mem_nil⟩
  | act _ _ => cases ha
  | stop _ => cases ha
  | finish he _ ih =>
    obtain ⟨hb, hes⟩ := ih rfl
    refine ⟨hb, fun e hmem => ?_⟩
    rcases List.mem_cons.mp hmem with rfl | hmem
    · exact he
    · exact hes e hmem

/-- The first stop request is the only one, and whatever follows only comes to its end. -/
theorem split (h : Heeds a es b) {before after : List Event}
    (hes : es = before ++ .stopRequested :: after) :
    a = false ∧ b = true ∧ (∀ e ∈ before, e.isStop = false) ∧ ∀ e ∈ after, e.isEnd = true := by
  induction h generalizing before with
  | nil => simp at hes
  | @act _ e es he _ ih =>
    cases before with
    | nil =>
      obtain ⟨rfl, -⟩ := List.cons.inj hes
      cases he
    | cons d before =>
      obtain ⟨rfl, htail⟩ := List.cons.inj hes
      obtain ⟨-, hb, hbefore, hafter⟩ := ih htail
      refine ⟨rfl, hb, fun f hf => ?_, hafter⟩
      rcases List.mem_cons.mp hf with rfl | hf
      · exact he
      · exact hbefore f hf
  | @stop _ es hrest _ =>
    obtain ⟨hb, hends⟩ := hrest.of_stopped rfl
    cases before with
    | nil =>
      obtain ⟨-, rfl⟩ := List.cons.inj hes
      exact ⟨rfl, hb, fun f hf => absurd hf List.not_mem_nil, hends⟩
    | cons d before =>
      obtain ⟨-, rfl⟩ := List.cons.inj hes
      have := hends .stopRequested (by simp)
      cases this
  | @finish _ e es he hrest _ =>
    have hstop : Event.stopRequested ∈ e :: es := by rw [hes]; simp
    have := ((Heeds.finish he hrest).of_stopped rfl).2 _ hstop
    cases this

theorem unstopped (h : Heeds a es false) : a = false := by
  cases ha : a with
  | false => rfl
  | true => cases (h.of_stopped ha).1

/-- A stop that was not requested before is in the log. -/
theorem mem_of_stopped (h : Heeds a es b) (ha : a = false) (hb : b = true) :
    .stopRequested ∈ es := by
  induction h with
  | nil => rw [ha] at hb; cases hb
  | act _ _ ih => exact List.mem_cons_of_mem _ (ih rfl hb)
  | stop _ => exact List.mem_cons_self
  | finish _ _ => cases ha

theorem not_mem_of_unstopped (h : Heeds a es false) : .stopRequested ∉ es := by
  intro hmem
  obtain ⟨before, after, hes⟩ := List.append_of_mem hmem
  cases (h.split hes).2.1

end Heeds

/-! ## What is done between two states -/

/-- From one state to another exactly the given things were done, in this order, stop requests
aside; and these were heeded. -/
def Did (m : Machine σ) (acts : List Event) (m' : Machine σ) : Prop :=
  ∃ events, m'.log = m.log ++ events ∧ Heeds m.stopped events m'.stopped ∧
    events.filter (fun e => !e.isStop) = acts

variable {acts acts' : List Event}

theorem Did.of_eq (hlog : m'.log = m.log) (hstopped : m'.stopped = m.stopped) : Did m [] m' :=
  ⟨[], by rw [hlog, List.append_nil], hstopped ▸ .nil, rfl⟩

theorem Did.refl (m : Machine σ) : Did m [] m := .of_eq rfl rfl

theorem Did.trans (h : Did m acts m') (h' : Did m' acts' m'') : Did m (acts ++ acts') m'' := by
  obtain ⟨es, hlog, hheeds, rfl⟩ := h
  obtain ⟨es', hlog', hheeds', rfl⟩ := h'
  exact ⟨es ++ es', by rw [hlog', hlog, List.append_assoc], hheeds.append hheeds',
    List.filter_append ..⟩

/-- Where nothing is done there is at most a stop request. -/
theorem eq_stop_of_filter_eq_nil {events : List Event}
    (h : events.filter (fun e => !e.isStop) = []) : ∀ e ∈ events, e = .stopRequested := by
  intro e he
  have hstop := List.filter_eq_nil_iff.mp h e he
  cases e <;> first | rfl | exact absurd rfl hstop

/-- Once a stop is requested, doing nothing leaves the log as it is. -/
theorem Did.log_eq (h : Did m [] m') (hm : m.stopped = true) :
    m'.log = m.log ∧ m'.stopped = true := by
  obtain ⟨events, hlog, hheeds, hfilter⟩ := h
  obtain ⟨hstopped, hends⟩ := hheeds.of_stopped hm
  have hnil : events = [] := by
    rw [List.eq_nil_iff_forall_not_mem]
    intro e he
    have hstop := hends e he
    rw [eq_stop_of_filter_eq_nil hfilter e he] at hstop
    cases hstop
  exact ⟨by rw [hlog, hnil, List.append_nil], hstopped⟩

/-- Anything may begin as long as no stop is requested. -/
theorem did_act {e : Event} (he : e.isStop = false) (hm : m.stopped = false) :
    Did m [e] (m.note e) := by
  refine ⟨[e], m.log_note e, ?_, by simp [he]⟩
  rw [m.stopped_note, hm]
  exact .act he .nil

theorem did_end {e : Event} (he : e.isEnd = true) (m : Machine σ) : Did m [e] (m.note e) := by
  have hstop := Event.isStop_of_isEnd he
  cases hm : m.stopped with
  | false => exact did_act hstop hm
  | true =>
    refine ⟨[e], m.log_note e, ?_, by simp [hstop]⟩
    rw [m.stopped_note, hm]
    exact .finish he .nil

/-! ## Calls -/

theorem did_now (w : World σ) (m : Machine σ) : Did m [] (w.now m).2 := .of_eq rfl rfl

theorem did_after (m : Machine σ) (stops : Bool) (s : σ) : Did m [] (m.after stops s) := by
  obtain ⟨world, stopped, log⟩ := m
  cases stopped <;> cases stops
  · exact .of_eq rfl rfl
  · exact ⟨[.stopRequested], rfl, .stop .nil, rfl⟩
  · exact .of_eq rfl rfl
  · exact .of_eq rfl rfl

theorem did_observe {α : Type} (m : Machine σ) (call : σ → Reply α × σ) :
    Did m [] (m.observe call).2 := did_after m _ _

theorem did_attempt {α : Type} {limit : Option Duration} {call : σ → Reply (Ending α) × σ}
    {ending : Ending α} (h : m.attempt limit call = some (ending, m')) : Did m [] m' := by
  obtain ⟨e, -, h⟩ := Option.map_eq_some_iff.mp h
  cases h
  exact did_after m _ _

/-- The state that a call leaves when it is done, or in which it goes on for ever. -/
def Machine.during {α : Type} (m : Machine σ) (call : σ → Reply α × σ) : Machine σ :=
  m.after (call m.world).1.stops (call m.world).2

theorem did_during {α : Type} (m : Machine σ) (call : σ → Reply α × σ) :
    Did m [] (m.during call) := did_after m _ _

/-- A stop request ends every call, so one that never returns saw none. -/
theorem stopped_during {α : Type} {limit : Option Duration} {call : σ → Reply (Ending α) × σ}
    (h : m.attempt limit call = none) : (m.during call).stopped = false := by
  have hsettle : (call m.world).1.value.settle limit (m.during call).stopped = none :=
    Option.map_eq_none_iff.mp h
  cases hstopped : (m.during call).stopped with
  | false => rfl
  | true =>
    rw [hstopped] at hsettle
    cases hvalue : (call m.world).1.value <;> rw [hvalue] at hsettle
    · cases hsettle
    · cases limit <;> cases hsettle
    · cases hsettle

theorem did_write (w : World σ) (directory file : Path) (text : Text) (m : Machine σ) :
    Did m [.saved file text (w.write directory file text m).1.toOption.isSome]
      (w.write directory file text m).2 :=
  (did_observe m (w.save directory file text)).trans (did_end rfl _)

theorem did_loadFile (w : World σ) (file : Path) (m : Machine σ) :
    Did m [] (loadFile w file m).2 := did_observe m (w.load file)

theorem did_loadTemplate {l : EngineModule.Layout}
    {result : Except Unreadable EngineModule.Template}
    (h : loadTemplate w l m = (result, m')) : Did m [] m' := by
  have hprologue := did_loadFile w l.prologue m
  unfold loadTemplate at h
  split at h
  · rename_i fault m₁ hload
    rw [hload] at hprologue
    cases h
    exact hprologue
  · rename_i prologue m₁ hload
    rw [hload] at hprologue
    have hepilogue := did_loadFile w l.epilogue m₁
    split at h <;> rename_i m₂ hload' <;> rw [hload'] at hepilogue <;> cases h
    · exact hprologue.trans hepilogue
    · exact hprologue.trans hepilogue

/-- The writing of a module: both files, or those up to the first that fails. -/
inductive ModuleSaves (l : EngineModule.Layout) (e : EngineModule) :
    Except Text Unit → List Event → Prop where
  | header {reason : Text} :
      ModuleSaves l e (.error reason) [.saved l.header e.header false]
  | engineSource {reason : Text} : ModuleSaves l e (.error reason)
      [.saved l.header e.header true, .saved l.engineSource e.engineSource false]
  | both : ModuleSaves l e (.ok ())
      [.saved l.header e.header true, .saved l.engineSource e.engineSource true]

theorem did_writeModule {l : EngineModule.Layout} {e : EngineModule} {result : Except Text Unit}
    (h : writeModule w l e m = (result, m')) :
    ∃ acts, Did m acts m' ∧ ModuleSaves l e result acts := by
  have hheader := did_write w ((Path.parent? l.header).getD []) l.header e.header m
  unfold writeModule writeFile at h
  split at h
  · rename_i reason m₁ hw
    rw [hw] at hheader
    cases h
    exact ⟨_, hheader, .header⟩
  · rename_i m₁ hw
    rw [hw] at hheader
    have hsource := did_write w ((Path.parent? l.engineSource).getD []) l.engineSource
      e.engineSource m₁
    rw [h] at hsource
    have hboth := hheader.trans hsource
    cases result with
    | error reason => exact ⟨_, hboth, .engineSource⟩
    | ok value => exact ⟨_, hboth, .both⟩

/-! ## Stages -/

section Stages

variable {l : Pipeline.Limits} {task : TaskName} {depth : Nat} {s : Stage} {stages : List Stage}

@[simp] theorem isStop_eventOf (task : TaskName) (depth : Nat) (s : Stage) :
    (Pipeline.eventOf task depth s).isStop = false := by cases s <;> rfl

/-- A stage that has begun. -/
abbrev begun (w : World σ) (task : TaskName) (depth : Nat) (s : Stage) (m : Machine σ) :
    Machine σ := (w.now (m.note (Pipeline.eventOf task depth s))).2

theorem did_begun (hm : m.stopped = false) :
    Did m [Pipeline.eventOf task depth s] (begun w task depth s m) :=
  (did_act (isStop_eventOf task depth s) hm).trans (did_now w _)

theorem did_runStage {result : StageResult} (hm : m.stopped = false)
    (h : Pipeline.runStage w l task depth s m = some (result, m')) :
    Did m [Pipeline.eventOf task depth s] m' := by
  have hbegin : Did m [Pipeline.eventOf task depth s] (begun w task depth s m) := did_begun hm
  unfold Pipeline.runStage at h
  dsimp only at h
  split at h
  · cases h
  all_goals
    rename_i hcall
    cases h
  · exact hbegin.trans (did_attempt hcall)
  · exact (hbegin.trans (did_attempt hcall)).trans (did_now w _)
  · exact (hbegin.trans (did_attempt hcall)).trans (did_now w _)

/-- The stages that begin are the first of those that are left.  A result is cut short exactly if
a stop was requested before the last of them was over. -/
theorem did_runFrom {results : List StageResult} {r : PipelineResult}
    (hm : stages = [] → m.stopped = false)
    (h : Pipeline.runFrom w l task depth stages results m = some (r, m')) :
    (∃ ran, ran <+: stages ∧ Did m (ran.map (Pipeline.eventOf task depth)) m') ∧
      r.cancelled = m'.stopped := by
  induction stages generalizing results m with
  | nil =>
    cases h
    exact ⟨⟨[], List.prefix_refl _, Did.refl _⟩, (hm rfl).symm⟩
  | cons s rest ih =>
    unfold Pipeline.runFrom at h
    split at h
    · rename_i hstopped
      cases h
      exact ⟨⟨[], List.nil_prefix, Did.refl _⟩, hstopped.symm⟩
    rename_i hstopped
    split at h
    · cases h
    rename_i result m₁ hstage
    have hdid := did_runStage (by simpa using hstopped) hstage
    have hone : [s] <+: s :: rest := ⟨rest, rfl⟩
    split at h
    · rename_i hstopped₁
      cases h
      exact ⟨⟨[s], hone, hdid⟩, hstopped₁.symm⟩
    rename_i hstopped₁
    split at h
    · cases h
      exact ⟨⟨[s], hone, hdid⟩, by simpa using hstopped₁⟩
    · obtain ⟨⟨ran, hran, hrest⟩, hcancelled⟩ := ih (fun _ => by simpa using hstopped₁) h
      exact ⟨⟨s :: ran, List.cons_prefix_cons.mpr ⟨rfl, hran⟩, hdid.trans hrest⟩, hcancelled⟩

/-- The stages that are left wait in the second state for a call that never returns. -/
inductive StagesWait (w : World σ) (l : Pipeline.Limits) (task : TaskName) (depth : Nat) :
    List Stage → Machine σ → Machine σ → Prop where
  | here {s : Stage} {rest : List Stage} {m : Machine σ} (unstopped : m.stopped = false)
      (waits : (begun w task depth s m).attempt (l.of s) (Pipeline.callOf w task depth s) = none) :
      StagesWait w l task depth (s :: rest) m
        ((begun w task depth s m).during (Pipeline.callOf w task depth s))
  | later {s : Stage} {rest : List Stage} {m m₁ n : Machine σ} {result : StageResult}
      (unstopped : m.stopped = false)
      (ended : Pipeline.runStage w l task depth s m = some (result, m₁))
      (unstopped' : m₁.stopped = false) (goesOn : (!result.passed && l.failFast) = false)
      (more : StagesWait w l task depth rest m₁ n) : StagesWait w l task depth (s :: rest) m n

theorem runFrom_stagesWait {results : List StageResult}
    (h : Pipeline.runFrom w l task depth stages results m = none) :
    ∃ n, StagesWait w l task depth stages m n := by
  induction stages generalizing results m with
  | nil => cases h
  | cons s rest ih =>
    unfold Pipeline.runFrom at h
    split at h
    · cases h
    rename_i hstopped
    have hm : m.stopped = false := by simpa using hstopped
    split at h
    · rename_i hstage
      unfold Pipeline.runStage at hstage
      dsimp only at hstage
      split at hstage
      · rename_i hcall
        exact ⟨_, .here hm hcall⟩
      all_goals cases hstage
    · rename_i result m₁ hstage
      split at h
      · cases h
      rename_i hstopped₁
      split at h
      · cases h
      rename_i hgoesOn
      obtain ⟨n, hn⟩ := ih h
      exact ⟨n, .later hm hstage (by simpa using hstopped₁) (by simpa using hgoesOn) hn⟩

theorem StagesWait.runFrom_eq_none (h : StagesWait w l task depth stages m n)
    (results : List StageResult) :
    Pipeline.runFrom w l task depth stages results m = none := by
  induction h generalizing results with
  | @here s rest m hm hwaits =>
    have hstage : Pipeline.runStage w l task depth s m = none := by
      simp only [Pipeline.runStage, hwaits]
    simp [Pipeline.runFrom, hm, hstage]
  | @later s rest m m₁ n result hm hstage hm₁ hgoesOn _ ih =>
    simp [Pipeline.runFrom, hm, hstage, hm₁, hgoesOn, ih]

theorem StagesWait.did (h : StagesWait w l task depth stages m n) :
    (∃ ran, ran <+: stages ∧ Did m (ran.map (Pipeline.eventOf task depth)) n) ∧
      n.stopped = false := by
  induction h with
  | @here s rest m hm hcall =>
    refine ⟨⟨[s], ⟨rest, rfl⟩, ?_⟩, stopped_during hcall⟩
    exact (did_begun hm).trans (did_during _ _)
  | @later s rest m m₁ n result hm hstage _ _ _ ih =>
    obtain ⟨⟨ran, hran, hdid⟩, hn⟩ := ih
    refine ⟨⟨s :: ran, List.cons_prefix_cons.mpr ⟨rfl, hran⟩, ?_⟩, hn⟩
    exact (did_runStage hm hstage).trans hdid

end Stages

end PrimitiveSearch.Search
