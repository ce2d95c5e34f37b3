import PrimitiveSearch.Proofs.Search.Cancellation
import PrimitiveSearch.Session.Basic

/-!
# Tasks visited one after another

* `Session.Visits` — what comes of one task, by how far it gets; `visit_eq_some_iff`.
* `Session.Trail` — visits one after another, each begun in the state that the one before left.
* `Session.Ends` — why no further task is visited.
* `Session.Proceeds` — what a session does with the next task; `through_trail` and
  `through_unending` are what it does with all of them.
* `Session.SolvesAll` — every task is solved, one after another; `through_succeeded_iff`.
-/

set_option autoImplicit false

namespace PrimitiveSearch

open Search (Machine)

variable {σ : Type} {h : Host σ} {s : Session} {n : TaskName} {m m' : Machine σ} {v : Visit}

/-! ## One search -/

namespace Search

variable {w : World σ} {p : Plan}

/-- A search ends in a fault when a file of the engine cannot be read, and only then. -/
theorem run_eq_error_iff {fault : Fault} : run w p m = some (.error fault, m') ↔
    loadTemplate w p.layout (w.now m).2 = (.error fault.template, m') := by
  unfold run
  dsimp only
  split
  · rename_i unreadable m₁ hload
    cases fault
    simp [hload]
  · rename_i t m₁ hload
    rw [hload]
    split <;> simp

theorem task_of_run {r : Result} (h : run w p m = some (.ok r, m')) : r.task = p.name := by
  unfold run at h
  dsimp only at h
  split at h
  · cases h
  split at h
  · cases h
  · cases h
    rfl

/-- The best report of a search that is solved reproduces every demonstration. -/
theorem run_best_of_solved {r : Result} (h : run w p m = some (.ok r, m'))
    (hsolved : r.status = .solved) : ∃ report, r.best = some report ∧ report.isExact = true := by
  obtain ⟨t, m₀, turns, g, last, m₁, -, hcourse, hends, -, -, hbest, -⟩ := run_ok h
  rw [hsolved] at hends
  obtain ⟨report, hrecorded, hexact⟩ := hends.solved
  obtain ⟨acts, front, -, hacts, hlast⟩ := hcourse.did
  refine ⟨report, ?_, hexact⟩
  rw [hbest, hlast, hacts, hrecorded, lastRecorded_append]
  rfl

end Search

/-! ## One visit -/

namespace Visit

/-- The result of the search of a task, if there was one. -/
def result? : Visit → Option Search.Result
  | .searched result => some result
  | _ => none

theorem isFatal_of_isSolved (hv : v.isSolved = true) : v.isFatal = false := by
  cases v with
  | unobtained | fatal => cases hv
  | searched => rfl

end Visit

namespace Session

/-- What comes of a task that is visited, by how far it gets. -/
inductive Visits (h : Host σ) (s : Session) (n : TaskName) (m : Machine σ) :
    Visit → Machine σ → Prop where
  | unobtained {fault : Task.SourceFault} {m' : Machine σ} :
      obtain h s n m = (.error fault, m') → Visits h s n m (.unobtained fault.message) m'
  | uncatalogued {t : Task} {fault : Catalogue.Fault} {m₁ m' : Machine σ} :
      obtain h s n m = (.ok t, m₁) → loadCatalogue h s m₁ = (.error fault, m') →
      Visits h s n m (.fatal fault.message) m'
  | untemplated {t : Task} {c : Catalogue} {fault : Search.Fault} {m₁ m₂ m' : Machine σ} :
      obtain h s n m = (.ok t, m₁) → loadCatalogue h s m₁ = (.ok c, m₂) →
      Search.loadTemplate (s.equipment.world h) s.layout ((s.equipment.world h).now m₂).2 =
        (.error fault.template, m') →
      Visits h s n m (.fatal fault.message) m'
  | searched {t : Task} {c : Catalogue} {r : Search.Result} {m₁ m₂ m' : Machine σ} :
      obtain h s n m = (.ok t, m₁) → loadCatalogue h s m₁ = (.ok c, m₂) →
      Search.run (s.equipment.world h) (s.plan n t c) m₂ = some (.ok r, m') →
      Visits h s n m (.searched r) m'

theorem visit_eq_some_iff : visit h s n m = some (v, m') ↔ Visits h s n m v m' := by
  constructor
  · intro hv
    unfold visit at hv
    split at hv
    · rename_i hobtain
      cases hv
      exact .unobtained hobtain
    rename_i t m₁ hobtain
    unfold search at hv
    split at hv
    · rename_i hcatalogue
      cases hv
      exact .uncatalogued hobtain hcatalogue
    rename_i c m₂ hcatalogue
    obtain ⟨⟨result, m₃⟩, hrun, hv⟩ := Option.map_eq_some_iff.mp hv
    obtain ⟨rfl, rfl⟩ := Prod.mk.inj hv
    cases result with
    | error fault => exact .untemplated hobtain hcatalogue (Search.run_eq_error_iff.mp hrun)
    | ok r => exact .searched hobtain hcatalogue hrun
  · intro hv
    unfold visit
    cases hv with
    | unobtained hobtain => simp [hobtain]
    | uncatalogued hobtain hcatalogue => simp [hobtain, search, hcatalogue]
    | @untemplated t c fault m₁ m₂ m' hobtain hcatalogue htemplate =>
      have hrun : Search.run (s.equipment.world h) (s.plan n t c) m₂ = some (.error fault, m') :=
        Search.run_eq_error_iff.mpr htemplate
      simp [hobtain, search, hcatalogue, hrun, visitOf]
    | searched hobtain hcatalogue hrun => simp [hobtain, search, hcatalogue, hrun, visitOf]

/-- Only the search of a task can go on for ever. -/
theorem visit_unending (hv : visit h s n m = none) : ∃ t c m₁ m₂, obtain h s n m = (.ok t, m₁) ∧
    loadCatalogue h s m₁ = (.ok c, m₂) ∧
      Search.run (s.equipment.world h) (s.plan n t c) m₂ = none := by
  unfold visit at hv
  split at hv
  · cases hv
  rename_i t m₁ hobtain
  unfold search at hv
  split at hv
  · cases hv
  rename_i c m₂ hcatalogue
  exact ⟨t, c, m₁, m₂, hobtain, hcatalogue, Option.map_eq_none_iff.mp hv⟩

/-! ## Visits one after another -/

/-- Visits one after another, none of them begun after a stop request. -/
inductive Trail (h : Host σ) (s : Session) :
    List (TaskName × Visit) → Machine σ → Machine σ → Prop where
  | nil (m : Machine σ) : Trail h s [] m m
  | cons {n : TaskName} {v : Visit} {visits : List (TaskName × Visit)} {m m₁ m' : Machine σ} :
      m.stopped = false → Visits h s n m v m₁ → Trail h s visits m₁ m' →
      Trail h s ((n, v) :: visits) m m'

/-- No visit ended the session. -/
def Benign (visits : List (TaskName × Visit)) : Prop := ∀ x ∈ visits, x.2.isFatal = false

/-- Why no further task is visited, when some tasks are left and the last visit left the state
`m`. -/
inductive Ends (m : Machine σ) : List (TaskName × Visit) → (left : List TaskName) → Prop where
  | visited {visits : List (TaskName × Visit)} : Benign visits → Ends m visits []
  | stopped {visits : List (TaskName × Visit)} {left : List TaskName} :
      Benign visits → m.stopped = true → left ≠ [] → Ends m visits left
  | fatal {front : List (TaskName × Visit)} {n : TaskName} {reason : Text}
      {left : List TaskName} : Benign front → Ends m (front ++ [(n, .fatal reason)]) left

variable {visits : List (TaskName × Visit)} {left names : List TaskName} {t : Tour}

theorem benign_nil : Benign [] := List.forall_mem_nil _

theorem benign_cons (hv : v.isFatal = false) (hb : Benign visits) : Benign ((n, v) :: visits) :=
  List.forall_mem_cons.mpr ⟨hv, hb⟩

theorem Ends.cons (hv : v.isFatal = false) (he : Ends m visits left) :
    Ends m ((n, v) :: visits) left := by
  cases he with
  | visited hb => exact .visited (benign_cons hv hb)
  | stopped hb hm hleft => exact .stopped (benign_cons hv hb) hm hleft
  | @fatal front => exact .fatal (benign_cons hv ‹_›)

/-- What a session does when it comes to the task `n`, with the tasks `rest` behind it. -/
inductive Proceeds (h : Host σ) (s : Session) (n : TaskName) (rest : List TaskName) (m : Machine σ) :
    Option (Tour × Machine σ) → Prop where
  | stopped : m.stopped = true → Proceeds h s n rest m (some (⟨[], false⟩, m))
  | unending : m.stopped = false → visit h s n m = none → Proceeds h s n rest m none
  | fatal {reason : Text} {m₁ : Machine σ} : m.stopped = false →
      Visits h s n m (.fatal reason) m₁ →
      Proceeds h s n rest m (some (⟨[(n, .fatal reason)], false⟩, m₁))
  | goesOn {v : Visit} {m₁ : Machine σ} : m.stopped = false → Visits h s n m v m₁ →
      v.isFatal = false →
      Proceeds h s n rest m
        ((Tour.through Machine.stopped (visit h s) rest m₁).map fun (t, m) => (t.cons n v, m))

theorem through_proceeds (h : Host σ) (s : Session) (n : TaskName) (rest : List TaskName)
    (m : Machine σ) :
    Proceeds h s n rest m (Tour.through Machine.stopped (visit h s) (n :: rest) m) := by
  unfold Tour.through
  split
  · rename_i hstopped
    exact .stopped hstopped
  rename_i hstopped
  have hm : m.stopped = false := by simpa using hstopped
  split
  · rename_i hvisit
    exact .unending hm hvisit
  rename_i v m₁ hvisit
  have hvisit := visit_eq_some_iff.mp hvisit
  cases v with
  | fatal reason => exact .fatal hm hvisit
  | unobtained | searched => exact .goesOn hm hvisit rfl

/-- What a session does with a list of tasks: it visits them from the front, and leaves out those
at the end that a stop request or a fatal visit keeps it from. -/
theorem through_trail (ht : Tour.through Machine.stopped (visit h s) names m = some (t, m')) :
    ∃ left, names = t.visits.map Prod.fst ++ left ∧ Trail h s t.visits m m' ∧
      Ends m' t.visits left ∧ (t.complete = true ↔ left = [] ∧ Benign t.visits) := by
  induction names generalizing m t with
  | nil =>
    cases ht
    exact ⟨[], rfl, .nil _, .visited benign_nil, by simp [benign_nil]⟩
  | cons n rest ih =>
    have hstep := through_proceeds h s n rest m
    generalize Tour.through Machine.stopped (visit h s) (n :: rest) m = r at ht hstep
    cases hstep with
    | stopped hm =>
      cases ht
      exact ⟨n :: rest, rfl, .nil _, .stopped benign_nil hm (by simp), by simp⟩
    | unending => cases ht
    | fatal hm hvisit =>
      -- all tasks behind it are left, in the state that it left
      cases ht
      exact ⟨rest, rfl, .cons hm hvisit (.nil _), .fatal benign_nil,
        by simp [Benign, Visit.isFatal]⟩
    | goesOn hm hvisit hv =>
      -- the rest of the tour begins in the state that this visit left
      obtain ⟨⟨t', m₂⟩, ht', heq⟩ := Option.map_eq_some_iff.mp ht
      obtain ⟨rfl, rfl⟩ := Prod.mk.inj heq
      obtain ⟨left, hnames, htrail, hends, hcomplete⟩ := ih ht'
      refine ⟨left, congrArg (n :: ·) hnames, .cons hm hvisit htrail, hends.cons hv, ?_⟩
      simp only [Tour.cons, hcomplete, Benign, List.forall_mem_cons, hv, true_and]

/-- Where a session got to that never ends: to a task whose visit never ends. -/
theorem through_unending (ht : Tour.through Machine.stopped (visit h s) names m = none) :
    ∃ visits n left m', names = visits.map Prod.fst ++ n :: left ∧ Trail h s visits m m' ∧
      Benign visits ∧ m'.stopped = false ∧ visit h s n m' = none := by
  induction names generalizing m with
  | nil => cases ht
  | cons n rest ih =>
    have hstep := through_proceeds h s n rest m
    generalize Tour.through Machine.stopped (visit h s) (n :: rest) m = r at ht hstep
    cases hstep with
    | stopped | fatal => cases ht
    | unending hm hvisit => exact ⟨[], n, rest, m, rfl, .nil m, benign_nil, hm, hvisit⟩
    | goesOn hm hvisit hv =>
      obtain ⟨visits, n', left, m', rfl, htrail, hb, hm', hunending⟩ :=
        ih (Option.map_eq_none_iff.mp ht)
      exact ⟨_ :: visits, n', left, m', rfl, .cons hm hvisit htrail, benign_cons hv hb, hm',
        hunending⟩

/-- A trail on which nothing is fatal is what a session does with its tasks. -/
theorem Trail.through (ht : Trail h s visits m m') (hb : Benign visits) :
    Tour.through Machine.stopped (visit h s) (visits.map Prod.fst) m =
      some (⟨visits, true⟩, m') := by
  induction ht with
  | nil => rfl
  | @cons n v visits m m₁ m' hm hvisit _ ih =>
    obtain ⟨hv, hb⟩ := List.forall_mem_cons.mp hb
    dsimp only at hv
    simp [Tour.through, hm, visit_eq_some_iff.mpr hvisit, hv, ih hb, Tour.cons]

/-! ## Success -/

/-- A task is obtained, the catalogue and the files of the engine are read, and the search is
solved. -/
inductive Solves (h : Host σ) (s : Session) (n : TaskName) (m : Machine σ) : Machine σ → Prop where
  | intro {t : Task} {c : Catalogue} {template : EngineModule.Template} {r : Search.Result}
      {m₁ m₂ m₃ m' : Machine σ} (obtained : obtain h s n m = (.ok t, m₁))
      (catalogued : loadCatalogue h s m₁ = (.ok c, m₂))
      (templated : Search.loadTemplate (s.equipment.world h) s.layout
        ((s.equipment.world h).now m₂).2 = (.ok template, m₃))
      (searched : Search.run (s.equipment.world h) (s.plan n t c) m₂ = some (.ok r, m'))
      (solved : r.status = .solved) : Solves h s n m m'

/-- Every task of a list is solved, one after another, and none of them is begun after a stop
request. -/
inductive SolvesAll (h : Host σ) (s : Session) : List TaskName → Machine σ → Machine σ → Prop where
  | nil (m : Machine σ) : SolvesAll h s [] m m
  | cons {n : TaskName} {rest : List TaskName} {m m₁ m' : Machine σ} :
      m.stopped = false → Solves h s n m m₁ → SolvesAll h s rest m₁ m' →
      SolvesAll h s (n :: rest) m m'

/-- All visits of a list solved their tasks. -/
def AllSolved (visits : List (TaskName × Visit)) : Prop := ∀ x ∈ visits, x.2.isSolved = true

theorem AllSolved.benign (ha : AllSolved visits) : Benign visits := fun x hx =>
  Visit.isFatal_of_isSolved (ha x hx)

theorem solves_iff : Solves h s n m m' ↔ ∃ v, Visits h s n m v m' ∧ v.isSolved = true := by
  constructor
  · rintro ⟨hobtain, hcatalogue, -, hrun, hsolved⟩
    refine ⟨_, .searched hobtain hcatalogue hrun, ?_⟩
    simp [Visit.isSolved, Search.Result.isSolved, hsolved]
  · rintro ⟨v, hvisit, hv⟩
    cases hvisit with
    | unobtained | uncatalogued | untemplated => cases hv
    | searched hobtain hcatalogue hrun =>
      obtain ⟨t, m₀, -, -, -, -, htemplate, -⟩ := Search.run_ok hrun
      refine .intro hobtain hcatalogue htemplate hrun ?_
      simpa [Visit.isSolved, Search.Result.isSolved] using hv

theorem solvesAll_iff : SolvesAll h s names m m' ↔
    ∃ visits, visits.map Prod.fst = names ∧ Trail h s visits m m' ∧ AllSolved visits := by
  constructor
  · intro ha
    induction ha with
    | nil m => exact ⟨[], rfl, .nil m, List.forall_mem_nil _⟩
    | cons hm hsolves _ ih =>
      obtain ⟨v, hvisit, hv⟩ := solves_iff.mp hsolves
      obtain ⟨visits, rfl, htrail, hall⟩ := ih
      exact ⟨_ :: visits, rfl, .cons hm hvisit htrail, List.forall_mem_cons.mpr ⟨hv, hall⟩⟩
  · rintro ⟨visits, rfl, htrail, hall⟩
    induction htrail with
    | nil m => exact .nil m
    | cons hm hvisit _ ih =>
      obtain ⟨hv, hall⟩ := List.forall_mem_cons.mp hall
      exact .cons hm (solves_iff.mpr ⟨_, hvisit, hv⟩) (ih hall)

/-- A session succeeds when no task is left and every visit solved its task. -/
theorem succeeded_iff (hcomplete : t.complete = true ↔ left = [] ∧ Benign t.visits) :
    t.succeeded = true ↔ left = [] ∧ AllSolved t.visits := by
  rw [Tour.succeeded, Bool.and_eq_true, hcomplete, List.all_eq_true]
  constructor
  · rintro ⟨⟨hleft, -⟩, hall⟩
    exact ⟨hleft, hall⟩
  · rintro ⟨hleft, hall⟩
    exact ⟨⟨hleft, AllSolved.benign hall⟩, hall⟩

/-- A session comes to an end with success exactly when every task is solved, one after
another. -/
theorem through_succeeded_iff : (∃ t m', Tour.through Machine.stopped (visit h s) names m =
    some (t, m') ∧ t.succeeded = true) ↔ ∃ m', SolvesAll h s names m m' := by
  constructor
  · rintro ⟨t, m', ht, hsucceeded⟩
    obtain ⟨left, hnames, htrail, -, hcomplete⟩ := through_trail ht
    obtain ⟨rfl, hall⟩ := (succeeded_iff hcomplete).mp hsucceeded
    exact ⟨m', solvesAll_iff.mpr ⟨t.visits, by rw [hnames, List.append_nil], htrail, hall⟩⟩
  · rintro ⟨m', ha⟩
    obtain ⟨visits, rfl, htrail, hall⟩ := solvesAll_iff.mp ha
    have hcomplete : true = true ↔ ([] : List TaskName) = [] ∧ Benign visits := by
      simp [hall.benign]
    exact ⟨⟨visits, true⟩, m', htrail.through hall.benign,
      (succeeded_iff hcomplete).mpr ⟨rfl, hall⟩⟩

end Session

end PrimitiveSearch
