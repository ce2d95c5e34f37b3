import PrimitiveSearch.Proofs.Answer.LastAnswer
import PrimitiveSearch.Proofs.Catalogue.Lookup
import PrimitiveSearch.Proofs.Declaration.Key

/-!
# The selection of an answer

* `mem_select_iff` — a signature is selected by a line that it is found by.
* `select_keys` — what lines select is selected again by its written forms.
* `InSelection` — the lines of the section of a text that select; `mem_selected_iff`.
-/

set_option autoImplicit false

namespace PrimitiveSearch.Answer

open Text

variable {c : Catalogue} {ls before after : List Text} {line t : Text} {s : Signature} {a : Answer}

/-! ## Lines that select -/

theorem mem_addNew {sofar : List Signature} {x : Signature} :
    s ∈ addNew sofar x ↔ s ∈ sofar ∨ s = x := by
  unfold addNew
  split
  · rename_i hx
    constructor
    · exact Or.inl
    · rintro (h | rfl)
      · exact h
      · exact hx
  · simp

theorem mem_foldl_addNew {xs sofar : List Signature} :
    s ∈ xs.foldl addNew sofar ↔ s ∈ sofar ∨ s ∈ xs := by
  induction xs generalizing sofar with
  | nil => simp
  | cons x xs ih => rw [List.foldl_cons, ih, mem_addNew, List.mem_cons, or_assoc]

theorem nodup_foldl_addNew {xs sofar : List Signature} (h : sofar.Nodup) :
    (xs.foldl addNew sofar).Nodup := by
  induction xs generalizing sofar with
  | nil => exact h
  | cons x xs ih =>
    apply ih
    unfold addNew
    split
    · exact h
    · rename_i hx
      refine List.nodup_append.mpr ⟨h, by simp, fun y hy z hz => ?_⟩
      rw [List.mem_singleton.mp hz]
      rintro rfl
      exact hx hy

theorem foldl_addNew_of_nodup {xs sofar : List Signature} (h : (sofar ++ xs).Nodup) :
    xs.foldl addNew sofar = sofar ++ xs := by
  induction xs generalizing sofar with
  | nil => exact (List.append_nil sofar).symm
  | cons x xs ih =>
    have hx : x ∉ sofar := fun hx =>
      (List.nodup_append.mp h).2.2 x hx x List.mem_cons_self rfl
    have hadd : addNew sofar x = sofar ++ [x] := by rw [addNew, if_neg hx]
    rw [List.foldl_cons, hadd, ih (by simpa using h)]
    simp

theorem mem_select_iff :
    s ∈ select c ls ↔ ∃ line ∈ ls, line ≠ [] ∧ c.find? line = some s := by
  unfold select
  rw [mem_foldl_addNew, List.mem_filterMap]
  constructor
  · rintro (h | ⟨line, hline, h⟩)
    · cases h
    · by_cases hne : line = []
      · subst hne
        cases h
      · exact ⟨line, hline, hne, by simpa [hne] using h⟩
  · rintro ⟨line, hline, hne, h⟩
    exact .inr ⟨line, hline, by simpa [hne] using h⟩

theorem key_of_find? {key : Text} (h : c.find? key = some s) : s.key = key := by
  obtain ⟨e, -, rfl, rfl⟩ := Catalogue.find?_eq_some_iff.mp h
  rfl

/-- What is selected is named by a line, and found by its written form. -/
theorem mem_select (h : s ∈ select c ls) : s.key ∈ ls ∧ c.find? s.key = some s := by
  obtain ⟨line, hline, -, hfind⟩ := mem_select_iff.mp h
  rw [key_of_find? hfind]
  exact ⟨hline, hfind⟩

/-- An entry is selected by its written form, and by nothing else. -/
theorem mem_select_entry_iff {e : Entry} (he : e ∈ c.entries) :
    e.signature ∈ select c ls ↔ e.key ∈ ls :=
  ⟨fun h => (mem_select h).1, fun h => mem_select_iff.mpr
    ⟨e.key, h, e.signature.key_ne_nil, Catalogue.find?_key he⟩⟩

/-- Different signatures that are found by their written forms are selected by these. -/
theorem select_map_key {ss : List Signature} (hnodup : ss.Nodup)
    (hss : ∀ s ∈ ss, c.find? s.key = some s) :
    select c (ss.map Signature.key) = ss := by
  have hfound : (ss.map Signature.key).filterMap
      (fun line => if line.isEmpty then none else c.find? line) = ss := by
    clear hnodup
    induction ss with
    | nil => rfl
    | cons s ss ih =>
      have hfind := hss s List.mem_cons_self
      rw [List.map_cons, List.filterMap_cons, if_neg (by simpa using s.key_ne_nil), hfind]
      rw [ih fun s' hs' => hss s' (List.mem_cons_of_mem s hs')]
  rw [select, hfound]
  exact foldl_addNew_of_nodup hnodup

theorem select_keys (c : Catalogue) (ls : List Text) :
    select c ((select c ls).map Signature.key) = select c ls :=
  select_map_key (nodup_foldl_addNew List.nodup_nil) fun _ hs => (mem_select hs).2

/-! ## The section that selects -/

/-- A line of the section of a text that selects: between the last line that opens it and the last
that opens the proposals. -/
def InSelection (t line : Text) : Prop :=
  ∃ before chosen after, trimLines t =
      before ++ Part.selection.marker :: (chosen ++ Part.proposals.marker :: after) ∧
    Part.selection.marker ∉ chosen ++ after ∧ Part.proposals.marker ∉ after ∧ line ∈ chosen

theorem mem_selectionLines_iff : line ∈ selectionLines before after ↔
    ∃ front chosen, before = front ++ Part.selection.marker :: chosen ∧
      Part.selection.marker ∉ chosen ++ after ∧ line ∈ chosen := by
  unfold selectionLines
  constructor
  · intro h
    split at h
    · cases h
    rename_i hafter
    split at h
    · rename_i front chosen hfound
      obtain ⟨rfl, hlast⟩ := afterLast?_eq_some_iff.mp hfound
      exact ⟨front, chosen, rfl, by simp [hlast, hafter], h⟩
    · cases h
  · rintro ⟨front, chosen, rfl, hlast, hline⟩
    rw [List.mem_append, not_or] at hlast
    rw [if_neg hlast.2, afterLast?_append hlast.1]
    exact hline

/-- An answer selects an entry exactly if its written form stands in the section that selects. -/
theorem mem_selected_iff {e : Entry} (h : parse c t = .ok a) (he : e ∈ c.entries) :
    e.signature ∈ a.selected ↔ InSelection t e.key := by
  obtain ⟨-, before, after, -, hfound, -, hselected, -⟩ := ofLines_eq_ok_iff.mp h
  obtain ⟨hlines, hlast⟩ := afterLast?_eq_some_iff.mp hfound
  rw [hselected, mem_select_entry_iff he, mem_selectionLines_iff]
  constructor
  · rintro ⟨front, chosen, rfl, hsection, hkey⟩
    refine ⟨front, chosen, after, ?_, hsection, hlast, hkey⟩
    rw [show trimLines t = _ from hlines]
    simp
  · rintro ⟨front, chosen, after', hlines', hsection, hlast', hkey⟩
    -- both cuts are at the last line that opens the proposals
    have hcut : before ++ Part.proposals.marker :: after =
        (front ++ Part.selection.marker :: chosen) ++ Part.proposals.marker :: after' := by
      rw [← hlines, show (lines t).map trim = _ from hlines']
      simp
    have hsame : afterLast? Part.proposals.marker
        ((front ++ Part.selection.marker :: chosen) ++ Part.proposals.marker :: after') =
          some (front ++ Part.selection.marker :: chosen, after') := afterLast?_append hlast'
    rw [← hcut, afterLast?_append hlast] at hsame
    obtain ⟨rfl, rfl⟩ := Prod.mk.inj (Option.some.inj hsame)
    exact ⟨front, chosen, rfl, hsection, hkey⟩

end PrimitiveSearch.Answer
