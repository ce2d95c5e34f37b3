import PrimitiveSearch.Proofs.Answer.Selection
import PrimitiveSearch.Proofs.Text.Mention

/-!
# What an answer selects

* `IsSelection` — the lines of the section that selects; `isSelection_iff` says that there is
  exactly one such section around the last line that opens the proposals.
* `IsSelectedBy` — the signatures that some lines select, said without the function that reads
  them; `isSelectedBy_iff`.
* `selected_exact` — an answer selects exactly these.
-/

set_option autoImplicit false

namespace PrimitiveSearch.Answer

open Text

variable {c : Catalogue} {ls chosen before after : List Text} {line t : Text} {s : Signature}
  {ss : List Signature} {a : Answer}

/-! ## The section -/

/-- The lines between the last one that opens the selection and the last one that opens the
proposals; none if the selection opens again behind the proposals. -/
inductive IsSelection : List Text → List Text → Prop where
  | opened {before chosen after : List Text} (last : Part.selection.marker ∉ chosen ++ after)
      (proposals : Part.proposals.marker ∉ after) :
      IsSelection (before ++ Part.selection.marker :: (chosen ++ Part.proposals.marker :: after))
        chosen
  | reopened {before after : List Text} (again : Part.selection.marker ∈ after)
      (proposals : Part.proposals.marker ∉ after) :
      IsSelection (before ++ Part.proposals.marker :: after) []

theorem isSelection_of_found (h : afterLast? Part.proposals.marker ls = some (before, after))
    (hmem : Part.selection.marker ∈ ls) : IsSelection ls (selectionLines before after) := by
  obtain ⟨rfl, hproposals⟩ := afterLast?_eq_some_iff.mp h
  unfold selectionLines
  by_cases hafter : Part.selection.marker ∈ after
  · rw [if_pos hafter]
    exact .reopened hafter hproposals
  rw [if_neg hafter]
  cases hfound : afterLast? Part.selection.marker before with
  | none =>
    have hbefore := afterLast?_eq_none_iff.mp hfound
    rcases List.mem_append.mp hmem with hmem | hmem
    · exact absurd hmem hbefore
    · rcases List.mem_cons.mp hmem with hmem | hmem
      · exact absurd hmem (by decide)
      · exact absurd hmem hafter
  | some found =>
    obtain ⟨rfl, hlast⟩ := afterLast?_eq_some_iff.mp hfound
    have hsection : Part.selection.marker ∉ found.2 ++ after := by
      rw [List.mem_append, not_or]
      exact ⟨hlast, hafter⟩
    rw [List.append_assoc]
    exact .opened hsection hproposals

/-- No other lines are such a section. -/
theorem IsSelection.eq (h : IsSelection ls chosen)
    (hfound : afterLast? Part.proposals.marker ls = some (before, after)) :
    chosen = selectionLines before after := by
  cases h with
  | @opened front chosen rest hlast hproposals =>
    rw [List.mem_append, not_or] at hlast
    rw [← List.cons_append, ← List.append_assoc, afterLast?_append hproposals] at hfound
    obtain ⟨rfl, rfl⟩ := Prod.mk.inj (Option.some.inj hfound)
    rw [selectionLines, if_neg hlast.2, afterLast?_append hlast.1]
  | reopened hagain hproposals =>
    rw [afterLast?_append hproposals] at hfound
    obtain ⟨rfl, rfl⟩ := Prod.mk.inj (Option.some.inj hfound)
    rw [selectionLines, if_pos hagain]

theorem isSelection_iff (hmem : Part.selection.marker ∈ ls)
    (hfound : afterLast? Part.proposals.marker ls = some (before, after)) :
    IsSelection ls chosen ↔ chosen = selectionLines before after :=
  ⟨fun h => h.eq hfound, fun h => h ▸ isSelection_of_found hfound hmem⟩

/-! ## The signatures that lines select -/

/-- The signatures that are named by a line, in the order in which lines first name them. -/
structure IsSelectedBy (c : Catalogue) (ls : List Text) (ss : List Signature) : Prop where
  mem : ∀ s, s ∈ ss ↔ s ∈ c.signatures ∧ s.key ∈ ls
  order : InOrderOf Signature.key ls ss

theorem IsSelectedBy.unique {ss' : List Signature} (h : IsSelectedBy c ls ss)
    (h' : IsSelectedBy c ls ss') : ss = ss' :=
  h.order.eq h'.order fun s => (h.mem s).trans (h'.mem s).symm

@[simp] theorem find?_nil (c : Catalogue) : c.find? [] = none := by
  rw [Option.eq_none_iff_forall_ne_some]
  intro s h
  exact s.key_ne_nil (key_of_find? h)

/-- An empty line is the written form of nothing. -/
theorem select_eq (c : Catalogue) (ls : List Text) :
    select c ls = (ls.filterMap c.find?).foldl addNew [] := by
  have hline : ∀ line : Text,
      (if line.isEmpty then none else c.find? line) = c.find? line := by
    intro line
    cases line with
    | nil => exact (find?_nil c).symm
    | cons d rest => rfl
  rw [select]
  simp only [hline]

theorem select_concat_none (h : c.find? line = none) : select c (ls ++ [line]) = select c ls := by
  rw [select_eq, select_eq, List.filterMap_append, List.filterMap_cons_none h, List.filterMap_nil,
    List.append_nil]

theorem select_concat_some (h : c.find? line = some s) :
    select c (ls ++ [line]) = addNew (select c ls) s := by
  rw [select_eq, select_eq, List.filterMap_append, List.filterMap_cons_some h, List.filterMap_nil,
    List.foldl_append]
  rfl

theorem find?_eq_some_iff_mem :
    c.find? line = some s ↔ s ∈ c.signatures ∧ s.key = line := by
  rw [Catalogue.find?_eq_some_iff, Catalogue.signatures, List.mem_map]
  constructor
  · rintro ⟨e, he, rfl, rfl⟩
    exact ⟨⟨e, he, rfl⟩, rfl⟩
  · rintro ⟨⟨e, he, rfl⟩, rfl⟩
    exact ⟨e, he, rfl, rfl⟩

theorem mem_select_iff_key : s ∈ select c ls ↔ s ∈ c.signatures ∧ s.key ∈ ls := by
  rw [mem_select_iff]
  constructor
  · rintro ⟨line, hline, -, hfind⟩
    obtain ⟨hs, rfl⟩ := find?_eq_some_iff_mem.mp hfind
    exact ⟨hs, hline⟩
  · rintro ⟨hs, hline⟩
    exact ⟨s.key, hline, s.key_ne_nil, find?_eq_some_iff_mem.mpr ⟨hs, rfl⟩⟩

/-- What a line selects that was not selected before is named for the first time: no two signatures
of a catalogue have one written form. -/
theorem inOrderOf_select (c : Catalogue) (ls : List Text) :
    InOrderOf Signature.key ls (select c ls) := by
  induction ls using List.reverseRecOn with
  | nil => exact inOrderOf_nil _ _
  | append_singleton ls line ih =>
    have hkeys : ∀ s ∈ select c ls, s.key ∈ ls := fun s hs => (mem_select_iff_key.mp hs).2
    cases hfind : c.find? line with
    | none =>
      rw [select_concat_none hfind]
      exact ih.mention hkeys line
    | some s =>
      rw [select_concat_some hfind, addNew]
      obtain ⟨hs, rfl⟩ := find?_eq_some_iff_mem.mp hfind
      by_cases hmem : s ∈ select c ls
      · rw [if_pos hmem]
        exact ih.mention hkeys s.key
      · rw [if_neg hmem]
        exact ih.add hkeys fun hkey => hmem (mem_select_iff_key.mpr ⟨hs, hkey⟩)

theorem isSelectedBy_iff : select c ls = ss ↔ IsSelectedBy c ls ss := by
  have hselect : IsSelectedBy c ls (select c ls) :=
    ⟨fun _ => mem_select_iff_key, inOrderOf_select c ls⟩
  exact ⟨fun h => h ▸ hselect, fun h => hselect.unique h⟩

/-- Lines that are no written form may be left out. -/
theorem select_filter (c : Catalogue) (ls : List Text) :
    select c (ls.filter (· ∈ c.signatures.map Signature.key)) = select c ls := by
  rw [select_eq, select_eq, List.filterMap_filter]
  congr 1
  refine List.filterMap_congr fun line _ => ?_
  by_cases hkey : line ∈ c.signatures.map Signature.key
  · simp [hkey]
  · have hnone : c.find? line = none := by
      rw [Option.eq_none_iff_forall_ne_some]
      intro s hfind
      obtain ⟨hs, rfl⟩ := find?_eq_some_iff_mem.mp hfind
      exact hkey (List.mem_map_of_mem hs)
    simp [hkey, hnone]

/-! ## Answers -/

/-- **A selection is exact.**  An answer has one section that selects.  What it selects are the
signatures of the catalogue whose written form is a line of that section, each once, in the order
in which their lines first stand there; no two have one written form, and a line that is no written
form could as well be missing. -/
theorem selected_exact (h : parse c t = .ok a) : ∃ chosen,
    (∀ ls, IsSelection (trimLines t) ls ↔ ls = chosen) ∧
    (∀ ss, a.selected = ss ↔ IsSelectedBy c chosen ss) ∧
    (a.selected.map Signature.key).Nodup ∧ (∀ s ∈ a.selected, s ∈ c.signatures) ∧
    IsSelectedBy c (chosen.filter (· ∈ c.signatures.map Signature.key)) a.selected := by
  obtain ⟨hmem, before, after, -, hfound, -, hselected, -⟩ := ofLines_eq_ok_iff.mp h
  have hexact : IsSelectedBy c (selectionLines before after) a.selected :=
    isSelectedBy_iff.mp hselected.symm
  refine ⟨selectionLines before after, fun ls => isSelection_iff hmem hfound, fun ss => ?_,
    hexact.order.nodup, fun s hs => ((hexact.mem s).mp hs).1, ?_⟩
  · rw [hselected, isSelectedBy_iff]
  · rw [← isSelectedBy_iff, select_filter, hselected]

/-- Lines that repeat a selection, that have a blank too many, or that stand in an echo before the
section. -/
theorem selected_exact_repeated :
    let c := Catalogue.parse "///int foo(int a); // Foo\n///int bar(int a); // Bar"
    let t : Text := "SELECTED_PRIMITIVES:\nint foo(int a);\nSELECTED_PRIMITIVES:\n" ++
      "int bar(int a);\nint  foo(int a);\nint bar(int a);\n" ++
      "PARTIAL_PARAMETERIZATIONS:\nDEPTH_LEVEL: 1"
    let bar : Signature := ⟨"int", "bar", [⟨"int", some "a".toList⟩], "Bar"⟩
    parse c t = .ok ⟨[bar], [], 1⟩ ∧
      IsSelectedBy c ["int bar(int a);".toList, "int  foo(int a);".toList,
        "int bar(int a);".toList] [bar] := by
  intro c t bar
  have ha : parse c t = .ok ⟨[bar], [], 1⟩ := eq_ok_of_toOption (by decide +kernel)
  obtain ⟨chosen, hsection, hexact, -⟩ := selected_exact ha
  have hchosen : IsSelection (trimLines t) ["int bar(int a);".toList,
      "int  foo(int a);".toList, "int bar(int a);".toList] := by
    have hlines : trimLines t = ["SELECTED_PRIMITIVES:".toList, "int foo(int a);".toList] ++
        Part.selection.marker :: (["int bar(int a);".toList, "int  foo(int a);".toList,
          "int bar(int a);".toList] ++ Part.proposals.marker :: ["DEPTH_LEVEL: 1".toList]) := by
      decide +kernel
    rw [hlines]
    exact .opened (by decide +kernel) (by decide +kernel)
  rw [(hsection _).mp hchosen]
  exact ⟨ha, (hexact _).mp rfl⟩

end PrimitiveSearch.Answer
