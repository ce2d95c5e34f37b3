import PrimitiveSearch.Proofs.Answer.Exactness
import PrimitiveSearch.Prompt.Text

/-!
# A prompt that is echoed

A prompt ends in an example of an answer.  Above it stand texts that nobody controls: annotations of
the catalogue, and the expression of the last result.

* `exists_text_eq_append` — the example and its heading stand on lines of their own, whatever the
  last result is.
* `select_of_nodup` — different lines select one after the other what they are the written forms of.
* `parse_text_eq` — hence a prompt is read as its example, for every task, catalogue and result.
-/

set_option autoImplicit false

namespace PrimitiveSearch

open Text

/-! ## Selecting by different lines -/

namespace Answer

variable {c : Catalogue} {ls : List Text}

/-- At most one signature has a given written form. -/
theorem filter_key_eq (c : Catalogue) (line : Text) :
    (c.signatures.filter fun s => s.key == line) = (c.find? line).toList := by
  cases hfind : c.find? line with
  | none =>
    refine List.filter_eq_nil_iff.mpr fun s hs hkey => ?_
    rw [find?_eq_some_iff_mem.mpr ⟨hs, beq_iff_eq.mp hkey⟩] at hfind
    cases hfind
  | some s =>
    have hs : s ∈ c.signatures := (find?_eq_some_iff_mem.mp hfind).1
    have hsame : ∀ x ∈ c.signatures, (x.key == line) = (x == s) := by
      intro x hx
      rw [Bool.eq_iff_iff, beq_iff_eq, beq_iff_eq]
      constructor
      · intro hkey
        rw [find?_eq_some_iff_mem.mpr ⟨hx, hkey⟩] at hfind
        exact Option.some.inj hfind
      · rintro rfl
        exact key_of_find? hfind
    have hnodup : c.signatures.Nodup := by
      have hdistinct := c.distinct
      rw [show c.entries.map Entry.key = c.signatures.map Signature.key by
        rw [Catalogue.signatures, List.map_map]; rfl] at hdistinct
      exact hdistinct.of_map Signature.key
    rw [List.filter_congr hsame, List.filter_beq, List.count_eq_one_of_mem hnodup hs]
    rfl

theorem select_of_nodup (h : ls.Nodup) :
    select c ls = ls.flatMap fun line => c.signatures.filter fun s => s.key == line := by
  have hnodup : (ls.filterMap c.find?).Nodup :=
    h.filterMap fun line line' s hline hline' =>
      (key_of_find? hline).symm.trans (key_of_find? hline')
  rw [select_eq, foldl_addNew_of_nodup hnodup, List.nil_append]
  simp only [filter_key_eq, List.filterMap_eq_flatMap_toList]

end Answer

namespace Prompt

/-! ## The example in a prompt -/

/-- The declarations that the example selects. -/
def exampleDeclarations : List Text :=
  ["int foo(int arg0, bool arg1);", "std::map<int, int> bar(int arg0, double arg1);"]

/-- The wrappers that the example proposes. -/
def exampleProposals : List Proposal :=
  [⟨⟨"int", "foo_i4", [⟨"bool", some "arg1".toList⟩], []⟩, "return foo(4, arg1);"⟩,
   ⟨⟨"int", "foo_i6", [⟨"bool", some "arg1".toList⟩], []⟩, "return foo(6, arg1);"⟩,
   ⟨⟨"std::map<int, int>", "bar_d1", [⟨"int", some "arg0".toList⟩], []⟩, "return bar(arg0, 1.0);"⟩,
   ⟨⟨"std::map<int, int>", "bar_d2", [⟨"int", some "arg0".toList⟩], []⟩, "return bar(arg0, 2.0);"⟩]

/-- The lines of the example that define its wrappers. -/
def exampleDefinitions : List Text :=
  ["int foo_i4(bool arg1) \x7b return foo(4, arg1); \x7d",
   "int foo_i6(bool arg1) \x7b return foo(6, arg1); \x7d",
   "std::map<int, int> bar_d1(int arg0) \x7b return bar(arg0, 1.0); \x7d",
   "std::map<int, int> bar_d2(int arg0) \x7b return bar(arg0, 2.0); \x7d",
   []]

/-- Between the lines that open its sections, the example holds what it is read into. -/
theorem exampleLines_eq : exampleLines =
    Answer.Part.selection.marker :: (exampleDeclarations ++ [] :: Answer.Part.proposals.marker ::
      (exampleDefinitions ++ [Answer.depthMarker, "2".toList])) := rfl

-- one evaluation for all of these facts, so that each line of the example is decoded only once
theorem exampleLines_evaluated :
    trimLines (unlines (exampleHeading :: exampleLines)) = exampleHeading :: exampleLines ∧
      Proposal.scan exampleDefinitions = exampleProposals ∧
      (∀ line ∈ exampleDefinitions, ¬ Answer.depthMarker <+: line) ∧
      Answer.Part.selection.marker ∉ exampleDeclarations ++ [[]] ∧
      Answer.Part.selection.marker ∉ exampleDefinitions ++ [Answer.depthMarker, "2".toList] ∧
      Answer.Part.proposals.marker ∉ exampleDefinitions ++ [Answer.depthMarker, "2".toList] ∧
      exampleDeclarations.Nodup := by
  decide +kernel

theorem depth?_example :
    Answer.depth? (exampleDefinitions ++ [Answer.depthMarker, "2".toList]) =
      .ok (exampleDefinitions, 2) := by
  obtain ⟨-, -, hproposals, -⟩ := exampleLines_evaluated
  have hat : Answer.atDepth? (exampleDefinitions ++ [Answer.depthMarker, "2".toList]) =
      some (exampleDefinitions, Answer.depthMarker, ["2".toList]) :=
    Answer.atDepth?_eq_some_iff.mpr ⟨rfl, List.prefix_rfl, hproposals⟩
  exact Answer.depth?_eq_ok_iff.mpr
    ⟨Answer.depthMarker, ["2".toList], "2", hat, by decide +kernel, by decide +kernel⟩

/-- The example is read as it is meant, with any catalogue. -/
theorem ofLines_example (c : Catalogue) : Answer.ofLines c (exampleHeading :: exampleLines) =
    .ok ⟨Answer.select c exampleDeclarations, exampleProposals, 2⟩ := by
  obtain ⟨-, hscan, -, hdeclarations, hdefinitions, hproposals, -⟩ := exampleLines_evaluated
  have hopened : Answer.afterLast? Answer.Part.proposals.marker (exampleHeading :: exampleLines) =
      some (exampleHeading :: Answer.Part.selection.marker :: (exampleDeclarations ++ [[]]),
        exampleDefinitions ++ [Answer.depthMarker, "2".toList]) :=
    Answer.afterLast?_eq_some_iff.mpr ⟨by simp [exampleLines_eq], hproposals⟩
  have hchosen : Answer.selectionLines
      (exampleHeading :: Answer.Part.selection.marker :: (exampleDeclarations ++ [[]]))
      (exampleDefinitions ++ [Answer.depthMarker, "2".toList]) = exampleDeclarations ++ [[]] := by
    rw [Answer.selectionLines, if_neg hdefinitions, ← List.singleton_append,
      Answer.afterLast?_append hdeclarations]
  refine Answer.ofLines_eq_ok_iff.mpr ⟨by simp [exampleLines_eq], _, _, _, hopened, depth?_example,
    ?_, hscan.symm⟩
  -- the empty line behind the declarations selects nothing
  rw [hchosen, Answer.select_concat_none (Answer.find?_nil c)]

/-- What stands above the example ends in a line feed, so the heading starts a line. -/
theorem exists_text_eq_append (t : Task) (c : Catalogue) (last : Option Report) :
    ∃ above, text t c last = above ++ '\n' :: unlines (exampleHeading :: exampleLines) := by
  have hinstructed : ofLines (opening t c ++ instructions) =
      unlines (opening t c ++ instructions) ++ ['\n'] := ofLines_eq (by simp [opening])
  have hfeedback : feedback last = [] ∨ ∃ told, feedback last = told ++ ['\n'] := by
    unfold feedback
    split
    · exact .inl rfl
    · rename_i r
      split
      · exact .inl rfl
      · exact .inr ⟨feedbackText r ++ ['\n'], by simp⟩
  unfold text
  rw [hinstructed]
  rcases hfeedback with hnone | ⟨told, htold⟩
  · exact ⟨unlines (opening t c ++ instructions), by simp [hnone]⟩
  · exact ⟨unlines (opening t c ++ instructions) ++ '\n' :: told, by simp [htold]⟩

/-- **A prompt is read as the example at its end**, for every task, catalogue and last result,
whatever stands in annotations, descriptions and expressions: the depth is 2, the proposals are the
four wrappers of the example, and selected are the signatures whose written forms are its two
declarations, in that order. -/
theorem parse_text_eq (t : Task) (c : Catalogue) (last : Option Report) :
    Answer.parse c (text t c last) = .ok
      { selected := exampleDeclarations.flatMap fun d => c.signatures.filter fun s => s.key == d
        proposals := exampleProposals
        depth := 2 } := by
  obtain ⟨above, habove⟩ := exists_text_eq_append t c last
  obtain ⟨hlines, -, -, -, -, -, hnodup⟩ := exampleLines_evaluated
  have hmarkers : ∀ part : Answer.Part, part.marker ∈ exampleHeading :: exampleLines := by
    intro part
    cases part <;> simp [exampleLines_eq]
  rw [← Answer.select_of_nodup hnodup, ← ofLines_example c,
    ← Answer.ofLines_append_left hmarkers (trimLines (above ++ ['\n'])), ← hlines,
    ← trimLines_append, ← habove]
  rfl

end Prompt

end PrimitiveSearch
