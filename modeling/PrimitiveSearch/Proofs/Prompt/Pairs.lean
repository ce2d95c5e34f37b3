import PrimitiveSearch.Prompt.Text
import PrimitiveSearch.Proofs.Task.Document
import PrimitiveSearch.Proofs.Text.Lines

/-!
# The pairs in a prompt

* `pairLine_injective` — a line that shows a pair determines it: both grids are read back from it.
* `isLine_pairLine` — it is one line, whatever the grids are.
* `text_eq_iff` — hence two prompts for the same catalogue and the same last result are equal
  exactly if they show the same pairs.
-/

set_option autoImplicit false

namespace PrimitiveSearch

open Json Text

/-! ## Grids on one line -/

theorem Grid.text_injective : Function.Injective Grid.text := by
  intro g h hgh
  have hg := g.denotes_text.reads [] ends_nil
  have hh := h.denotes_text.reads [] ends_nil
  rw [hgh, hh] at hg
  exact congrArg Prod.fst (Except.ok.inj hg).symm

theorem Grid.newline_not_mem_bracketed {items : List Text} (h : ∀ t ∈ items, '\n' ∉ t) :
    '\n' ∉ Grid.bracketed items := by
  intro hmem
  simp only [Grid.bracketed, List.cons_append, List.mem_cons, List.mem_append,
    List.not_mem_nil, or_false] at hmem
  rcases hmem with hopen | hinside | hclose
  · cases hopen
  · rcases mem_of_mem_intercalate hinside with hgap | ⟨t, ht, hin⟩
    · exact absurd hgap (by decide)
    · exact h t ht hin
  · cases hclose

theorem Grid.newline_not_mem_cellText (cell : Int64) : '\n' ∉ Grid.cellText cell := by
  unfold Grid.cellText
  cases cell.toInt with
  | ofNat n => exact (Numeral.neat_ofNat n).inside
  | negSucc n =>
    intro h
    rcases List.mem_cons.mp h with hsign | hdigits
    · cases hsign
    · exact (Numeral.neat_ofNat (n + 1)).inside hdigits

theorem Grid.newline_not_mem_text (g : Grid) : '\n' ∉ g.text := by
  refine Grid.newline_not_mem_bracketed fun row hrow => ?_
  obtain ⟨cells, -, rfl⟩ := List.mem_map.mp hrow
  refine Grid.newline_not_mem_bracketed fun cell hcell => ?_
  obtain ⟨n, -, rfl⟩ := List.mem_map.mp hcell
  exact Grid.newline_not_mem_cellText n

namespace Prompt

/-! ## Pairs on one line -/

/-- The comma behind the first grid ends it for a reader, so both grids can be read off the line. -/
theorem pairLine_injective : Function.Injective pairLine := by
  intro p q h
  have hline (r : Pair) : pairLine r = '(' :: (r.input.text ++ (", " ++ r.output.text ++ [')'])) := by
    simp [pairLine]
  rw [hline, hline] at h
  have hinside := (List.cons.inj h).2
  have hcomma (t : Text) : Ends (", " ++ t ++ [')']) := ends_cons (.inl rfl)
  have hp := p.input.denotes_text.reads _ (hcomma p.output.text)
  have hq := q.input.denotes_text.reads _ (hcomma q.output.text)
  rw [hinside, hq] at hp
  obtain ⟨hinput, hrest⟩ := Prod.mk.inj (Except.ok.inj hp)
  have houtput : p.output = q.output := by
    apply Grid.text_injective
    simpa using hrest.symm
  obtain ⟨pi, po⟩ := p
  obtain ⟨qi, qo⟩ := q
  exact (congrArg₂ Pair.mk hinput houtput.symm).symm

theorem isLine_pairLine (p : Pair) : IsLine (pairLine p) where
  inside := by
    intro h
    simp only [pairLine, List.cons_append, List.mem_cons, List.mem_append, List.not_mem_nil,
      or_false] at h
    rcases h with h | ((h | h) | h) | h
    · cases h
    · exact p.input.newline_not_mem_text h
    · exact absurd h (by decide)
    · exact p.output.newline_not_mem_text h
    · cases h
  back := by
    rw [pairLine, List.getLast?_concat]
    decide

/-! ## The whole prompt -/

/-- What stands around the pairs does not depend on the task. -/
theorem exists_text_eq (c : Catalogue) (last : Option Report) : ∃ before after, ∀ t : Task,
    text t c last = before ++ (ofLines (t.train.map pairLine) ++ after) := by
  have hopening (t : Task) : opening t c ++ instructions =
      ["You are given several input-output grid pairs from an ARC task:".toList] ++
        (t.train.map pairLine ++
          ([[], "You are given several C++ function declarations as primitives:".toList] ++
            c.entries.map Entry.note ++ [[]] ++ instructions)) := by
    simp only [opening, List.cons_append, List.nil_append, List.append_assoc]
  refine ⟨ofLines ["You are given several input-output grid pairs from an ARC task:".toList],
    ofLines ([[], "You are given several C++ function declarations as primitives:".toList] ++
      c.entries.map Entry.note ++ [[]] ++ instructions) ++ feedback last ++
        unlines (exampleHeading :: exampleLines), fun t => ?_⟩
  rw [text, hopening]
  simp only [ofLines_append, List.append_assoc]

/-- **The prompt determines the pairs that are shown, and nothing else of the task.**  For one
catalogue and one last result, the prompts of two tasks are equal exactly if the tasks show the
same pairs, however many and however ragged; the pairs that are held back leave no trace. -/
theorem text_eq_iff (c : Catalogue) (last : Option Report) (t u : Task) :
    text t c last = text u c last ↔ t.train = u.train := by
  obtain ⟨before, after, heq⟩ := exists_text_eq c last
  have hlines (ps : List Pair) : lines (ofLines (ps.map pairLine)) = ps.map pairLine := by
    refine lines_ofLines fun l hl => ?_
    obtain ⟨p, -, rfl⟩ := List.mem_map.mp hl
    exact isLine_pairLine p
  rw [heq, heq, List.append_cancel_left_eq, List.append_cancel_right_eq]
  constructor
  · intro h
    have hmap := congrArg lines h
    rw [hlines, hlines] at hmap
    exact List.map_injective_iff.mpr pairLine_injective hmap
  · intro h
    rw [h]

end Prompt

end PrimitiveSearch
