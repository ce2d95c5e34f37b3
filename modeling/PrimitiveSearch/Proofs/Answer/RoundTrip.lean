import PrimitiveSearch.Answer.Writing
import PrimitiveSearch.Proofs.Answer.Selection
import PrimitiveSearch.Proofs.Proposal.Block
import PrimitiveSearch.Proofs.Text.Numeral

/-!
# Answers are read back from their layout

* `scan_blocks` — what lines propose is scanned again.
* `layoutLines`, `trimLines_text` — the lines of the layout, and that no others are read from it.
* `parse_text` — an answer that was read from any text is read again from its layout.
-/

set_option autoImplicit false

namespace PrimitiveSearch.Answer

open Text

variable {c : Catalogue} {ls : List Text} {s : Signature} {a : Answer} {t : Text}

/-! ## The proposals -/

/-- Proposals that were read from lines `ls`. -/
abbrev ProposalsOf (ls : List Text) (ps : List Proposal) : Prop :=
  ∀ p ∈ ps, Proposal.HeadOf ls p.signature ∧ Proposal.BodyOf ls p.body

theorem scan_blocks {ps : List Proposal} (h : ProposalsOf ls ps) :
    Proposal.scan (ps.flatMap Proposal.block) = ps := by
  induction ps with
  | nil => rw [List.flatMap_nil, Proposal.scan]
  | cons p ps ih =>
    obtain ⟨hhead, hbody⟩ := h p List.mem_cons_self
    rw [List.flatMap_cons, Proposal.scan_block hhead hbody,
      ih fun q hq => h q (List.mem_cons_of_mem p hq)]

theorem unlines_block {p : Proposal} (h : Proposal.BodyOf ls p.body) :
    unlines (Proposal.block p) = proposalText p := by
  rw [Proposal.block, unlines_onFront, unlines_onBack, h.text, proposalText]
  simp only [List.append_assoc]

/-! ## The lines of the layout -/

/-- The lines after the mark of the proposals. -/
def proposalLines (a : Answer) : List Text :=
  a.proposals.flatMap Proposal.block ++ [depthMarker, Numeral.ofNat a.depth]

/-- All lines of an answer in its layout. -/
def layoutLines (a : Answer) : List Text :=
  (Part.selection.marker :: a.selected.map Signature.key) ++
    Part.proposals.marker :: proposalLines a

theorem block_ne_nil (p : Proposal) : Proposal.block p ≠ [] := by
  unfold Proposal.block onFront
  split <;> simp

/-- The lines of the layout, one group for each of its parts. -/
def layoutGroups (a : Answer) : List (List Text) :=
  [Part.selection.marker] :: a.selected.map (fun s => [s.key]) ++
    [Part.proposals.marker] :: a.proposals.map Proposal.block ++
    [[depthMarker], [Numeral.ofNat a.depth]]

theorem flatten_layoutGroups (a : Answer) : (layoutGroups a).flatten = layoutLines a := by
  have hkeys : (a.selected.map fun s => [s.key]).flatten = a.selected.map Signature.key := by
    rw [← List.flatMap_def, ← List.map_eq_flatMap]
  simp [layoutGroups, layoutLines, proposalLines, hkeys, List.flatMap_def]

theorem text_eq_unlines (h : ProposalsOf ls a.proposals) : a.text = unlines (layoutLines a) := by
  have hblocks : a.proposals.map proposalText = (a.proposals.map Proposal.block).map unlines := by
    rw [List.map_map]
    exact List.map_congr_left fun p hp => (unlines_block (h p hp).2).symm
  have hkeys : a.selected.map Signature.key =
      (a.selected.map fun s => [s.key]).map unlines := by
    rw [List.map_map]
    exact List.map_congr_left fun s _ => (unlines_singleton s.key).symm
  have hne : ∀ g ∈ layoutGroups a, g ≠ [] := by
    intro g hg
    simp only [layoutGroups, List.mem_append, List.mem_cons, List.mem_map, List.not_mem_nil,
      or_false] at hg
    rcases hg with ((rfl | ⟨s, -, rfl⟩) | rfl | ⟨p, -, rfl⟩) | rfl | rfl
    all_goals first | exact block_ne_nil p | exact List.cons_ne_nil _ _
  rw [← flatten_layoutGroups, ← unlines_flatten hne, text, layout, hblocks, hkeys]
  simp [layoutGroups]

/-! ## Reading the layout -/

theorem neat_marker (part : Part) : Neat part.marker := by
  cases part <;> exact ⟨by decide, by decide⟩

theorem key_ne_marker (s : Signature) (part : Part) : s.key ≠ part.marker := by
  intro h
  have := s.getLast?_key
  rw [h] at this
  cases part <;> exact absurd this (by decide)

theorem neat_depthMarker : Neat depthMarker :=
  ⟨by decide, by decide⟩

theorem ofNat_ne_marker (n : Nat) (part : Part) : Numeral.ofNat n ≠ part.marker := by
  intro h
  have hcolon : ':' ∈ Numeral.ofNat n := by
    rw [h]
    cases part <;> decide
  exact absurd (Numeral.isDigit_ofNat hcolon) (by decide)

theorem neat_proposalLines (h : ProposalsOf ls a.proposals) {l : Text}
    (hl : l ∈ proposalLines a) : Neat l := by
  simp only [proposalLines, List.mem_append, List.mem_flatMap, List.mem_cons, List.not_mem_nil,
    or_false] at hl
  rcases hl with ⟨p, hp, hl⟩ | rfl | rfl
  · exact (Proposal.mem_block (h p hp).1 (h p hp).2 hl).1
  · exact neat_depthMarker
  · exact Numeral.neat_ofNat a.depth

/-- The lines that are read from the layout are the lines it was made of. -/
theorem trimLines_text (h : ProposalsOf ls a.proposals) (hkeys : ∀ s ∈ a.selected, Neat s.key) :
    trimLines a.text = layoutLines a := by
  rw [text_eq_unlines h]
  apply trimLines_unlines
  · intro l hl
    simp only [layoutLines, List.mem_append, List.mem_cons, List.mem_map] at hl
    rcases hl with (rfl | ⟨s, hs, rfl⟩) | rfl | hl
    · exact neat_marker .selection
    · exact hkeys s hs
    · exact neat_marker .proposals
    · exact neat_proposalLines h hl
  · have hlast : layoutLines a = ((Part.selection.marker :: a.selected.map Signature.key) ++
        Part.proposals.marker :: (a.proposals.flatMap Proposal.block ++ [depthMarker])) ++
          [Numeral.ofNat a.depth] := by
      simp [layoutLines, proposalLines]
    rw [hlast, List.getLast?_concat]
    exact fun h => Numeral.ofNat_ne_nil a.depth (Option.some.inj h)

/-- A marker among the lines of the proposals was among the lines these were read from. -/
theorem mem_of_marker_mem (h : ProposalsOf ls a.proposals) {part : Part}
    (hmem : part.marker ∈ proposalLines a) : part.marker ∈ ls := by
  simp only [proposalLines, List.mem_append, List.mem_flatMap, List.mem_cons, List.not_mem_nil,
    or_false] at hmem
  rcases hmem with ⟨p, hp, hl⟩ | hdepth | hnumeral
  · exact Proposal.mem_of_mem_block (h p hp).1 (h p hp).2 hl (by cases part <;> decide)
      (by cases part <;> decide)
  · cases part <;> exact absurd hdepth (by decide)
  · exact absurd hnumeral.symm (ofNat_ne_marker a.depth part)

/-- The depth is read back, and with it the lines of the proposals. -/
theorem depth?_proposalLines (h : ProposalsOf ls a.proposals)
    (hls : ∀ l ∈ ls, ¬ depthMarker <+: l) (hdepth : a.depth < depthBound) :
    depth? (proposalLines a) = .ok (a.proposals.flatMap Proposal.block, a.depth) := by
  have hfirst : ∀ l ∈ a.proposals.flatMap Proposal.block, ¬ depthMarker <+: l := by
    intro l hl hmark
    obtain ⟨p, hp, hl⟩ := List.mem_flatMap.mp hl
    obtain ⟨m, hm, hpre⟩ :=
      Proposal.isPrefix_of_mem_block (h p hp).1 (h p hp).2 hl hmark (by decide)
    exact hls m hm hpre
  have hvalue : depthText? depthMarker [Numeral.ofNat a.depth] = some (Numeral.ofNat a.depth) := by
    have hword : (words depthMarker)[1]? = none := by decide
    have hne : (Numeral.ofNat a.depth).isEmpty = false := by simp [Numeral.ofNat_ne_nil]
    unfold depthText?
    rw [hword]
    simp [hne]
  exact depth?_eq_ok_iff.mpr ⟨depthMarker, _, _,
    atDepth?_eq_some_iff.mpr ⟨rfl, List.prefix_refl _, hfirst⟩, hvalue,
    Numeral.readBelow?_ofNat hdepth⟩

theorem selectionLines_subset (before after : List Text) : selectionLines before after ⊆ before := by
  unfold selectionLines
  split
  · exact List.nil_subset _
  · split
    · rename_i front lines hfound
      rw [(afterLast?_eq_some_iff.mp hfound).1]
      intro l hl
      simp [hl]
    · exact List.nil_subset _

/-- The lines of the layout select what was selected: nothing if the selection opens again among
the proposals, and what the written forms name otherwise. -/
theorem select_layout (h : ProposalsOf ls a.proposals) {before after : List Text}
    (hsub : ls ⊆ after) (hselected : a.selected = select c (selectionLines before after)) :
    a.selected = select c (selectionLines
      (Part.selection.marker :: a.selected.map Signature.key) (proposalLines a)) := by
  by_cases hmem : Part.selection.marker ∈ proposalLines a
  · -- the marker was among the lines read, too, so nothing was selected then
    have hagain : Part.selection.marker ∈ after := hsub (mem_of_marker_mem h hmem)
    rw [selectionLines, if_pos hmem]
    rwa [selectionLines, if_pos hagain] at hselected
  · have hkeys : Part.selection.marker ∉ a.selected.map Signature.key := by
      intro hkey
      obtain ⟨s, -, hs⟩ := List.mem_map.mp hkey
      exact key_ne_marker s .selection hs
    have hfound : afterLast? Part.selection.marker
        ([] ++ Part.selection.marker :: a.selected.map Signature.key) =
          some ([], a.selected.map Signature.key) :=
      afterLast?_append hkeys
    rw [List.nil_append] at hfound
    rw [selectionLines, if_neg hmem, hfound]
    show a.selected = select c (a.selected.map Signature.key)
    rw [hselected, select_keys]

/-- **An answer is read back from its layout.**  Whatever text an answer was read from, writing it
in the layout that is asked for and reading that gives the same answer. -/
theorem parse_text (h : parse c t = .ok a) : parse c a.text = .ok a := by
  obtain ⟨-, before, after, ls, hafter, hdepth, hselected, hproposals⟩ := ofLines_eq_ok_iff.mp h
  obtain ⟨hlines, hlast⟩ := afterLast?_eq_some_iff.mp hafter
  obtain ⟨line, later, value, hat, -, hvalue⟩ := depth?_eq_ok_iff.mp hdepth
  obtain ⟨rfl, -, hbefore⟩ := atDepth?_eq_some_iff.mp hat
  have hneat : ∀ l ∈ trimLines t, Neat l := fun l hl => neat_trimLines hl
  have hsection : ls ⊆ trimLines t := fun l hl => by
    rw [show trimLines t = _ from hlines]
    simp [hl]
  have hps : ProposalsOf ls a.proposals := by
    rw [hproposals]
    exact fun p hp => Proposal.of_mem_scan (fun l hl => hneat l (hsection hl)) hp
  have hkeys : ∀ s ∈ a.selected, Neat s.key := by
    intro s hs
    rw [hselected] at hs
    have hmem := selectionLines_subset _ _ (mem_select hs).1
    exact hneat _ (by rw [show trimLines t = _ from hlines]; simp [hmem])
  have hproposals' : Part.proposals.marker ∉ proposalLines a := fun hmem =>
    hlast (List.mem_append_left _ (mem_of_marker_mem hps hmem))
  show ofLines c (trimLines a.text) = .ok a
  rw [trimLines_text hps hkeys]
  exact ofLines_eq_ok_iff.mpr ⟨by simp [layoutLines], _, _, _, afterLast?_append hproposals',
    depth?_proposalLines hps hbefore (Numeral.lt_of_readBelow? hvalue),
    select_layout hps (List.subset_append_left _ _) hselected, (scan_blocks hps).symm⟩

/-- A wrapper over several lines, one of them a marker of the selection's name with a brace, and a
declaration that is selected twice. -/
theorem parse_text_spread :
    let c := Catalogue.parse "///int f(int a,int b); // Foo"
    let t : Text := "SELECTED_PRIMITIVES:\n int f(int a, int b);\nint g();\nint f(int a, int b);\n" ++
      "PARTIAL_PARAMETERIZATIONS:\nint  f_one (int b )\x7b int a = 1;\r\n\n  if (b) \x7b\n" ++
      "  SELECTED_PRIMITIVES:\x7d;\n return f(a, b);\n\n \x7d\nDEPTH_LEVEL: +4"
    let f : Signature := ⟨"int", "f", [⟨"int", some "a".toList⟩, ⟨"int", some "b".toList⟩], "Foo"⟩
    let body := unlines ["int a = 1;".toList, "if (b) \x7b".toList,
      "SELECTED_PRIMITIVES:\x7d;".toList, "return f(a, b);".toList]
    let a : Answer := ⟨[f], [⟨⟨"int", "f_one", [⟨"int", some "b".toList⟩], []⟩, body⟩], 4⟩
    parse c t = .ok a ∧ parse c a.text = .ok a := by
  intro c t f body a
  have ha : parse c t = .ok a := eq_ok_of_toOption (by decide +kernel)
  exact ⟨ha, parse_text ha⟩

end PrimitiveSearch.Answer
