import PrimitiveSearch.Proofs.Declaration.Choice

/-!
# Declarations with an empty argument

An argument is empty when nothing but white space stands between its commas.  A declaration with an
empty argument is refused, except that a last argument with nothing at all behind the last comma is
overlooked.

* `nil_mem_segments_iff` — which of the pieces between the commas count as empty arguments.
* `Parts.padded` — a declaration with white space in front of its closing parenthesis;
  `Parts.IsChosen.padded` says that it is cut in the same way.
* `parse?_eq_none_iff_empty` — when a declaration is refused for an empty argument, and how white
  space in front of the parenthesis changes that.
* `trailing_comma_accepted` — an empty argument that is overlooked.
-/

set_option autoImplicit false

namespace PrimitiveSearch.Declaration

open Text

variable {t b last : Text} {init : List Text} {d : Int} {p q : Parts}

/-! ## Pieces -/

/-- White space behind the last piece leaves the cut as it is. -/
theorem WellCut.pad (hb : Blank b) (h : WellCut d (init ++ [last])) :
    WellCut d (init ++ [last ++ b]) := by
  induction init generalizing d with
  | nil => exact (uncut_append b).mpr ⟨h, uncut_blank hb _⟩
  | cons p init ih =>
    cases init with
    | nil => exact ⟨h.1, h.2.1, ih h.2.2⟩
    | cons q init => exact ⟨h.1, h.2.1, ih h.2.2⟩

theorem intercalate_pad (sep : Text) (init : List Text) (last b : Text) :
    List.intercalate sep (init ++ [last ++ b]) = List.intercalate sep (init ++ [last]) ++ b := by
  induction init with
  | nil =>
    rw [List.nil_append, List.nil_append, List.intercalate_singleton, List.intercalate_singleton]
  | cons p init ih =>
    rw [List.cons_append, List.cons_append,
      List.intercalate_cons_of_ne_nil (List.concat_ne_nil _ _),
      List.intercalate_cons_of_ne_nil (List.concat_ne_nil _ _), ih, ← List.append_assoc]

/-- Which pieces are empty arguments: those of white space only, unless the last one is empty. -/
theorem nil_mem_segments_iff (h : WellCut 0 (init ++ [last])) :
    [] ∈ segments (List.intercalate [','] (init ++ [last])) ↔
      (∃ piece ∈ init, Blank piece) ∨ (Blank last ∧ last ≠ []) := by
  have hmem : ∀ ps : List Text, [] ∈ ps.map trim ↔ ∃ piece ∈ ps, Blank piece := fun ps => by
    simp only [List.mem_map, trim_eq_nil_iff]
  rw [segments_eq, keptPieces, pieces_intercalate h, List.getLast?_concat, List.dropLast_concat]
  by_cases hlast : last = []
  · rw [if_pos (congrArg some hlast), hmem]
    simp [hlast]
  · rw [if_neg fun heq => hlast (Option.some.inj heq), hmem]
    simp [hlast, or_and_right, exists_or]

/-! ## White space in front of the closing parenthesis -/

/-- The same parts with white space behind the arguments. -/
def Parts.padded (p : Parts) (b : Text) : Parts := { p with arguments := p.arguments ++ b }

/-- What stands in front of the opening parenthesis. -/
def Parts.opening (p : Parts) : Text :=
  p.lead ++ (p.returnType ++ (p.gap ++ (p.name ++ p.beforeOpen)))

theorem Parts.text_eq_opening (p : Parts) :
    p.text = (p.opening ++ '(' :: p.arguments) ++ p.closing := by
  simp [Parts.text, Parts.opening, Parts.closing]

/-- What ends in a text without an opening parenthesis ends in it behind the last one. -/
theorem exists_of_append_open {x y a : Text} (hb : '(' ∉ b) (h : x ++ '(' :: a = y ++ b) :
    ∃ a', a = a' ++ b ∧ y = x ++ '(' :: a' := by
  rcases List.append_eq_append_iff.mp h with ⟨z, rfl, hz⟩ | ⟨z, rfl, rfl⟩
  · cases z with
    | nil =>
      rw [List.nil_append] at hz
      exact absurd (hz ▸ List.mem_cons_self) hb
    | cons c z =>
      obtain ⟨rfl, rfl⟩ := List.cons.inj hz
      exact ⟨z, rfl, rfl⟩
  · exact absurd (List.mem_append_right z List.mem_cons_self) hb

theorem Parts.opening_padded (p : Parts) (b : Text) :
    (p.padded b).opening ++ '(' :: (p.padded b).arguments =
      (p.opening ++ '(' :: p.arguments) ++ b := by
  rw [List.append_assoc]
  rfl

theorem beforeClose?_text (p : Parts) (hend : Blank p.beforeEnd) (htrail : Blank p.trail) :
    beforeClose? p.text = some (p.opening ++ '(' :: p.arguments) :=
  beforeClose?_eq_some_iff.mpr ⟨p.beforeEnd, p.trail, hend, htrail, p.text_eq_opening⟩

/-- Whatever follows the grammar and makes up a padded text is padded itself. -/
theorem exists_unpadded (hp : p.Follows) (hb : Blank b) (hq : q.Follows)
    (htext : q.text = (p.padded b).text) :
    '\n' ∉ b ∧ ∃ q₀ : Parts, q₀.Follows ∧ q₀.text = p.text ∧ q = q₀.padded b := by
  have hfront : q.opening ++ '(' :: q.arguments = (p.opening ++ '(' :: p.arguments) ++ b := by
    have hclose := beforeClose?_text q hq.beforeEnd hq.trail
    rw [htext, beforeClose?_text (p.padded b) hp.beforeEnd hp.trail, p.opening_padded] at hclose
    exact (Option.some.inj hclose).symm
  have hclosing : q.closing = p.closing := by
    rw [q.text_eq_opening, (p.padded b).text_eq_opening, hfront, p.opening_padded] at htext
    exact List.append_cancel_left htext
  obtain ⟨arguments, harguments, hopening⟩ := exists_of_append_open (paren_not_blank hb) hfront
  have hnl := hq.arguments
  rw [harguments, List.mem_append, not_or] at hnl
  refine ⟨hnl.2, { q with arguments := arguments }, { hq with arguments := hnl.1 }, ?_, ?_⟩
  · rw [p.text_eq_opening, hopening, ← hclosing]
    exact Parts.text_eq_opening _
  · rw [Parts.padded, ← harguments]

/-- **White space in front of the closing parenthesis changes the arguments only.** -/
theorem Parts.IsChosen.padded (h : p.IsChosen p.text) (hb : Blank b) (hnl : '\n' ∉ b) :
    (p.padded b).IsChosen (p.padded b).text := by
  have hp := h.follows
  have harguments : '\n' ∉ (p.padded b).arguments := fun hc =>
    (List.mem_append.mp hc).elim hp.arguments hnl
  refine ⟨{ hp with arguments := harguments }, rfl, fun q hq htext => ?_,
    fun q hq htext hlead => ?_⟩
  · obtain ⟨-, q₀, hq₀, htext₀, rfl⟩ := exists_unpadded hp hb hq htext
    exact h.lead q₀ hq₀ htext₀
  · obtain ⟨-, q₀, hq₀, htext₀, rfl⟩ := exists_unpadded hp hb hq htext
    exact h.returnType q₀ hq₀ htext₀ hlead

end PrimitiveSearch.Declaration

namespace PrimitiveSearch.Signature

open Text Declaration

variable {t b last : Text} {init : List Text} {p : Parts}

theorem parse?_eq_none_iff_of_isChosen (h : p.IsChosen t) :
    parse? t = none ↔ ¬ Blank p.arguments ∧ [] ∈ segments p.arguments := by
  rw [parse?, split?_eq_some_iff.mpr ⟨p, h, rfl⟩, Option.bind_some, Option.map_eq_none_iff]
  exact parameters?_eq_none_iff

/-- **When an argument is empty.**  Let the arguments of a declaration be cut at their top-level
commas.  The declaration is refused exactly if one of the pieces is white space only, except for an
empty last one.  With white space in front of the closing parenthesis there is no exception. -/
theorem parse?_eq_none_iff_empty (h : p.IsChosen t) (hne : ¬ Blank p.arguments)
    (hcut : WellCut 0 (init ++ [last]))
    (hpieces : p.arguments = List.intercalate [','] (init ++ [last])) :
    (parse? t = none ↔ (∃ piece ∈ init, Blank piece) ∨ (Blank last ∧ last ≠ [])) ∧
    ∀ b, Blank b → b ≠ [] → (parse? (p.padded b).text = none ↔
      '\n' ∈ b ∨ (∃ piece ∈ init, Blank piece) ∨ Blank last) := by
  refine ⟨?_, fun b hb hb_ne => ?_⟩
  · rw [parse?_eq_none_iff_of_isChosen h, and_iff_right hne, hpieces]
    exact nil_mem_segments_iff hcut
  · obtain rfl := h.text
    by_cases hnl : '\n' ∈ b
    · have hsplit : split? (p.padded b).text = none := split?_eq_none_iff.mpr fun q hq htext =>
        (exists_unpadded h.follows hb hq htext).1 hnl
      rw [parse?, hsplit]
      exact iff_of_true rfl (.inl hnl)
    · have hpadded : (p.padded b).arguments = List.intercalate [','] (init ++ [last ++ b]) := by
        rw [intercalate_pad, ← hpieces]
        rfl
      have hargs : ¬ Blank (p.padded b).arguments := fun hblank =>
        hne (List.forall_mem_append.mp hblank).1
      -- with something behind it, the last piece is not empty
      have hlast : Blank (last ++ b) ∧ last ++ b ≠ [] ↔ Blank last :=
        ⟨fun hblank => (List.forall_mem_append.mp hblank.1).1, fun hblank =>
          ⟨List.forall_mem_append.mpr ⟨hblank, hb⟩, List.append_ne_nil_of_right_ne_nil _ hb_ne⟩⟩
      rw [parse?_eq_none_iff_of_isChosen (h.padded hb hnl), and_iff_right hargs, hpadded,
        nil_mem_segments_iff (hcut.pad hb), hlast, or_iff_right hnl]

/-- Nothing behind the last comma, and one space. -/
theorem parse?_eq_none_iff_empty_trailing :
    let t : Text := "int foo(int a,);"
    ∃ p : Parts, p.IsChosen t ∧ ¬ Blank p.arguments ∧ WellCut 0 (["int a".toList] ++ [[]]) ∧
      p.arguments = List.intercalate [','] (["int a".toList] ++ [[]]) ∧
      parse? t ≠ none ∧ parse? (p.padded [' ']).text = none := by
  intro t
  obtain ⟨p, hp, hsplit⟩ := split?_eq_some_iff.mp
    (by decide +kernel : split? t = some ⟨"int", "foo", "int a,"⟩)
  have hargs : p.arguments = "int a,".toList := congrArg Split.arguments hsplit
  have hne : ¬ Blank p.arguments := fun hblank =>
    absurd (isBlankText_iff.mpr (hargs ▸ hblank)) (by decide)
  have hcut : WellCut 0 (["int a".toList] ++ [[]]) := by
    rw [← (by decide : pieces 0 "int a,".toList = ["int a".toList] ++ [[]])]
    exact wellCut_pieces 0 _
  have hpieces : p.arguments = List.intercalate [','] (["int a".toList] ++ [[]]) := by
    rw [hargs]
    decide
  obtain ⟨hverdict, hpadded⟩ := parse?_eq_none_iff_empty hp hne hcut hpieces
  refine ⟨p, hp, hne, hcut, hpieces, fun h => ?_, ?_⟩
  · rcases hverdict.mp h with ⟨piece, hpiece, hblank⟩ | ⟨-, hlast⟩
    · rw [List.mem_singleton.mp hpiece] at hblank
      exact absurd (isBlankText_iff.mpr hblank) (by decide)
    · exact hlast rfl
  · exact (hpadded [' '] (blank_singleton rfl) (by decide)).mpr (.inr (.inr blank_nil))

/-- An empty argument behind the last comma is overlooked; anywhere else, or with a space in it, it
is not. -/
theorem trailing_comma_accepted :
    split? "int foo(int a,);" = some ⟨"int", "foo", "int a,"⟩ ∧
    pieces 0 "int a,".toList = ["int a".toList, []] ∧
    parse? "int foo(int a,);" = some ⟨"int", "foo", [⟨"int", some "a".toList⟩], []⟩ ∧
    parse? "int foo(int a, );" = none ∧ parse? "int foo(,int a);" = none := by
  decide +kernel

end PrimitiveSearch.Signature
