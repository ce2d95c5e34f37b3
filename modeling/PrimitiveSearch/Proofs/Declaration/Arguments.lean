import PrimitiveSearch.Declaration.Signature
import PrimitiveSearch.Proofs.Text.Lines

/-!
# Arguments of a declaration

* `depthOf`, `Uncut` — the depth of brackets that a text adds; no comma of it stands at depth zero.
* `WellCut` — what a cut at the commas of depth zero leaves.  `wellCut_pieces`,
  `intercalate_pieces` and `pieces_intercalate` say that `pieces` is exactly this cut.
* `segments_join` — texts that a cut could leave are read back when they are joined with `, `.
* `argumentTexts_join`, `parameters?_intercalate` — the same for arguments and parameters.
-/

set_option autoImplicit false

namespace PrimitiveSearch.Declaration

open Text

variable {t : Text} {ps : List Text} {d : Int}

/-! ## Depth -/

/-- The depth of angle brackets that a text adds. -/
def depthOf : Text → Int
  | [] => 0
  | c :: rest => depthChange c + depthOf rest

@[simp] theorem depthOf_cons (c : Char) (t : Text) :
    depthOf (c :: t) = depthChange c + depthOf t := rfl

@[simp] theorem depthOf_append (t u : Text) : depthOf (t ++ u) = depthOf t + depthOf u := by
  induction t with
  | nil => exact (Int.zero_add _).symm
  | cons c rest ih =>
    rw [List.cons_append, depthOf_cons, depthOf_cons, ih]
    omega

/-- No comma of a text stands at depth zero, when the text begins at a given depth. -/
def Uncut (d : Int) : Text → Prop
  | [] => True
  | c :: rest => ¬ (c = ',' ∧ d = 0) ∧ Uncut (d + depthChange c) rest

instance decidableUncut : (d : Int) → (t : Text) → Decidable (Uncut d t)
  | _, [] => .isTrue trivial
  | d, c :: rest =>
    @instDecidableAnd _ _ inferInstance (decidableUncut (d + depthChange c) rest)

theorem uncut_append (u : Text) : Uncut d (t ++ u) ↔ Uncut d t ∧ Uncut (d + depthOf t) u := by
  induction t generalizing d with
  | nil => simp [Uncut, depthOf]
  | cons c rest ih =>
    rw [List.cons_append, Uncut, Uncut, ih, depthOf_cons, and_assoc, Int.add_assoc]

theorem depthChange_blank {c : Char} (h : isBlank c = true) : depthChange c = 0 := by
  unfold depthChange
  rw [if_neg (by rintro rfl; cases h), if_neg (by rintro rfl; cases h)]

theorem depthOf_eq_zero (h : ∀ c ∈ t, depthChange c = 0) : depthOf t = 0 := by
  induction t with
  | nil => rfl
  | cons c rest ih =>
    rw [depthOf_cons, h c List.mem_cons_self, ih fun x hx => h x (List.mem_cons_of_mem _ hx)]
    rfl

theorem depthOf_blank (h : Blank t) : depthOf t = 0 :=
  depthOf_eq_zero fun c hc => depthChange_blank (h c hc)

theorem uncut_blank (h : Blank t) (d : Int) : Uncut d t := by
  induction t with
  | nil => trivial
  | cons c rest ih =>
    have hc : isBlank c = true := h c List.mem_cons_self
    refine ⟨?_, ?_⟩
    · rintro ⟨rfl, -⟩
      exact absurd hc (by decide)
    · rw [depthChange_blank hc, Int.add_zero]
      exact ih fun x hx => h x (List.mem_cons_of_mem c hx)

/-- White space around a text changes neither its depth nor its commas. -/
@[simp] theorem depthOf_trim (t : Text) : depthOf (trim t) = depthOf t := by
  obtain ⟨a, b, ha, hb, h⟩ := exists_trim t
  conv => rhs; rw [h]
  simp [depthOf_blank ha, depthOf_blank hb]

theorem uncut_trim (h : Uncut d t) : Uncut d (trim t) := by
  obtain ⟨a, b, ha, hb, ht⟩ := exists_trim t
  rw [ht, uncut_append, depthOf_blank ha, Int.add_zero, uncut_append] at h
  exact h.2.1

/-! ## Pieces -/

/-- Pieces as a cut leaves them that starts at a given depth: no comma at depth zero within a
piece, and depth zero between two pieces. -/
def WellCut (d : Int) : List Text → Prop
  | [] => False
  | [p] => Uncut d p
  | p :: q :: ps => Uncut d p ∧ d + depthOf p = 0 ∧ WellCut 0 (q :: ps)

theorem WellCut.ne_nil (h : WellCut d ps) : ps ≠ [] := by
  rintro rfl
  exact h

theorem pieces_cons {c : Char} (h : ¬ (c = ',' ∧ d = 0)) :
    pieces d (c :: t) = onFirst c (pieces (d + depthChange c) t) := by
  rw [pieces, if_neg h]
  cases pieces (d + depthChange c) t <;> rfl

theorem wellCut_pieces (d : Int) (t : Text) : WellCut d (pieces d t) := by
  induction t generalizing d with
  | nil => trivial
  | cons c rest ih =>
    by_cases h : c = ',' ∧ d = 0
    · have hrest := ih d
      rw [pieces, if_pos h]
      rw [h.2] at hrest ⊢
      cases hp : pieces 0 rest with
      | nil => exact absurd hp hrest.ne_nil
      | cons q qs =>
        rw [hp] at hrest
        exact ⟨trivial, rfl, hrest⟩
    · rw [pieces_cons h]
      have hrest := ih (d + depthChange c)
      cases hp : pieces (d + depthChange c) rest with
      | nil => exact absurd hp hrest.ne_nil
      | cons q qs =>
        rw [hp] at hrest
        cases qs with
        | nil => exact ⟨h, hrest⟩
        | cons r rs =>
          refine ⟨⟨h, hrest.1⟩, ?_, hrest.2.2⟩
          rw [depthOf_cons, ← Int.add_assoc]
          exact hrest.2.1

theorem intercalate_onFirst (c : Char) {ls : List Text} (hne : ls ≠ []) (sep : Text) :
    List.intercalate sep (onFirst c ls) = c :: List.intercalate sep ls := by
  cases ls with
  | nil => exact absurd rfl hne
  | cons l ls =>
    cases ls with
    | nil => simp [onFirst]
    | cons m ms => simp [onFirst, List.intercalate_cons_cons]

/-- Nothing is lost but the commas. -/
theorem intercalate_pieces (d : Int) (t : Text) : List.intercalate [','] (pieces d t) = t := by
  induction t generalizing d with
  | nil => rfl
  | cons c rest ih =>
    by_cases h : c = ',' ∧ d = 0
    · rw [pieces, if_pos h, List.intercalate_cons_of_ne_nil (wellCut_pieces d rest).ne_nil, ih, h.1]
      rfl
    · rw [pieces_cons h, intercalate_onFirst c (wellCut_pieces _ rest).ne_nil, ih]

theorem pieces_uncut (h : Uncut d t) : pieces d t = [t] := by
  induction t generalizing d with
  | nil => rfl
  | cons c rest ih => rw [pieces_cons h.1, ih h.2]; rfl

theorem pieces_append (h : Uncut d t) (hd : d + depthOf t = 0) (u : Text) :
    pieces d (t ++ ',' :: u) = t :: pieces 0 u := by
  induction t generalizing d with
  | nil =>
    obtain rfl : d = 0 := by simpa [depthOf] using hd
    rw [List.nil_append, pieces, if_pos ⟨rfl, rfl⟩]
  | cons c rest ih =>
    rw [depthOf_cons, ← Int.add_assoc] at hd
    rw [List.cons_append, pieces_cons h.1, ih h.2 hd]
    rfl

/-- The cut is the only one of its kind. -/
theorem pieces_intercalate (h : WellCut d ps) : pieces d (List.intercalate [','] ps) = ps := by
  induction ps generalizing d with
  | nil => exact absurd h id
  | cons p ps ih =>
    cases ps with
    | nil =>
      rw [List.intercalate_singleton]
      exact pieces_uncut h
    | cons q qs =>
      rw [List.intercalate_cons_cons, List.append_assoc, List.singleton_append,
        pieces_append h.1 h.2.1, ih h.2.2]

theorem WellCut.map {f : Text → Text} (hf : ∀ p ∈ ps, depthOf (f p) = depthOf p ∧
    ∀ d, Uncut d p → Uncut d (f p)) (h : WellCut d ps) : WellCut d (ps.map f) := by
  induction ps generalizing d with
  | nil => exact h
  | cons p ps ih =>
    have hp := hf p List.mem_cons_self
    cases ps with
    | nil => exact hp.2 d h
    | cons q qs =>
      refine ⟨hp.2 d h.1, ?_, ih (fun r hr => hf r (List.mem_cons_of_mem _ hr)) h.2.2⟩
      rw [hp.1]
      exact h.2.1

theorem WellCut.dropLast (hne : ps.dropLast ≠ []) (h : WellCut d ps) : WellCut d ps.dropLast := by
  induction ps generalizing d with
  | nil => exact absurd rfl hne
  | cons p ps ih =>
    cases ps with
    | nil => exact absurd rfl hne
    | cons q qs =>
      cases qs with
      | nil => exact h.1
      | cons r rs => exact ⟨h.1, h.2.1, ih (by simp) h.2.2⟩

/-! ## Segments -/

/-- The pieces that count as arguments: all but an empty last one. -/
def keptPieces (t : Text) : List Text :=
  if (pieces 0 t).getLast? = some [] then (pieces 0 t).dropLast else pieces 0 t

theorem segments_eq (t : Text) : segments t = (keptPieces t).map trim := rfl

theorem wellCut_segments (hne : segments t ≠ []) : WellCut 0 (segments t) := by
  rw [segments_eq] at hne ⊢
  have hkept : WellCut 0 (keptPieces t) := by
    unfold keptPieces at hne ⊢
    split
    · rename_i hl
      rw [if_pos hl] at hne
      refine (wellCut_pieces 0 t).dropLast ?_
      rintro h
      exact hne (by rw [h]; rfl)
    · exact wellCut_pieces 0 t
  exact hkept.map fun p _ => ⟨depthOf_trim p, fun d h => uncut_trim h⟩

theorem trimmed_segments {s : Text} (h : s ∈ segments t) : Trimmed s := by
  obtain ⟨p, -, rfl⟩ := List.mem_map.mp h
  exact trimmed_trim p

theorem mem_of_mem_segments {s : Text} {c : Char} (h : s ∈ segments t) (hc : c ∈ s) : c ∈ t := by
  rw [segments_eq] at h
  obtain ⟨p, hp, rfl⟩ := List.mem_map.mp h
  have hp' : p ∈ pieces 0 t := by
    unfold keptPieces at hp
    split at hp
    · exact List.dropLast_subset _ hp
    · exact hp
  rw [← intercalate_pieces 0 t]
  exact mem_intercalate_of_mem hp' (mem_of_mem_trim hc)

theorem intercalate_comma_space (s : Text) (ss : List Text) :
    List.intercalate ", ".toList (s :: ss) =
      List.intercalate [','] (s :: ss.map fun p => ' ' :: p) := by
  induction ss generalizing s with
  | nil => rw [List.map_nil, List.intercalate_singleton, List.intercalate_singleton]
  | cons p ss ih =>
    have hspace := intercalate_onFirst ' ' (List.cons_ne_nil p (ss.map fun p => ' ' :: p)) [',']
    rw [onFirst] at hspace
    rw [List.intercalate_cons_cons, ih, List.map_cons, List.intercalate_cons_cons, hspace]
    simp

/-- The space after a comma is white space at the front of the piece that follows. -/
theorem WellCut.spaced {s : Text} {ss : List Text} (h : WellCut d (s :: ss)) :
    WellCut d (s :: ss.map fun p => ' ' :: p) := by
  cases ss with
  | nil => exact h
  | cons q qs =>
    refine ⟨h.1, h.2.1, h.2.2.map fun p _ => ⟨?_, fun d hp => ?_⟩⟩
    · rw [depthOf_cons, depthChange_blank rfl, Int.zero_add]
    · refine ⟨by simp, ?_⟩
      rwa [depthChange_blank rfl, Int.add_zero]

/-- Texts that a cut could leave are the pieces of the text that joins them. -/
theorem segments_intercalate (hcut : WellCut 0 ps) (hlast : ps.getLast? ≠ some []) :
    segments (List.intercalate [','] ps) = ps.map trim := by
  rw [segments_eq, keptPieces, pieces_intercalate hcut, if_neg hlast]

/-- Texts that a cut could leave are found again, trimmed, in the text that joins them. -/
theorem segments_join {ss : List Text} (hcut : WellCut 0 ss) (hne : ∀ s ∈ ss, s ≠ []) :
    segments (List.intercalate ", ".toList ss) = ss.map trim := by
  obtain ⟨s, ss, rfl⟩ := List.exists_cons_of_ne_nil hcut.ne_nil
  -- an empty last piece would not count, but only the first could be empty
  have hlast : (s :: ss.map fun p => ' ' :: p).getLast? ≠ some [] := by
    intro hl
    rcases List.mem_cons.mp (List.mem_of_getLast? hl) with hs | hs
    · exact hne s List.mem_cons_self hs.symm
    · simp at hs
  rw [intercalate_comma_space, segments_intercalate hcut.spaced hlast]
  simp only [List.map_cons, List.map_map, Function.comp_def, trim_space]

end PrimitiveSearch.Declaration

namespace PrimitiveSearch

open Text

/-! ## Parameters -/

/-- What follows the type of an argument is nothing, or a space and an identifier. -/
theorem Parameter.ofSegment_cases (segment : Text) :
    ofSegment segment = ⟨segment, none⟩ ∨ ∃ typeText name, isIdentifier name = true ∧
      ofSegment segment = ⟨typeText, some name⟩ ∧ segment = typeText ++ ' ' :: name := by
  unfold ofSegment
  split
  · rename_i typeText name hcut
    split
    · rename_i hname
      exact .inr ⟨typeText, name, hname, rfl, (cutAtLast_singleton_eq_some_iff.mp hcut).1⟩
    · exact .inl rfl
  · exact .inl rfl

@[simp] theorem Parameter.text_ofSegment (s : Text) : (ofSegment s).text = s := by
  rcases ofSegment_cases s with h | ⟨typeText, name, -, h, hs⟩
  · rw [h, text]
  · rw [h, hs, text]

namespace Signature

/-- The argument texts that a signature is made of. -/
def argumentTexts (arguments : Text) : List Text :=
  if isBlankText arguments then [] else Declaration.segments arguments

theorem parameters?_eq_some_iff {arguments : Text} {ps : List Parameter} :
    parameters? arguments = some ps ↔ (∀ s ∈ argumentTexts arguments, s ≠ []) ∧
      ps = (argumentTexts arguments).map Parameter.ofSegment := by
  show (if (argumentTexts arguments).any List.isEmpty then none
    else some ((argumentTexts arguments).map Parameter.ofSegment)) = some ps ↔ _
  by_cases hany : (argumentTexts arguments).any List.isEmpty = true
  · rw [if_pos hany]
    obtain ⟨s, hs, hempty⟩ := List.any_eq_true.mp hany
    constructor
    · intro h
      cases h
    · rintro ⟨h, -⟩
      exact absurd (List.isEmpty_iff.mp hempty) (h s hs)
  · rw [if_neg hany]
    have hne : ∀ s ∈ argumentTexts arguments, s ≠ [] := by
      rintro s hs rfl
      exact hany (List.any_eq_true.mpr ⟨[], hs, rfl⟩)
    constructor
    · intro h
      cases h
      exact ⟨hne, rfl⟩
    · rintro ⟨-, rfl⟩
      rfl

theorem map_text_parameters? {arguments : Text} {ps : List Parameter}
    (h : parameters? arguments = some ps) : ps.map Parameter.text = argumentTexts arguments := by
  rw [(parameters?_eq_some_iff.mp h).2, List.map_map]
  conv => rhs; rw [← List.map_id (argumentTexts arguments)]
  exact List.map_congr_left fun s _ => Parameter.text_ofSegment s

theorem trimmed_argumentTexts {arguments s : Text} (h : s ∈ argumentTexts arguments) :
    Trimmed s := by
  unfold argumentTexts at h
  split at h
  · cases h
  · exact Declaration.trimmed_segments h

theorem mem_of_mem_argumentTexts {arguments s : Text} {c : Char}
    (h : s ∈ argumentTexts arguments) (hc : c ∈ s) : c ∈ arguments := by
  unfold argumentTexts at h
  split at h
  · cases h
  · exact Declaration.mem_of_mem_segments h hc

/-- Texts that a cut could leave are the argument texts, trimmed, of the text that joins them. -/
theorem argumentTexts_join {ss : List Text} (hcut : ss ≠ [] → Declaration.WellCut 0 ss)
    (hne : ∀ s ∈ ss, ¬ Blank s) :
    argumentTexts (List.intercalate ", ".toList ss) = ss.map trim := by
  by_cases hnil : ss = []
  · subst hnil
    rfl
  · -- a first argument shows as something other than white space
    have hjoin : ¬ isBlankText (List.intercalate ", ".toList ss) = true := by
      obtain ⟨s, rest, rfl⟩ := List.exists_cons_of_ne_nil hnil
      intro hb
      exact hne s List.mem_cons_self fun c hc =>
        isBlankText_iff.mp hb c (mem_intercalate_of_mem List.mem_cons_self hc)
    rw [argumentTexts, if_neg hjoin]
    refine Declaration.segments_join (hcut hnil) fun s hs => ?_
    rintro rfl
    exact hne [] hs blank_nil

theorem wellCut_argumentTexts {arguments : Text} (hne : argumentTexts arguments ≠ []) :
    Declaration.WellCut 0 (argumentTexts arguments) := by
  unfold argumentTexts at hne ⊢
  split at hne
  · exact absurd rfl hne
  · rename_i hblank
    rw [if_neg hblank]
    exact Declaration.wellCut_segments hne

theorem argumentTexts_intercalate {arguments : Text}
    (h : ∀ s ∈ argumentTexts arguments, s ≠ []) :
    argumentTexts (List.intercalate ", ".toList (argumentTexts arguments)) =
      argumentTexts arguments := by
  have htrim := fun s (hs : s ∈ argumentTexts arguments) => trimmed_argumentTexts hs
  rw [argumentTexts_join wellCut_argumentTexts fun s hs => (htrim s hs).not_blank (h s hs)]
  conv => rhs; rw [← List.map_id (argumentTexts arguments)]
  exact List.map_congr_left fun s hs => trim_eq_self (htrim s hs)

/-- **Parameters are read back** from the text that joins them. -/
theorem parameters?_intercalate {arguments : Text} {ps : List Parameter}
    (h : parameters? arguments = some ps) :
    parameters? (List.intercalate ", ".toList (ps.map Parameter.text)) = some ps := by
  obtain ⟨hne, hps⟩ := parameters?_eq_some_iff.mp h
  have htexts := argumentTexts_intercalate hne
  rw [map_text_parameters? h, parameters?_eq_some_iff, htexts]
  exact ⟨hne, hps⟩

end Signature

end PrimitiveSearch
