import PrimitiveSearch.Proofs.Declaration.Arguments

/-!
# Arguments joined with commas

Depth, in terms of how often each bracket occurs, and the cut at the commas as the inverse of
joining.

* `Sheltered` — every comma stands where the brackets before it are not closed; `uncut_zero_iff`.
* `wellCut_zero_iff` — what the cut leaves, piece by piece.
* `Argument` — a text that can stand between two commas, and the white space around it there.
* `segments_undo_join` — arguments are found again in the text that joins them; conversely,
  whatever text is cut, its segments are almost arguments and are found again if none is empty.
-/

set_option autoImplicit false

namespace PrimitiveSearch.Declaration

open Text

variable {t : Text} {ps : List Text} {d : Int}

/-! ## Depth as a number of brackets -/

theorem depthOf_eq_count (t : Text) : depthOf t = (t.count '<' : Int) - (t.count '>' : Int) := by
  induction t with
  | nil => rfl
  | cons c rest ih =>
    have hchange : depthChange c = (if c = '<' then 1 else 0) - (if c = '>' then 1 else 0) := by
      unfold depthChange
      by_cases hopen : c = '<'
      · subst hopen
        rfl
      · rw [if_neg hopen, if_neg hopen]
        split <;> rfl
    rw [depthOf_cons, ih, hchange, List.count_cons, List.count_cons]
    simp only [beq_iff_eq]
    split <;> split <;> omega

theorem depthOf_eq_zero_iff : depthOf t = 0 ↔ t.count '<' = t.count '>' := by
  rw [depthOf_eq_count]
  omega

/-- No comma stands at depth zero, said of each comma. -/
theorem uncut_iff : Uncut d t ↔ ∀ u v, t = u ++ ',' :: v → d + depthOf u ≠ 0 := by
  induction t generalizing d with
  | nil => simp [Uncut]
  | cons c rest ih =>
    rw [Uncut, ih]
    constructor
    · rintro ⟨hfirst, hrest⟩ u v h
      cases u with
      | nil =>
        obtain ⟨rfl, -⟩ := List.cons.inj h
        intro hd
        exact hfirst ⟨rfl, by simpa [depthOf] using hd⟩
      | cons e u =>
        obtain ⟨rfl, rfl⟩ := List.cons.inj h
        rw [depthOf_cons, ← Int.add_assoc]
        exact hrest u v rfl
    · intro h
      refine ⟨?_, fun u v hu => ?_⟩
      · rintro ⟨rfl, rfl⟩
        exact h [] rest rfl rfl
      · rw [Int.add_assoc, ← depthOf_cons]
        exact h (c :: u) v (by rw [hu, List.cons_append])

/-- Every comma stands where the brackets before it are not closed. -/
def Sheltered (t : Text) : Prop := ∀ u v, t = u ++ ',' :: v → u.count '<' ≠ u.count '>'

theorem uncut_zero_iff : Uncut 0 t ↔ Sheltered t := by
  simp only [uncut_iff, Sheltered, Int.zero_add, ne_eq, depthOf_eq_zero_iff]

instance (t : Text) : Decidable (Sheltered t) := decidable_of_iff _ uncut_zero_iff

/-! ## The cut, piece by piece -/

theorem wellCut_zero_iff : WellCut 0 ps ↔
    ps ≠ [] ∧ (∀ p ∈ ps, Uncut 0 p) ∧ ∀ p ∈ ps.dropLast, depthOf p = 0 := by
  induction ps with
  | nil => simp [WellCut]
  | cons p ps ih =>
    cases ps with
    | nil => simp [WellCut]
    | cons q qs =>
      rw [WellCut, ih, List.dropLast_cons_of_ne_nil (List.cons_ne_nil q qs), Int.zero_add]
      constructor
      · rintro ⟨hp, hzero, -, huncut, hlevel⟩
        exact ⟨List.cons_ne_nil p _, List.forall_mem_cons.mpr ⟨hp, huncut⟩,
          List.forall_mem_cons.mpr ⟨hzero, hlevel⟩⟩
      · rintro ⟨-, huncut, hlevel⟩
        obtain ⟨hp, huncut⟩ := List.forall_mem_cons.mp huncut
        obtain ⟨hzero, hlevel⟩ := List.forall_mem_cons.mp hlevel
        exact ⟨hp, hzero, List.cons_ne_nil q qs, huncut, hlevel⟩

/-! ## Arguments -/

/-- A text that can stand between two commas, and the white space around it there. -/
structure Argument where
  text : Text
  before : Text
  after : Text
  ne_nil : text ≠ []
  trimmed : Trimmed text
  /-- As many brackets are closed as are opened. -/
  closed : text.count '<' = text.count '>'
  sheltered : Sheltered text
  before_blank : Blank before
  after_blank : Blank after

namespace Argument

/-- An argument with its white space. -/
def padded (a : Argument) : Text := a.before ++ (a.text ++ a.after)

@[simp] theorem trim_padded (a : Argument) : trim a.padded = a.text := by
  rw [padded, trim_append_append a.before a.trimmed a.ne_nil,
    trimFront_eq_nil_of_blank a.before_blank, trimBack_eq_nil_of_blank a.after_blank,
    List.nil_append, List.append_nil]

theorem padded_ne_nil (a : Argument) : a.padded ≠ [] := by
  simp [padded, a.ne_nil]

@[simp] theorem depthOf_padded (a : Argument) : depthOf a.padded = 0 := by
  rw [← depthOf_trim, a.trim_padded]
  exact depthOf_eq_zero_iff.mpr a.closed

theorem uncut_padded (a : Argument) : Uncut 0 a.padded := by
  rw [padded, uncut_append, uncut_append, depthOf_blank a.before_blank,
    depthOf_eq_zero_iff.mpr a.closed]
  exact ⟨uncut_blank a.before_blank 0, uncut_zero_iff.mpr a.sheltered, uncut_blank a.after_blank _⟩

end Argument

theorem wellCut_padded {as : List Argument} (hne : as ≠ []) :
    WellCut 0 (as.map Argument.padded) := by
  refine wellCut_zero_iff.mpr ⟨by simpa using hne, fun p hp => ?_, fun p hp => ?_⟩
  · obtain ⟨a, -, rfl⟩ := List.mem_map.mp hp
    exact a.uncut_padded
  · obtain ⟨a, -, rfl⟩ := List.mem_map.mp (List.dropLast_subset _ hp)
    exact a.depthOf_padded

theorem segments_padded (as : List Argument) :
    segments (List.intercalate [','] (as.map Argument.padded)) = as.map Argument.text := by
  by_cases hne : as = []
  · subst hne
    rfl
  · have hlast : (as.map Argument.padded).getLast? ≠ some [] := fun h => by
      obtain ⟨a, -, ha⟩ := List.mem_map.mp (List.mem_of_getLast? h)
      exact a.padded_ne_nil ha
    rw [segments_intercalate (wellCut_padded hne) hlast, List.map_map]
    exact List.map_congr_left fun a _ => a.trim_padded

/-- **Cutting arguments undoes joining them.**  Arguments with white space around them are found
again in the text that joins them with commas.  Whatever text is cut, each segment is trimmed and
has no comma outside of its brackets, all but the last close their brackets, and if none is empty
then joining them keeps them. -/
theorem segments_undo_join (as : List Argument) (t : Text) :
    segments (List.intercalate [','] (as.map Argument.padded)) = as.map Argument.text ∧
    (∀ s ∈ segments t, Trimmed s ∧ Sheltered s) ∧
    (∀ s ∈ (segments t).dropLast, s.count '<' = s.count '>') ∧
    ((∀ s ∈ segments t, s ≠ []) →
      segments (List.intercalate ", ".toList (segments t)) = segments t) := by
  refine ⟨segments_padded as, ?_⟩
  by_cases hnil : segments t = []
  · rw [hnil]
    exact ⟨by simp, by simp, fun _ => rfl⟩
  · have hcut := wellCut_segments hnil
    obtain ⟨-, huncut, hlevel⟩ := wellCut_zero_iff.mp hcut
    refine ⟨fun s hs => ⟨trimmed_segments hs, uncut_zero_iff.mp (huncut s hs)⟩,
      fun s hs => depthOf_eq_zero_iff.mp (hlevel s hs), fun hne => ?_⟩
    rw [segments_join hcut hne]
    exact (List.map_congr_left fun s hs => trim_eq_self (trimmed_segments hs)).trans
      (List.map_id _)

/-- Brackets within brackets, and white space around the arguments. -/
theorem segments_undo_join_nested :
    let pair : Argument := {
      text := "std::map<int, std::pair<A<B, C>, D>> a"
      before := [' ']
      after := ['\t', ' ']
      ne_nil := by decide
      trimmed := by decide
      closed := by decide
      sheltered := by decide
      before_blank := List.all_eq_true.mp rfl
      after_blank := List.all_eq_true.mp rfl }
    let flag : Argument := {
      text := "bool"
      before := []
      after := [' ']
      ne_nil := by decide
      trimmed := by decide
      closed := by decide
      sheltered := by decide
      before_blank := List.all_eq_true.mp rfl
      after_blank := List.all_eq_true.mp rfl }
    let t : Text := " std::map<int, std::pair<A<B, C>, D>> a\t ,bool , std::map<int, bool> b"
    segments " std::map<int, std::pair<A<B, C>, D>> a\t ,bool " = [pair.text, flag.text] ∧
      segments t = [pair.text, flag.text, "std::map<int, bool> b"] ∧
      (∀ s ∈ segments t, Trimmed s ∧ Sheltered s) ∧
      segments (List.intercalate ", ".toList (segments t)) = segments t := by
  intro pair flag t
  obtain ⟨hjoined, hsegments, -, hagain⟩ := segments_undo_join [pair, flag] t
  have ht : segments t = [pair.text, flag.text, "std::map<int, bool> b"] := by decide
  refine ⟨hjoined, ht, hsegments, hagain ?_⟩
  rw [ht]
  decide

/-- Commas between brackets cut nothing, also between brackets that are never closed. -/
example : segments "std::vector<std::pair<int, int>> a,\tint b, map<int, bool c" =
    ["std::vector<std::pair<int, int>> a", "int b", "map<int, bool c"].map String.toList := by
  decide

end PrimitiveSearch.Declaration
