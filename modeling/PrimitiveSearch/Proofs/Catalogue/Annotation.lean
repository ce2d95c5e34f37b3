import PrimitiveSearch.Catalogue
import PrimitiveSearch.Proofs.Text.Lines

/-!
# Annotated lines

What the lines of a source denote, said without the functions that read them.

* `IsCut` — a note, its declaration and its description; `cutNote_eq_iff`.
* `Annotates` — a line and the entry on it; `lineEntry?_eq_some_iff`.
* `Annotated` — lines and the entries on them; `annotated_iff`.
-/

set_option autoImplicit false

namespace PrimitiveSearch.Catalogue

open Text

variable {note declaration description line : Text} {e : Entry} {ls : List Text} {es : List Entry}

/-- A note is a declaration and, after its last mark, a description.  Without a mark there is only
the declaration. -/
inductive IsCut : Text → Text → Text → Prop where
  /-- After the first character of the last mark no mark begins any more. -/
  | marked {declaration rest : Text}
      (last : ¬ descriptionMark <:+: List.tail (descriptionMark ++ rest)) :
      IsCut (declaration ++ (descriptionMark ++ rest)) declaration (trim rest)
  | unmarked {note : Text} (absent : ¬ descriptionMark <:+: note) : IsCut note note []

theorem descriptionMark_ne_nil : descriptionMark ≠ [] := by decide

theorem cutNote_eq_iff :
    cutNote note = (declaration, description) ↔ IsCut note declaration description := by
  unfold cutNote
  constructor
  · intro h
    split at h
    · rename_i front back hcut
      obtain ⟨rfl, hlast⟩ := (cutAtLast_eq_some_iff descriptionMark_ne_nil).mp hcut
      obtain ⟨rfl, rfl⟩ := Prod.mk.inj h
      exact .marked hlast
    · rename_i hcut
      obtain ⟨rfl, rfl⟩ := Prod.mk.inj h
      exact .unmarked ((cutAtLast_eq_none_iff descriptionMark_ne_nil).mp hcut)
  · intro h
    cases h with
    | marked hlast => rw [(cutAtLast_eq_some_iff descriptionMark_ne_nil).mpr ⟨rfl, hlast⟩]
    | unmarked habsent => rw [(cutAtLast_eq_none_iff descriptionMark_ne_nil).mpr habsent]

/-- A line denotes an entry if it starts with the sentinel after trimming and a declaration can be
read from the rest. -/
def Annotates (line : Text) (e : Entry) : Prop :=
  ∃ note declaration description s, trim line = sentinel ++ note ∧
    IsCut note declaration description ∧ Signature.parse? declaration = some s ∧
      e = ⟨trim note, { s with description := description }⟩

/-- What stands on a line has no line feed. -/
theorem newline_not_mem_declaration (hline : '\n' ∉ line) (htrim : trim line = sentinel ++ note)
    (hcut : IsCut note declaration description) : '\n' ∉ declaration := by
  intro hc
  have hnote : '\n' ∈ note := by
    cases hcut with
    | marked => exact List.mem_append_left _ hc
    | unmarked => exact hc
  refine hline (mem_of_mem_trim ?_)
  rw [htrim]
  exact List.mem_append_right _ hnote

/-- The entry that a line denotes was read from a declaration on this line. -/
theorem Annotates.exists_declaration (h : Annotates line e) (hline : '\n' ∉ line) :
    ∃ declaration description s, '\n' ∉ declaration ∧ Signature.parse? declaration = some s ∧
      e.signature = { s with description := description } := by
  obtain ⟨note, declaration, description, s, htrim, hcut, hs, rfl⟩ := h
  exact ⟨declaration, description, s, newline_not_mem_declaration hline htrim hcut, hs, rfl⟩

theorem entry?_of_isCut (h : IsCut note declaration description) :
    entry? note = (Signature.parse? declaration).map fun s =>
      ⟨trim note, { s with description := description }⟩ := by
  unfold entry?
  rw [cutNote_eq_iff.mpr h]

theorem entry?_eq_some_iff : entry? note = some e ↔ ∃ declaration description s,
    IsCut note declaration description ∧ Signature.parse? declaration = some s ∧
      e = ⟨trim note, { s with description := description }⟩ := by
  have hcut : IsCut note (cutNote note).1 (cutNote note).2 := cutNote_eq_iff.mp rfl
  constructor
  · intro h
    obtain ⟨s, hs, rfl⟩ := Option.map_eq_some_iff.mp h
    exact ⟨_, _, s, hcut, hs, rfl⟩
  · rintro ⟨declaration, description, s, hcut, hs, rfl⟩
    rw [entry?_of_isCut hcut, hs]
    rfl

theorem lineEntry?_of_trim (h : trim line = sentinel ++ note) : lineEntry? line = entry? note := by
  unfold lineEntry?
  rw [h, after?_append, Option.bind_some]

theorem lineEntry?_eq_some_iff : lineEntry? line = some e ↔ Annotates line e := by
  unfold lineEntry? Annotates
  rw [Option.bind_eq_some_iff]
  simp only [after?_eq_some_iff, entry?_eq_some_iff, exists_and_left]

theorem lineEntry?_eq_none_iff : lineEntry? line = none ↔ ∀ e, ¬ Annotates line e := by
  rw [Option.eq_none_iff_forall_ne_some]
  exact forall_congr' fun e => not_congr lineEntry?_eq_some_iff

/-- The entries that lines denote, in their order.  Lines that denote none are passed over. -/
inductive Annotated : List Text → List Entry → Prop where
  | nil : Annotated [] []
  | entry {line : Text} {e : Entry} {ls : List Text} {es : List Entry}
      (denotes : Annotates line e) (rest : Annotated ls es) : Annotated (line :: ls) (e :: es)
  | other {line : Text} {ls : List Text} {es : List Entry}
      (denotes : ∀ e, ¬ Annotates line e) (rest : Annotated ls es) : Annotated (line :: ls) es

theorem annotated_iff : Annotated ls es ↔ ls.filterMap lineEntry? = es := by
  constructor
  · intro h
    induction h with
    | nil => rfl
    | entry hline _ ih => rw [List.filterMap_cons_some (lineEntry?_eq_some_iff.mpr hline), ih]
    | other hline _ ih => rw [List.filterMap_cons_none (lineEntry?_eq_none_iff.mpr hline), ih]
  · rintro rfl
    induction ls with
    | nil => exact .nil
    | cons line ls ih =>
      cases hline : lineEntry? line with
      | none =>
        rw [List.filterMap_cons_none hline]
        exact .other (lineEntry?_eq_none_iff.mp hline) ih
      | some e =>
        rw [List.filterMap_cons_some hline]
        exact .entry (lineEntry?_eq_some_iff.mp hline) ih

end PrimitiveSearch.Catalogue
