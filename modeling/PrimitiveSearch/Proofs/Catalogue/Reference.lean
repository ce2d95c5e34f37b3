import PrimitiveSearch.Proofs.Catalogue.Annotation
import PrimitiveSearch.Proofs.Catalogue.Lookup

/-!
# What the catalogue of a source is

* `entries_foldl_add` — adding entries one by one keeps, of each written form, the first.
* `IsCatalogueOf` — the definition of the catalogue of a source, by its entries and its look-ups.
* `Extends` — a catalogue goes on where another ends; no look-up that succeeds is changed.
* `filterMap_lines_append` — the entries on the lines of two texts, one after the other.
* `parse_reference` — `Catalogue.parse` gives the catalogue of its source, and a longer source
  extends it.
-/

set_option autoImplicit false

namespace PrimitiveSearch.Catalogue

open Text

variable {c d : Catalogue}

/-! ## The first of each written form -/

/-- Two entries with one written form. -/
def sameKey (d e : Entry) : Bool := d.key == e.key

theorem entries_add (c : Catalogue) (e : Entry) :
    (c.add e).entries = if e.key ∈ c.entries.map Entry.key then c.entries else c.entries ++ [e] := by
  have hiff := c.keyed.isSome_place?_iff e.key
  unfold add
  split
  · rename_i h
    rw [if_pos (hiff.mp h)]
  · rename_i h
    rw [if_neg fun hmem => h (hiff.mpr hmem)]

/-- Of the new entries those are added whose written form is not taken, each form once. -/
theorem entries_foldl_add (c : Catalogue) (es : List Entry) : (es.foldl add c).entries =
    c.entries ++ (es.filter fun e => e.key ∉ c.entries.map Entry.key).eraseDupsBy sameKey := by
  induction es generalizing c with
  | nil => exact (List.append_nil c.entries).symm
  | cons e es ih =>
    rw [List.foldl_cons, ih, entries_add]
    by_cases htaken : e.key ∈ c.entries.map Entry.key
    · rw [if_pos htaken, List.filter_cons_of_neg (by simpa using htaken)]
    · rw [if_neg htaken, List.filter_cons_of_pos (by simpa using htaken), List.eraseDupsBy_cons,
        List.filter_filter, List.append_assoc, List.singleton_append]
      congr 3
      refine List.filter_congr fun b _ => ?_
      by_cases hb : b.key = e.key <;> simp [sameKey, hb]

theorem entries_parse (source : Text) : (parse source).entries =
    ((lines source).filterMap lineEntry?).eraseDupsBy sameKey := by
  rw [parse, entries_foldl_add]
  simp [empty]

theorem mem_entries_foldl_add {e : Entry} {es : List Entry} (h : e ∈ (es.foldl add c).entries) :
    e ∈ c.entries ∨ e ∈ es := by
  induction es generalizing c with
  | nil => exact .inl h
  | cons d es ih =>
    rcases ih h with h | h
    · rw [entries_add] at h
      split at h
      · exact .inl h
      · rcases List.mem_append.mp h with h | h
        · exact .inl h
        · rw [List.mem_singleton.mp h]
          exact .inr List.mem_cons_self
    · exact .inr (List.mem_cons_of_mem d h)

/-- No written form is lost. -/
theorem mem_keys_foldl_add {key : Text} {es : List Entry} :
    key ∈ (es.foldl add c).entries.map Entry.key ↔
      key ∈ c.entries.map Entry.key ∨ key ∈ es.map Entry.key := by
  induction es generalizing c with
  | nil => simp
  | cons e es ih =>
    have hadd : key ∈ (c.add e).entries.map Entry.key ↔
        key ∈ c.entries.map Entry.key ∨ key = e.key := by
      rw [entries_add]
      split
      · rename_i htaken
        constructor
        · exact Or.inl
        · rintro (h | rfl)
          · exact h
          · exact htaken
      · simp
    rw [List.foldl_cons, ih, hadd, List.map_cons, List.mem_cons, or_assoc]

/-- Every entry is on a line of the source. -/
theorem exists_line {source : Text} {e : Entry} (h : e ∈ (parse source).entries) :
    ∃ line ∈ lines source, Annotates line e := by
  rcases mem_entries_foldl_add h with h | h
  · cases h
  · obtain ⟨line, hline, he⟩ := List.mem_filterMap.mp h
    exact ⟨line, hline, lineEntry?_eq_some_iff.mp he⟩

/-- The written form of every annotated declaration is that of an entry. -/
theorem exists_entry {source line : Text} {e : Entry} (hline : line ∈ lines source)
    (h : Annotates line e) : ∃ d ∈ (parse source).entries, d.key = e.key := by
  have he : e ∈ (lines source).filterMap lineEntry? :=
    List.mem_filterMap.mpr ⟨line, hline, lineEntry?_eq_some_iff.mpr h⟩
  exact List.mem_map.mp (mem_keys_foldl_add.mpr (.inr (List.mem_map_of_mem he)))

/-! ## The definition of the catalogue -/

/-- What makes a catalogue the one of a source. -/
structure IsCatalogueOf (source : Text) (c : Catalogue) : Prop where
  /-- The entries are those on the lines of the source, in order, of each written form the
  first. -/
  entries : ∃ found, Annotated (lines source) found ∧ c.entries = found.eraseDupsBy sameKey
  distinct : (c.entries.map Entry.key).Nodup
  /-- What is found by a written form is the entry with exactly that form. -/
  find : ∀ key s, c.find? key = some s ↔ ∃ e ∈ c.entries, e.key = key ∧ e.signature = s
  /-- What is found by a name is the earliest entry with it. -/
  findName : ∀ name s, c.findName? name = some s ↔ ∃ before e after,
    c.entries = before ++ e :: after ∧ (∀ d ∈ before, d.name ≠ name) ∧ e.name = name ∧
      e.signature = s
  hasName : ∀ name, c.hasName name = true ↔ ∃ e ∈ c.entries, e.name = name

theorem isCatalogueOf_parse (source : Text) : IsCatalogueOf source (parse source) where
  entries := ⟨_, annotated_iff.mpr rfl, entries_parse source⟩
  distinct := (parse source).distinct
  find _ _ := find?_eq_some_iff
  findName _ _ := findName?_eq_some_iff
  hasName _ := hasName_iff

/-! ## Longer sources -/

/-- The entries of `d` go on where those of `c` end, and what is found in `c` is found in `d`. -/
structure Extends (c d : Catalogue) : Prop where
  entries : c.entries <+: d.entries
  find : ∀ key s, c.find? key = some s → d.find? key = some s
  findName : ∀ name s, c.findName? name = some s → d.findName? name = some s
  hasName : ∀ name, c.hasName name = true → d.hasName name = true

/-- The look-ups follow the entries. -/
theorem extends_of_isPrefix (h : c.entries <+: d.entries) : Extends c d where
  entries := h
  find key s hfind := by
    obtain ⟨e, he, hkey, hs⟩ := find?_eq_some_iff.mp hfind
    exact find?_eq_some_iff.mpr ⟨e, h.subset he, hkey, hs⟩
  findName name s hfind := by
    obtain ⟨before, e, after, hentries, hfirst⟩ := findName?_eq_some_iff.mp hfind
    obtain ⟨more, hmore⟩ := h
    refine findName?_eq_some_iff.mpr ⟨before, e, after ++ more, ?_, hfirst⟩
    rw [← hmore, hentries, List.append_assoc, List.cons_append]
  hasName name hname := by
    obtain ⟨e, he, hename⟩ := hasName_iff.mp hname
    exact hasName_iff.mpr ⟨e, h.subset he, hename⟩

/-- White space at the ends of a line does not matter for the entry on it. -/
theorem filterMap_lines (t : Text) : (lines t).filterMap lineEntry? =
    (trimLines t).filterMap fun line => (after? sentinel line).bind entry? := by
  rw [List.filterMap_map]
  rfl

/-- A line feed between two texts separates the entries on their lines. -/
theorem filterMap_lines_append (t u : Text) : (lines (t ++ '\n' :: u)).filterMap lineEntry? =
    (lines t).filterMap lineEntry? ++ (lines u).filterMap lineEntry? := by
  obtain ⟨ls, hempty, hend⟩ := trimLines_newline t
  have hnone : ls.filterMap (fun line => (after? sentinel line).bind entry?) = [] := by
    rw [List.filterMap_eq_nil_iff]
    intro line hline
    rw [hempty line hline]
    rfl
  rw [filterMap_lines, trimLines_append, hend, List.filterMap_append, List.filterMap_append, hnone,
    List.append_nil, ← filterMap_lines, ← filterMap_lines]

theorem extends_parse (source more : Text) :
    Extends (parse source) (parse (source ++ '\n' :: more)) := by
  apply extends_of_isPrefix
  have hfold : parse (source ++ '\n' :: more) =
      ((lines more).filterMap lineEntry?).foldl add (parse source) := by
    rw [parse, filterMap_lines_append, List.foldl_append]
    rfl
  rw [hfold, entries_foldl_add]
  exact List.prefix_append _ _

/-- **The catalogue of a source is what its definition says**, entries and look-ups alike; and a
source that goes on after a line feed has a catalogue that goes on. -/
theorem parse_reference (source : Text) :
    IsCatalogueOf source (parse source) ∧
      ∀ more, Extends (parse source) (parse (source ++ '\n' :: more)) :=
  ⟨isCatalogueOf_parse source, extends_parse source⟩

end PrimitiveSearch.Catalogue
