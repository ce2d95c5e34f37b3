import PrimitiveSearch.Catalogue

/-!
# Look-ups in a catalogue

* `find?_eq`, `findName?_eq` — the indexes lead to what a search of the entries finds.
* `find?_eq_some_iff`, `findName?_eq_some_iff`, `hasName_iff` — hence what the look-ups find: the
  one entry with a written form, and the earliest with a name.
-/

set_option autoImplicit false

namespace PrimitiveSearch.Catalogue

variable {c : Catalogue} {key name : Text} {s : Signature} {e : Entry}

theorem bind_signatureAt? (c : Catalogue) {f : Entry → Text} {ix : Index}
    (h : IsIndex f c.entries ix) (t : Text) :
    (ix.place? t).bind c.signatureAt? = (c.entries.find? fun e => f e == t).map Entry.signature := by
  rw [← h.bind_getElem? t, Option.map_bind]
  rfl

theorem find?_eq (c : Catalogue) (key : Text) :
    c.find? key = (c.entries.find? fun e => e.key == key).map Entry.signature :=
  bind_signatureAt? c c.keyed key

theorem findName?_eq (c : Catalogue) (name : Text) :
    c.findName? name = (c.entries.find? fun e => e.name == name).map Entry.signature :=
  bind_signatureAt? c c.named name

/-- No other entry has the written form of an entry. -/
theorem find?_key (h : e ∈ c.entries) : c.find? e.key = some e.signature := by
  obtain ⟨before, after, hentries⟩ := List.append_of_mem h
  have hbefore : ∀ d ∈ before, d.key ≠ e.key := by
    have hdistinct := c.distinct
    rw [hentries, List.map_append, List.map_cons, List.nodup_append] at hdistinct
    exact fun d hd => hdistinct.2.2 d.key (List.mem_map_of_mem hd) e.key List.mem_cons_self
  rw [find?_eq, hentries, List.find?_append, List.find?_eq_none.mpr, Option.none_or,
    List.find?_cons_of_pos (by simp)]
  · rfl
  · simpa using hbefore

theorem find?_eq_some_iff :
    c.find? key = some s ↔ ∃ e ∈ c.entries, e.key = key ∧ e.signature = s := by
  constructor
  · intro h
    rw [find?_eq] at h
    obtain ⟨e, he, rfl⟩ := Option.map_eq_some_iff.mp h
    exact ⟨e, List.mem_of_find?_eq_some he, by simpa using List.find?_some he, rfl⟩
  · rintro ⟨e, he, rfl, rfl⟩
    exact find?_key he

theorem findName?_eq_some_iff : c.findName? name = some s ↔ ∃ before e after,
    c.entries = before ++ e :: after ∧ (∀ d ∈ before, d.name ≠ name) ∧ e.name = name ∧
      e.signature = s := by
  rw [findName?_eq]
  constructor
  · intro h
    obtain ⟨e, he, rfl⟩ := Option.map_eq_some_iff.mp h
    obtain ⟨hname, before, after, hentries, hbefore⟩ := List.find?_eq_some_iff_append.mp he
    exact ⟨before, e, after, hentries, by simpa using hbefore, by simpa using hname, rfl⟩
  · rintro ⟨before, e, after, hentries, hbefore, hname, rfl⟩
    have he : c.entries.find? (fun e => e.name == name) = some e :=
      List.find?_eq_some_iff_append.mpr
        ⟨by simpa using hname, before, after, hentries, by simpa using hbefore⟩
    rw [he]
    rfl

theorem hasName_iff : c.hasName name = true ↔ ∃ e ∈ c.entries, e.name = name := by
  rw [hasName, c.named.isSome_place?_iff, List.mem_map]

end PrimitiveSearch.Catalogue
