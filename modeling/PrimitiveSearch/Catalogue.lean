import PrimitiveSearch.Catalogue.Index
import PrimitiveSearch.Declaration.Signature

/-!
# The catalogue of primitives

A source marks the primitives it offers by lines that start with `///`, followed by a declaration
and, after `//`, a description.  The catalogue holds the declarations that can be read, in source
order, each written form once; the first occurrence wins.

* `Catalogue.parse` — the catalogue of a source; lines that cannot be read are left out.
* `Catalogue.find?`, `Catalogue.findName?` — look-up by written form and by name.
-/

set_option autoImplicit false

namespace PrimitiveSearch

/-- An annotated line: its text without the sentinel, and the signature read from it. -/
structure Entry where
  note : Text
  signature : Signature
  deriving DecidableEq, Repr

/-- The written form of an entry's signature. -/
def Entry.key (e : Entry) : Text := e.signature.key

/-- The name of an entry's signature. -/
def Entry.name (e : Entry) : Text := e.signature.name

/-- The primitives on offer, in source order; no two share their written form.  One index leads to
them by written form and one by name. -/
structure Catalogue where
  entries : List Entry
  byKey : Index
  byName : Index
  distinct : (entries.map Entry.key).Nodup
  keyed : IsIndex Entry.key entries byKey
  named : IsIndex Entry.name entries byName

namespace Catalogue

/-- The mark of an annotated line. -/
def sentinel : Text := "///"

/-- The mark between a declaration and its description. -/
def descriptionMark : Text := "//"

/-- The catalogue without entries. -/
def empty : Catalogue := ⟨[], [], [], List.nodup_nil, isIndex_nil _, isIndex_nil _⟩

/-- A declaration and its description: what stands before and after the last mark. -/
def cutNote (note : Text) : Text × Text :=
  match Text.cutAtLast descriptionMark note with
  | some (declaration, description) => (declaration, Text.trim description)
  | none => (note, [])

/-- The entry that a note denotes, if its declaration can be read. -/
def entry? (note : Text) : Option Entry :=
  let (declaration, description) := cutNote note
  (Signature.parse? declaration).map fun s =>
    ⟨Text.trim note, { s with description := description }⟩

/-- The entry on a line of a source, if it is annotated and can be read. -/
def lineEntry? (line : Text) : Option Entry :=
  (Text.after? sentinel (Text.trim line)).bind entry?

theorem nodup_concat {keys : List Text} {k : Text} (h : keys.Nodup) (hk : k ∉ keys) :
    (keys ++ [k]).Nodup := by
  rw [List.nodup_append]
  refine ⟨h, by simp, fun a ha b hb => ?_⟩
  rw [List.mem_singleton] at hb
  exact fun hab => hk (hb ▸ hab ▸ ha)

/-- One more entry, unless its written form is taken.  A name that is taken keeps leading to the
entry it leads to. -/
def add (c : Catalogue) (e : Entry) : Catalogue :=
  if h : (c.byKey.place? e.key).isSome then c
  else
    { entries := c.entries ++ [e]
      byKey := c.byKey.put e.key c.entries.length
      byName := c.byName.putNew e.name c.entries.length
      distinct := by
        rw [List.map_append, List.map_singleton]
        exact nodup_concat c.distinct fun hmem => h ((c.keyed.isSome_place?_iff e.key).mpr hmem)
      keyed := c.keyed.put h
      named := c.named.putNew e }

/-- The catalogue of a source. -/
def parse (source : Text) : Catalogue :=
  ((Text.lines source).filterMap lineEntry?).foldl add empty

/-- The signatures, in source order. -/
def signatures (c : Catalogue) : List Signature := c.entries.map Entry.signature

/-- The signature at a place. -/
def signatureAt? (c : Catalogue) (i : Nat) : Option Signature := c.entries[i]?.map Entry.signature

/-- The signature with a given written form. -/
def find? (c : Catalogue) (key : Text) : Option Signature :=
  (c.byKey.place? key).bind c.signatureAt?

/-- The first signature with a given name. -/
def findName? (c : Catalogue) (name : Text) : Option Signature :=
  (c.byName.place? name).bind c.signatureAt?

/-- Whether a primitive has a given name. -/
def hasName (c : Catalogue) (name : Text) : Bool := (c.byName.place? name).isSome

/-- The number of entries. -/
def size (c : Catalogue) : Nat := c.entries.length

end Catalogue

end PrimitiveSearch
