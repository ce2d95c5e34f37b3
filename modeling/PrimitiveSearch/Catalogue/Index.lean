import PrimitiveSearch.Text.Basic

/-!
# Indexes

An index is a dictionary from texts to places in a list.

* `Index.place?`, `Index.put`, `Index.putNew` — look-up, and the two ways to add a pair.
* `IsIndex` — an index that leads from the text of every element to the first element with it;
  `IsIndex.putNew` and `IsIndex.put` keep it when the list grows.
-/

set_option autoImplicit false

namespace PrimitiveSearch

/-- A dictionary from texts to places.  Of several pairs with one text the first counts. -/
abbrev Index := List (Text × Nat)

namespace Index

/-- The place that a text leads to. -/
def place? (ix : Index) (t : Text) : Option Nat := ix.lookup t

/-- A pair is added; it hides a pair with the same text. -/
def put (ix : Index) (t : Text) (i : Nat) : Index := (t, i) :: ix

/-- A pair is added, unless its text leads somewhere already. -/
def putNew (ix : Index) (t : Text) (i : Nat) : Index :=
  if (ix.place? t).isSome then ix else ix.put t i

@[simp] theorem place?_put (ix : Index) (t : Text) (i : Nat) (u : Text) :
    (ix.put t i).place? u = if t = u then some i else ix.place? u := by
  unfold place? put
  rw [List.lookup_cons]
  by_cases h : t = u
  · rw [if_pos h, h, beq_self_eq_true]
  · rw [if_neg h, beq_eq_false_iff_ne.mpr (Ne.symm h)]

@[simp] theorem place?_putNew (ix : Index) (t : Text) (i : Nat) (u : Text) :
    (ix.putNew t i).place? u = (ix.place? u).or (if t = u then some i else none) := by
  unfold putNew
  split
  · rename_i h
    by_cases htu : t = u
    · subst htu
      obtain ⟨j, hj⟩ := Option.isSome_iff_exists.mp h
      rw [hj, Option.some_or]
    · rw [if_neg htu, Option.or_none]
  · rename_i h
    rw [place?_put]
    by_cases htu : t = u
    · subst htu
      rw [if_pos rfl, if_pos rfl, Option.not_isSome_iff_eq_none.mp h, Option.none_or]
    · rw [if_neg htu, if_neg htu, Option.or_none]

end Index

variable {α : Type} {f : α → Text} {es : List α} {ix : Index}

/-- Every text leads to the place of the first element with it, and other texts lead nowhere. -/
def IsIndex (f : α → Text) (es : List α) (ix : Index) : Prop :=
  ∀ t, ix.place? t = es.findIdx? fun e => f e == t

theorem isIndex_nil (f : α → Text) : IsIndex f [] [] := fun _ => rfl

/-- The index of a list that grows at its end: a text that is there already keeps its place. -/
theorem IsIndex.putNew (h : IsIndex f es ix) (e : α) :
    IsIndex f (es ++ [e]) (ix.putNew (f e) es.length) := by
  intro t
  rw [Index.place?_putNew, h t, List.findIdx?_append]
  congr 1
  by_cases ht : f e = t <;> simp [ht]

/-- A text that is not there yet may be put in without looking for it. -/
theorem IsIndex.put (h : IsIndex f es ix) {e : α} (hnew : ¬ (ix.place? (f e)).isSome) :
    IsIndex f (es ++ [e]) (ix.put (f e) es.length) := by
  have hput := h.putNew e
  rwa [Index.putNew, if_neg hnew] at hput

/-- The elements that an index leads to are those that a search from the front finds. -/
theorem IsIndex.bind_getElem? (h : IsIndex f es ix) (t : Text) :
    ((ix.place? t).bind fun i => es[i]?) = es.find? fun e => f e == t := by
  rw [h t]
  clear h
  induction es with
  | nil => rfl
  | cons e es ih =>
    rw [List.findIdx?_cons, List.find?_cons]
    cases he : f e == t with
    | true => rfl
    | false =>
      rw [← ih]
      cases es.findIdx? fun e => f e == t <;> rfl

theorem IsIndex.isSome_place?_iff (h : IsIndex f es ix) (t : Text) :
    (ix.place? t).isSome ↔ t ∈ es.map f := by
  rw [h t, List.findIdx?_isSome, List.any_eq_true, List.mem_map]
  simp only [beq_iff_eq]

end PrimitiveSearch
