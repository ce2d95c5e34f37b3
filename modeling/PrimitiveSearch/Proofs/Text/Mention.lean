import Mathlib.Data.List.Nodup
import PrimitiveSearch.Text.Basic

/-!
# The order of first mention

Things that are told apart by a text each are often listed in the order in which some other list
mentions these texts, every thing once.

* `InOrderOf` — this order.  `InOrderOf.eq` says that it leaves no choice once the members are
  known.
* `InOrderOf.mention`, `InOrderOf.add` — the order when one more text is mentioned.
* `IsFirsts` — of several elements with one text the first, in order; `IsFirsts.unique`.
-/

set_option autoImplicit false

namespace PrimitiveSearch.Text

variable {α : Type} {f : α → Text} {ks : List Text} {xs ys zs : List α} {y : α} {k : Text}

/-! ## Mentioned things -/

/-- Things in the order in which a list first mentions their texts. -/
def InOrderOf (f : α → Text) (ks : List Text) (ys : List α) : Prop :=
  ys.Pairwise fun y z => ks.idxOf (f y) < ks.idxOf (f z)

theorem inOrderOf_nil (f : α → Text) (ks : List Text) : InOrderOf f ks [] := List.Pairwise.nil

/-- No two of them have one text. -/
theorem InOrderOf.nodup (h : InOrderOf f ks ys) : (ys.map f).Nodup := by
  rw [List.Nodup, List.pairwise_map]
  refine h.imp fun hlt heq => ?_
  rw [heq] at hlt
  exact Nat.lt_irrefl _ hlt

/-- There is only one such order of given things. -/
theorem InOrderOf.eq (hy : InOrderOf f ks ys) (hz : InOrderOf f ks zs)
    (hmem : ∀ x, x ∈ ys ↔ x ∈ zs) : ys = zs := by
  have hperm : ys.Perm zs :=
    (List.perm_ext_iff_of_nodup (hy.nodup.of_map f) (hz.nodup.of_map f)).mpr hmem
  refine List.Perm.eq_of_pairwise (fun a b _ _ hab hba => ?_) hy hz hperm
  exact absurd hba (Nat.lt_asymm hab)

/-- A text that is mentioned later does not matter for things that are mentioned already. -/
theorem InOrderOf.mention (h : InOrderOf f ks ys) (hmem : ∀ y ∈ ys, f y ∈ ks) (k : Text) :
    InOrderOf f (ks ++ [k]) ys := by
  refine List.Pairwise.imp_of_mem (fun ha hb hlt => ?_) h
  rwa [List.idxOf_append_of_mem (hmem _ ha), List.idxOf_append_of_mem (hmem _ hb)]

/-- A thing that is mentioned for the first time comes last. -/
theorem InOrderOf.add (h : InOrderOf f ks ys) (hmem : ∀ y ∈ ys, f y ∈ ks) (hnew : f y ∉ ks) :
    InOrderOf f (ks ++ [f y]) (ys ++ [y]) := by
  refine List.pairwise_append.mpr ⟨h.mention hmem (f y), List.pairwise_singleton _ _, ?_⟩
  intro z hz w hw
  rw [List.mem_singleton.mp hw, List.idxOf_append_of_mem (hmem z hz),
    List.idxOf_append_of_notMem hnew]
  exact Nat.lt_of_lt_of_le (List.idxOf_lt_length_of_mem (hmem z hz)) (Nat.le_add_right _ _)

/-! ## The first of each text -/

/-- An element counts if no element before it has its text; those that count are kept in order. -/
structure IsFirsts (f : α → Text) (xs ys : List α) : Prop where
  mem : ∀ y, y ∈ ys ↔ ∃ before after, xs = before ++ y :: after ∧ f y ∉ before.map f
  order : InOrderOf f (xs.map f) ys

theorem IsFirsts.unique (hy : IsFirsts f xs ys) (hz : IsFirsts f xs zs) : ys = zs :=
  hy.order.eq hz.order fun x => (hy.mem x).trans (hz.mem x).symm

theorem isFirsts_nil (f : α → Text) : IsFirsts f [] [] :=
  ⟨fun y => by simp, inOrderOf_nil f []⟩

theorem IsFirsts.subset (h : IsFirsts f xs ys) (hy : y ∈ ys) : y ∈ xs := by
  obtain ⟨before, after, rfl, -⟩ := (h.mem y).mp hy
  simp

theorem IsFirsts.map_mem (h : IsFirsts f xs ys) (hy : y ∈ ys) : f y ∈ xs.map f :=
  List.mem_map_of_mem (h.subset hy)

/-- An element in front of a list that is one longer stands in it or is the last. -/
theorem first_concat_iff {x : α} :
    (∃ before after, xs ++ [x] = before ++ y :: after ∧ f y ∉ before.map f) ↔
      (∃ before after, xs = before ++ y :: after ∧ f y ∉ before.map f) ∨
        y = x ∧ f y ∉ xs.map f := by
  constructor
  · rintro ⟨before, after, hxs, hfirst⟩
    rcases List.eq_nil_or_concat after with rfl | ⟨after, z, rfl⟩
    · obtain ⟨rfl, hx⟩ := List.append_inj' hxs rfl
      exact .inr ⟨(List.cons.inj hx).1.symm, hfirst⟩
    · rw [List.concat_eq_append, ← List.cons_append, ← List.append_assoc] at hxs
      exact .inl ⟨before, after, (List.append_inj' hxs rfl).1, hfirst⟩
  · rintro (⟨before, after, rfl, hfirst⟩ | ⟨rfl, hfirst⟩)
    · exact ⟨before, after ++ [x], by simp, hfirst⟩
    · exact ⟨xs, [], rfl, hfirst⟩

/-- An element whose text is taken does not count. -/
theorem IsFirsts.skip {x : α} (h : IsFirsts f xs ys) (hx : f x ∈ xs.map f) :
    IsFirsts f (xs ++ [x]) ys := by
  refine ⟨fun y => ?_, ?_⟩
  · rw [first_concat_iff, h.mem y, or_iff_left]
    rintro ⟨rfl, hnew⟩
    exact hnew hx
  · rw [List.map_append]
    exact h.order.mention (fun y hy => h.map_mem hy) (f x)

/-- An element with a new text counts. -/
theorem IsFirsts.keep {x : α} (h : IsFirsts f xs ys) (hx : f x ∉ xs.map f) :
    IsFirsts f (xs ++ [x]) (ys ++ [x]) := by
  refine ⟨fun y => ?_, ?_⟩
  · rw [first_concat_iff, ← h.mem y, List.mem_append, List.mem_singleton]
    refine or_congr_right ⟨fun hy => ⟨hy, hy ▸ hx⟩, And.left⟩
  · rw [List.map_append]
    exact h.order.add (fun y hy => h.map_mem hy) hx

end PrimitiveSearch.Text
