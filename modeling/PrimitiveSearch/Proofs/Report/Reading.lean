import PrimitiveSearch.Proofs.Binary64.Numeral
import PrimitiveSearch.Proofs.Text.Lines
import PrimitiveSearch.Report

/-!
# What is read from the output of the engine

* `trimmedLine_zero`, `trimmedLine_succ` — the trimmed lines of a text, one by one.
* `Reads`, `parse_eq_iff` — the report or the fault that an output is read as.
* `cost_eq_nan_iff` — the only reports whose cost is no number.
* `parse_append` — the lines behind the second are not looked at.
-/

set_option autoImplicit false

namespace PrimitiveSearch.Report

open Text Binary64

variable {t output : Text} {r : Report} {result : Except Fault Report}

/-! ## Lines one by one -/

theorem trimmedLine_eq (t : Text) (i : Nat) :
    trimmedLine (lines t) i = (trimLines t)[i]?.getD [] := by
  rw [trimmedLine, trimLines, List.getElem?_map]
  cases (lines t)[i]? <;> rfl

theorem trimmedLine_zero (t : Text) : trimmedLine (lines t) 0 = trim (firstLine t) := by
  by_cases hne : t = []
  · subst hne
    rfl
  · rw [trimmedLine_eq, trimLines_of_ne_nil hne]
    rfl

theorem trimmedLine_succ (t : Text) (i : Nat) :
    trimmedLine (lines t) (i + 1) = trimmedLine (lines (behindFirst t)) i := by
  by_cases hne : t = []
  · subst hne
    rfl
  · rw [trimmedLine_eq, trimmedLine_eq, trimLines_of_ne_nil hne]
    rfl

/-! ## Reports -/

/-- The text that is read as the cost. -/
def costText (output : Text) : Text := trim (firstLine output)

/-- The text that is taken for the expression. -/
def expressionText (output : Text) : Text := trim (firstLine (behindFirst output))

/-- What an output is read as. -/
inductive Reads (output : Text) : Except Fault Report → Prop where
  | missing (empty : costText output = []) : Reads output (.error .missingCost)
  | invalid (nonempty : costText output ≠ []) (number : ∀ x, ¬ Denotes (costText output) x)
      (nan : ¬ SpellsNaN (costText output)) :
      Reads output (.error (.invalidCost (costText output)))
  | number {x : Binary64} (denotes : Denotes (costText output) x) :
      Reads output (.ok ⟨x, expressionText output⟩)
  | nan (spells : SpellsNaN (costText output)) : Reads output (.ok ⟨.nan, expressionText output⟩)

theorem parse_eq (output : Text) : parse output =
    if costText output = [] then .error .missingCost
    else match read? (costText output) with
      | none => .error (.invalidCost (costText output))
      | some cost => .ok ⟨cost, expressionText output⟩ := by
  have hcost : trimmedLine (lines output) 0 = costText output := trimmedLine_zero output
  have hexpression : trimmedLine (lines output) 1 = expressionText output :=
    (trimmedLine_succ output 0).trans (trimmedLine_zero _)
  cases hread : read? (costText output) <;> simp [parse, hcost, hexpression, hread]

theorem reads_parse (output : Text) : Reads output (parse output) := by
  rw [parse_eq]
  split
  · rename_i hempty
    exact .missing hempty
  · rename_i hne
    cases hread : read? (costText output) with
    | none =>
      refine .invalid hne (fun x hx => ?_) fun hnan => ?_
      · rw [read?_eq_some_iff.mpr (.inl hx)] at hread
        cases hread
      · rw [read?_eq_nan_iff.mpr hnan] at hread
        cases hread
    | some x =>
      rcases read?_eq_some_iff.mp hread with hx | ⟨hnan, rfl⟩
      · exact .number hx
      · exact .nan hnan

/-- An empty text is no numeral. -/
theorem ne_nil_of_read? {x : Binary64} (h : read? t = some x) : t ≠ [] := by
  rintro rfl
  cases h

theorem Reads.eq_parse (h : Reads output result) : parse output = result := by
  rw [parse_eq]
  cases h with
  | missing empty => rw [if_pos empty]
  | invalid nonempty number nan =>
    have hnone : read? (costText output) = none := by
      rw [Option.eq_none_iff_forall_ne_some]
      intro x hx
      rcases read?_eq_some_iff.mp hx with hx | ⟨hnan, -⟩
      · exact number x hx
      · exact nan hnan
    rw [if_neg nonempty, hnone]
  | number denotes =>
    have hread := read?_eq_some_iff.mpr (.inl denotes)
    rw [if_neg (ne_nil_of_read? hread), hread]
  | nan spells =>
    have hread := read?_eq_nan_iff.mpr spells
    rw [if_neg (ne_nil_of_read? hread), hread]

theorem parse_eq_iff : parse output = result ↔ Reads output result :=
  ⟨fun h => h ▸ reads_parse output, Reads.eq_parse⟩

/-- Only the word for it is read as a cost that is no number. -/
theorem cost_eq_nan_iff (h : parse output = .ok r) :
    r.cost = .nan ↔ SpellsNaN (costText output) := by
  cases parse_eq_iff.mp h with
  | number denotes =>
    refine iff_of_false denotes.ne_nan fun hnan => ?_
    have hread := read?_eq_some_iff.mpr (.inl denotes)
    rw [read?_eq_nan_iff.mpr hnan] at hread
    exact denotes.ne_nan (Option.some.inj hread).symm
  | nan spells => exact iff_of_true rfl spells

/-- What stands behind the second line does not matter. -/
theorem parse_append {first second : Text} (hfirst : '\n' ∉ first) (hsecond : '\n' ∉ second)
    (rest : Text) :
    parse (first ++ '\n' :: (second ++ '\n' :: rest)) = parse (first ++ '\n' :: second) := by
  have hcost : ∀ more, costText (first ++ '\n' :: more) = trim first := fun more => by
    rw [costText, (firstLine_append hfirst more).1]
  have hexpression : expressionText (first ++ '\n' :: (second ++ '\n' :: rest)) =
      expressionText (first ++ '\n' :: second) := by
    rw [expressionText, expressionText, (firstLine_append hfirst _).2,
      (firstLine_append hfirst _).2, (firstLine_append hsecond rest).1,
      (firstLine_of_not_mem hsecond).1]
  rw [parse_eq, parse_eq, hcost, hcost, hexpression]

end PrimitiveSearch.Report
