import PrimitiveSearch.Proofs.Text.Lines
import PrimitiveSearch.Text.Numeral

/-!
# Numerals

* `neat_ofNat` — a numeral is a trimmed line.
* `IsNumeral`, `readBelow?_eq_some_iff` — what is read as a number below a bound.
* `readBelow?_ofNat` — a number below the bound is read back from its numeral.
-/

set_option autoImplicit false

namespace PrimitiveSearch.Numeral

open Text

variable {n bound : Nat}

theorem isDigit_ofNat {c : Char} (h : c ∈ ofNat n) : isDigit c = true := by
  have hc : c.isDigit := Nat.isDigit_of_mem_toDigits (by decide) (by decide) h
  simp only [Char.isDigit, Bool.and_eq_true, decide_eq_true_eq, UInt32.le_iff_toNat_le] at hc
  simp only [isDigit, Bool.and_eq_true, decide_eq_true_eq]
  exact hc

theorem ofNat_ne_nil (n : Nat) : ofNat n ≠ [] := Nat.toDigits_ne_nil

@[simp] theorem value_ofNat (n : Nat) : value (ofNat n) = n := by
  have h : value (ofNat n) = Nat.ofDigitChars 10 (Nat.toDigits 10 n) 0 := by
    rw [Nat.ofDigitChars_eq_foldl, value, valueFrom]
    simp only [Nat.mul_comm 10]
    rfl
  rw [h, Nat.ofDigitChars_ten_toDigits]

theorem not_blank_of_isDigit {c : Char} (h : isDigit c = true) : isBlank c = false :=
  not_blank_of_class (by decide) h

theorem neat_ofNat (n : Nat) : Neat (ofNat n) := by
  refine ⟨fun hc => absurd (isDigit_ofNat hc) (by decide), fun c hc => ?_, fun c hc => ?_⟩
  · exact not_blank_of_isDigit (isDigit_ofNat (List.mem_of_head? hc))
  · exact not_blank_of_isDigit (isDigit_ofNat (List.mem_of_getLast? hc))

/-! ## What is read as a number -/

/-- A numeral of a number below a bound: ASCII digits, at least one, after an optional plus
sign. -/
def IsNumeral (bound : Nat) (t : Text) (n : Nat) : Prop :=
  ∃ sign digits, (sign = [] ∨ sign = ['+']) ∧ t = sign ++ digits ∧ digits ≠ [] ∧
    (∀ c ∈ digits, isDigit c = true) ∧ value digits = n ∧ n < bound

theorem unsigned_append {sign digits : Text} (hsign : sign = [] ∨ sign = ['+'])
    (hdigits : ∀ c ∈ digits, isDigit c = true) : unsigned (sign ++ digits) = digits := by
  rcases hsign with rfl | rfl
  · unfold unsigned
    split
    · rename_i rest h
      have hplus : '+' ∈ digits := by
        rw [List.nil_append] at h
        rw [h]
        exact List.mem_cons_self
      exact absurd (hdigits _ hplus) (by decide)
    · rfl
  · rfl

theorem exists_sign (t : Text) : ∃ sign, (sign = [] ∨ sign = ['+']) ∧ t = sign ++ unsigned t := by
  unfold unsigned
  split
  · exact ⟨['+'], .inr rfl, rfl⟩
  · exact ⟨[], .inl rfl, rfl⟩

theorem readBelow?_eq_some_iff {t : Text} : readBelow? bound t = some n ↔ IsNumeral bound t n := by
  constructor
  · intro h
    obtain ⟨sign, hsign, ht⟩ := exists_sign t
    unfold readBelow? at h
    dsimp only at h
    split at h
    · cases h
    rename_i hdigits
    split at h
    · rename_i hlt
      cases h
      simp only [Bool.or_eq_true, List.isEmpty_iff, Bool.not_eq_true', List.all_eq_false, not_or,
        not_exists, not_and, Bool.not_eq_true, Bool.not_eq_false] at hdigits
      exact ⟨sign, unsigned t, hsign, ht, hdigits.1, hdigits.2, rfl, hlt⟩
    · cases h
  · rintro ⟨sign, digits, hsign, rfl, hne, hdigits, rfl, hlt⟩
    have hall : digits.all isDigit = true := List.all_eq_true.mpr hdigits
    rw [readBelow?, unsigned_append hsign hdigits]
    simp [hne, hall, hlt]

theorem readBelow?_ofNat (h : n < bound) : readBelow? bound (ofNat n) = some n :=
  readBelow?_eq_some_iff.mpr ⟨[], ofNat n, .inl rfl, rfl, ofNat_ne_nil n,
    fun _ hc => isDigit_ofNat hc, value_ofNat n, h⟩

theorem lt_of_readBelow? {t : Text} (h : readBelow? bound t = some n) : n < bound := by
  obtain ⟨-, -, -, -, -, -, -, hlt⟩ := readBelow?_eq_some_iff.mp h
  exact hlt

end PrimitiveSearch.Numeral
