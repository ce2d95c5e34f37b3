import Mathlib.Data.List.Forall2
import PrimitiveSearch.Binary64.Reading
import PrimitiveSearch.Proofs.Text.Trim

/-!
# What is read as a number

* `Denotes` — the numerals: an optional sign, then a word for infinity in any letter case, or digits
  with at most one point among them and an optional power of ten.
* `SpellsNaN` — the word `nan` in any letter case, after an optional sign.
* `read?_eq_some_iff` — these are read, the second as not-a-number, and nothing else is.
* `Denotes.ne_nan` — a numeral denotes a number, however great or small.
-/

set_option autoImplicit false

namespace PrimitiveSearch.Binary64

open Text

variable {t word name : Text} {c d : Char} {n : Nat} {exponent power : Int} {x : Binary64}

/-! ## Signs -/

/-- What may stand in front of a numeral. -/
inductive Sign where
  | absent
  | plus
  | minus

namespace Sign

def text : Sign → Text
  | absent => []
  | plus => ['+']
  | minus => ['-']

def isMinus : Sign → Bool
  | minus => true
  | _ => false

/-- A whole number with a sign. -/
def apply (s : Sign) (n : Nat) : Int := if s.isMinus then -(n : Int) else n

end Sign

theorem exists_sign (t : Text) :
    ∃ (s : Sign) (rest : Text), t = s.text ++ rest ∧ cutSign t = (s.isMinus, rest) := by
  unfold cutSign
  split
  · exact ⟨.minus, _, rfl, rfl⟩
  · exact ⟨.plus, _, rfl, rfl⟩
  · exact ⟨.absent, t, rfl, rfl⟩

/-- A text without a second sign. -/
abbrev Unsigned (t : Text) : Prop := ∀ c, t.head? = some c → c ≠ '+' ∧ c ≠ '-'

theorem cutSign_append (s : Sign) (h : Unsigned t) : cutSign (s.text ++ t) = (s.isMinus, t) := by
  cases s with
  | plus => rfl
  | minus => rfl
  | absent =>
    rw [Sign.text, List.nil_append]
    unfold cutSign
    split
    · exact absurd rfl (h _ rfl).2
    · exact absurd rfl (h _ rfl).1
    · rfl

/-! ## Words -/

/-- A word that reads `name`, each letter of it small or capital. -/
abbrev InAnyCase (word name : Text) : Prop :=
  List.Forall₂ (fun c d => c = d ∨ c = d.toUpper) word name

/-- A small letter. -/
abbrev IsSmall (c : Char) : Prop := 97 ≤ c.toNat ∧ c.toNat ≤ 122

/-- The twenty-six letters, in both cases. -/
theorem toUpper_and_lower : ∀ k < 26,
    (Char.ofNat (97 + k)).toUpper = Char.ofNat (65 + k) ∧
      lower (Char.ofNat (65 + k)) = Char.ofNat (97 + k) := by decide

theorem exists_letter {base : Nat} (h : base ≤ c.toNat ∧ c.toNat ≤ base + 25) :
    ∃ k < 26, c = Char.ofNat (base + k) := by
  refine ⟨c.toNat - base, by omega, ?_⟩
  rw [Nat.add_sub_cancel' h.1, Char.ofNat_toNat]

theorem lower_eq_self (h : ¬ (65 ≤ c.toNat ∧ c.toNat ≤ 90)) : lower c = c := by
  simp [lower, h]

theorem lower_eq_iff (hd : IsSmall d) : lower c = d ↔ c = d ∨ c = d.toUpper := by
  constructor
  · rintro rfl
    by_cases hc : 65 ≤ c.toNat ∧ c.toNat ≤ 90
    · obtain ⟨k, hk, rfl⟩ := exists_letter hc
      obtain ⟨hupper, hlower⟩ := toUpper_and_lower k hk
      exact .inr (by rw [hlower, hupper])
    · exact .inl (lower_eq_self hc).symm
  · rintro (rfl | rfl)
    · exact lower_eq_self (by omega)
    · obtain ⟨k, hk, rfl⟩ := exists_letter hd
      obtain ⟨hupper, hlower⟩ := toUpper_and_lower k hk
      rw [hupper, hlower]

theorem map_lower_eq_iff (hname : ∀ d ∈ name, IsSmall d) :
    word.map lower = name ↔ InAnyCase word name := by
  induction name generalizing word with
  | nil => exact List.map_eq_nil_iff.trans List.forall₂_nil_right_iff.symm
  | cons d name ih =>
    obtain ⟨hd, hname⟩ := List.forall_mem_cons.mp hname
    cases word with
    | nil => exact iff_of_false (by simp) nofun
    | cons c word =>
      rw [List.map_cons, List.cons.injEq, lower_eq_iff hd, ih hname, InAnyCase, InAnyCase,
        List.forall₂_cons]

/-- The words that are no decimals. -/
abbrev IsName (name : Text) : Prop :=
  name = "inf".toList ∨ name = "infinity".toList ∨ name = "nan".toList

theorem IsName.small (h : IsName name) : ∀ d ∈ name, IsSmall d := by
  -- asked of the letters of the name only: there are too many characters to ask it of all
  have hall : name.all (fun d => decide (IsSmall d)) = true := by
    rcases h with rfl | rfl | rfl <;> decide
  exact fun d hd => of_decide_eq_true (List.all_eq_true.mp hall d hd)

theorem IsName.map_lower_eq_iff (h : IsName name) :
    word.map lower = name ↔ InAnyCase word name := Binary64.map_lower_eq_iff h.small

theorem IsName.unsigned (h : IsName name) (hword : InAnyCase word name) : Unsigned word := by
  intro c hc
  have hmem : lower c ∈ name := by
    rw [← h.map_lower_eq_iff.mpr hword]
    exact List.mem_map_of_mem (List.mem_of_head? hc)
  have hsmall := h.small _ hmem
  constructor <;> rintro rfl <;> exact absurd hsmall (by decide)

/-! ## Decimals -/

/-- A text of digits only. -/
abbrev Digits (t : Text) : Prop := ∀ c ∈ t, Numeral.isDigit c = true

/-- What may stand at the end of a decimal, and the power of ten that it denotes. -/
inductive IsPower : Text → Int → Prop where
  | absent : IsPower [] 0
  | present {e : Char} {digits : Text} (letter : e = 'e' ∨ e = 'E') (sign : Sign)
      (nonempty : digits ≠ []) (hdigits : Digits digits) :
      IsPower (e :: (sign.text ++ digits)) (sign.apply (Numeral.value digits))

/-- Digits with at most one point among them and a power of ten behind them.  What they amount to
is a whole number, of all digits, and a power of ten, less one for each digit behind the point. -/
inductive IsDecimal : Text → Nat → Int → Prop where
  | whole {digits t : Text} {power : Int} (nonempty : digits ≠ []) (hdigits : Digits digits)
      (hpower : IsPower t power) : IsDecimal (digits ++ t) (Numeral.value digits) power
  | pointed {whole fraction t : Text} {power : Int} (nonempty : whole ++ fraction ≠ [])
      (hwhole : Digits whole) (hfraction : Digits fraction) (hpower : IsPower t power) :
      IsDecimal (whole ++ '.' :: (fraction ++ t)) (Numeral.value (whole ++ fraction))
        (power - (fraction.length : Int))

theorem Digits.unsigned (h : Digits t) : Unsigned t := by
  intro c hc
  have hdigit := h c (List.mem_of_head? hc)
  constructor <;> rintro rfl <;> exact absurd hdigit (by decide)

theorem readPower?_eq_some_iff : readPower? t = some power ↔ IsPower t power := by
  have he : IsSmall 'e' := by decide
  constructor
  · intro h
    cases t with
    | nil =>
      obtain rfl : 0 = power := Option.some.inj h
      exact .absent
    | cons e rest =>
      obtain ⟨sign, digits, rfl, hcut⟩ := exists_sign rest
      rw [readPower?, hcut] at h
      dsimp only at h
      split at h
      · rename_i hletter
        split at h
        · cases h
        · rename_i hdigits
          simp only [Bool.or_eq_true, List.isEmpty_iff, Bool.not_eq_true', not_or,
            Bool.not_eq_false, List.all_eq_true] at hdigits
          obtain rfl : sign.apply (Numeral.value digits) = power := Option.some.inj h
          exact .present ((lower_eq_iff he).mp hletter) sign hdigits.1 hdigits.2
      · cases h
  · intro h
    cases h with
    | absent => rfl
    | present letter sign nonempty hdigits =>
      have hletter := (lower_eq_iff he).mpr letter
      have hall := List.all_eq_true.mpr hdigits
      rw [readPower?, if_pos hletter, cutSign_append sign hdigits.unsigned]
      simp [nonempty, hall, Sign.apply]

/-- A power does not go on with what is in front of it. -/
theorem IsPower.head (h : IsPower t power) :
    ∀ c, t.head? = some c → Numeral.isDigit c = false ∧ c ≠ '.' := by
  cases h with
  | absent => exact nofun
  | present letter =>
    intro c hc
    obtain rfl := Option.some.inj hc
    rcases letter with rfl | rfl <;> decide

theorem IsPower.cutFraction (h : IsPower t power) : cutFraction t = ([], t) := by
  unfold Binary64.cutFraction
  split
  · exact absurd rfl (h.head _ rfl).2
  · rfl

/-- A text is the digits at its front and what stands behind them. -/
theorem exists_digits (t : Text) : ∃ digits rest, t = digits ++ rest ∧ Digits digits ∧
    t.takeWhile Numeral.isDigit = digits ∧ t.dropWhile Numeral.isDigit = rest :=
  ⟨_, _, List.takeWhile_append_dropWhile.symm,
    fun _ hc => List.all_eq_true.mp List.all_takeWhile _ hc, rfl, rfl⟩

theorem cutFraction_cases (t : Text) :
    (∃ fraction rest, t = '.' :: (fraction ++ rest) ∧ Digits fraction ∧
      cutFraction t = (fraction, rest)) ∨ cutFraction t = ([], t) := by
  unfold cutFraction
  split
  · rename_i behind
    obtain ⟨fraction, rest, rfl, hfraction, htake, hdrop⟩ := exists_digits behind
    exact .inl ⟨fraction, rest, rfl, hfraction, Prod.ext htake hdrop⟩
  · exact .inr rfl

theorem readMagnitude?_eq_some_iff {negative : Bool} : readMagnitude? negative t = some x ↔
    ∃ n exponent, IsDecimal t n exponent ∧ ofDecimal negative n exponent = x := by
  constructor
  · intro h
    obtain ⟨whole, rest, rfl, hwhole, htake, hdrop⟩ := exists_digits t
    rw [readMagnitude?, htake, hdrop] at h
    rcases cutFraction_cases rest with ⟨fraction, behind, rfl, hfraction, hcut⟩ | hcut
    · simp only [hcut] at h
      split at h
      · cases h
      · rename_i hne
        obtain ⟨power, hpower, rfl⟩ := Option.map_eq_some_iff.mp h
        refine ⟨_, _, .pointed ?_ hwhole hfraction (readPower?_eq_some_iff.mp hpower), rfl⟩
        simpa using hne
    · simp only [hcut] at h
      split at h
      · cases h
      · rename_i hne
        obtain ⟨power, hpower, rfl⟩ := Option.map_eq_some_iff.mp h
        have hne : whole ≠ [] := by simpa using hne
        refine ⟨_, _, .whole hne hwhole (readPower?_eq_some_iff.mp hpower), ?_⟩
        rw [List.append_nil, List.length_nil, Int.natCast_zero, Int.sub_zero]
  · rintro ⟨n, exponent, h, rfl⟩
    cases h with
    | whole nonempty hdigits hpower =>
      obtain ⟨htake, hdrop⟩ := takeWhile_append_stop hdigits fun c hc => (hpower.head c hc).1
      rw [readMagnitude?, htake, hdrop, hpower.cutFraction]
      simp [nonempty, readPower?_eq_some_iff.mpr hpower]
    | @pointed whole fraction t power nonempty hwhole hfraction hpower =>
      have hpoint : ∀ c, ('.' :: (fraction ++ t)).head? = some c → Numeral.isDigit c = false := by
        rintro c ⟨⟩
        decide
      obtain ⟨htake, hdrop⟩ := takeWhile_append_stop hwhole hpoint
      obtain ⟨htake', hdrop'⟩ := takeWhile_append_stop hfraction fun c hc => (hpower.head c hc).1
      have hne : (whole.isEmpty && fraction.isEmpty) = false := by simpa using nonempty
      rw [readMagnitude?, htake, hdrop, cutFraction, htake', hdrop']
      simp [hne, readPower?_eq_some_iff.mpr hpower]

theorem IsDecimal.head (h : IsDecimal t n exponent) :
    ∃ c rest, t = c :: rest ∧ (Numeral.isDigit c = true ∨ c = '.') := by
  cases h with
  | whole nonempty hdigits hpower =>
    obtain ⟨c, rest, rfl⟩ := List.exists_cons_of_ne_nil nonempty
    exact ⟨c, _, rfl, .inl (hdigits c List.mem_cons_self)⟩
  | @pointed whole fraction t power nonempty hwhole hfraction hpower =>
    cases whole with
    | nil => exact ⟨_, _, rfl, .inr rfl⟩
    | cons c whole => exact ⟨c, _, rfl, .inl (hwhole c List.mem_cons_self)⟩

theorem IsDecimal.unsigned (h : IsDecimal t n exponent) : Unsigned t := by
  obtain ⟨c, rest, rfl, hc⟩ := h.head
  intro d hd
  obtain rfl := Option.some.inj hd
  constructor <;> rintro rfl <;> exact absurd hc (by decide)

theorem IsDecimal.map_lower_ne (h : IsDecimal t n exponent) (hname : IsName name) :
    t.map lower ≠ name := by
  obtain ⟨c, rest, rfl, hc⟩ := h.head
  rintro rfl
  have hsmall := hname.small (lower c) List.mem_cons_self
  have hlow : c.toNat ≤ 57 := by
    rcases hc with hc | rfl
    · simp only [Numeral.isDigit, Bool.and_eq_true, decide_eq_true_eq] at hc
      exact hc.2
    · decide
  rw [lower_eq_self (by omega)] at hsmall
  omega

/-! ## Numerals -/

/-- A numeral and the number that it denotes. -/
inductive Denotes : Text → Binary64 → Prop where
  | infinity (sign : Sign) {word : Text}
      (h : InAnyCase word "inf".toList ∨ InAnyCase word "infinity".toList) :
      Denotes (sign.text ++ word) (.infinity sign.isMinus)
  | decimal (sign : Sign) {t : Text} {n : Nat} {exponent : Int} (h : IsDecimal t n exponent) :
      Denotes (sign.text ++ t) (ofDecimal sign.isMinus n exponent)

/-- The word that stands for no number. -/
def SpellsNaN (t : Text) : Prop :=
  ∃ (sign : Sign) (word : Text), InAnyCase word "nan".toList ∧ t = sign.text ++ word

/-- What is read behind a sign. -/
theorem read?_append (sign : Sign) (h : Unsigned t) : read? (sign.text ++ t) =
    if t.map lower = "inf".toList ∨ t.map lower = "infinity".toList then
      some (.infinity sign.isMinus)
    else if t.map lower = "nan".toList then some .nan
    else readMagnitude? sign.isMinus t := by
  rw [read?, cutSign_append sign h]

theorem read?_eq_some_iff : read? t = some x ↔ Denotes t x ∨ SpellsNaN t ∧ x = .nan := by
  have hinf : IsName "inf".toList := .inl rfl
  have hinfinity : IsName "infinity".toList := .inr (.inl rfl)
  have hnan : IsName "nan".toList := .inr (.inr rfl)
  constructor
  · intro h
    obtain ⟨sign, rest, rfl, hcut⟩ := exists_sign t
    rw [read?, hcut] at h
    dsimp only at h
    split at h
    · rename_i hword
      obtain rfl := Option.some.inj h
      exact .inl (.infinity sign
        (hword.imp hinf.map_lower_eq_iff.mp hinfinity.map_lower_eq_iff.mp))
    · split at h
      · rename_i hword
        obtain rfl := Option.some.inj h
        exact .inr ⟨⟨sign, rest, hnan.map_lower_eq_iff.mp hword, rfl⟩, rfl⟩
      · obtain ⟨n, exponent, hdecimal, rfl⟩ := readMagnitude?_eq_some_iff.mp h
        exact .inl (.decimal sign hdecimal)
  · rintro (h | ⟨⟨sign, word, hword, rfl⟩, rfl⟩)
    · cases h with
      | infinity sign h =>
        have hunsigned := h.elim hinf.unsigned hinfinity.unsigned
        rw [read?_append sign hunsigned,
          if_pos (h.imp hinf.map_lower_eq_iff.mpr hinfinity.map_lower_eq_iff.mpr)]
      | decimal sign h =>
        rw [read?_append sign h.unsigned,
          if_neg (not_or.mpr ⟨h.map_lower_ne hinf, h.map_lower_ne hinfinity⟩),
          if_neg (h.map_lower_ne hnan)]
        exact readMagnitude?_eq_some_iff.mpr ⟨_, _, h, rfl⟩
    · rw [read?_append sign (hnan.unsigned hword), hnan.map_lower_eq_iff.mpr hword]
      rfl

/-- A point in front, capital letters, a number that is too great; and what is no numeral. -/
example : ["+.5E1", "-INFINITY", "1e400", "-1_0", "+-1", "1e", "."].map (read? ∘ String.toList) =
    [some (ofNat 5), some (.infinity true), some (.infinity false), none, none, none, none] := by
  decide +kernel

theorem ofRatio_ne_nan (negative : Bool) (num den : Nat) : ofRatio negative num den ≠ .nan := by
  unfold ofRatio
  split
  · exact nofun
  · dsimp only
    split <;> split <;> exact nofun

theorem ofDecimal_ne_nan (negative : Bool) (n : Nat) (exponent : Int) :
    ofDecimal negative n exponent ≠ .nan := by
  unfold ofDecimal
  split
  · exact nofun
  · dsimp only
    split
    · exact nofun
    · split
      · exact nofun
      · split <;> exact ofRatio_ne_nan _ _ _

theorem Denotes.ne_nan (h : Denotes t x) : x ≠ .nan := by
  cases h with
  | infinity => exact nofun
  | decimal => exact ofDecimal_ne_nan _ _ _

/-- Nothing but the word is read as not-a-number. -/
theorem read?_eq_nan_iff : read? t = some .nan ↔ SpellsNaN t := by
  rw [read?_eq_some_iff]
  refine ⟨?_, fun h => .inr ⟨h, rfl⟩⟩
  rintro (h | ⟨h, -⟩)
  · exact absurd rfl h.ne_nan
  · exact h

end PrimitiveSearch.Binary64
