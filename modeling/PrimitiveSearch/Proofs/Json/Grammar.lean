import Mathlib.Data.List.TakeWhile
import PrimitiveSearch.Proofs.Json.Scalar

/-!
# The grammar of documents

Documents as trees, and the texts that spell them, told without any reader.

* `Json.Value` — trees.  Numbers are kept as they are spelt, and objects with all their members in
  order.
* `SpellsString`, `IsNumber` — how strings and numbers are spelt.
* `Spells`, `SpellsItems`, `SpellsMembers` — how trees are spelt, with white space between all parts.
* `IsDocument` — a whole document.
* `stringBody_eq_ok_iff` — a string is read from a text exactly if the text spells it.
* `number_eq_integer` — a number that is read as a whole number is spelt without point and power.
-/

set_option autoImplicit false

namespace PrimitiveSearch.Json

open Numeral

/-! ## Trees -/

/-- A document as a tree. -/
inductive Value where
  | null
  | boolean (b : Bool)
  /-- A number, as it is spelt. -/
  | number (numeral : Text)
  | string (t : Text)
  | list (items : List Value)
  /-- All members, in order; a key may occur more than once. -/
  | object (members : List (Text × Value))

/-! ## White space and commas -/

/-- White space, or nothing. -/
def IsGap (t : Text) : Prop := ∀ c ∈ t, isSpace c = true

instance : DecidablePred IsGap := fun _ =>
  decidable_of_iff _ List.all_eq_true

/-- What stands in front of an element or a member: white space, with a comma in it for all but the
first. -/
def Separates : (first : Bool) → Text → Prop
  | true, t => IsGap t
  | false, t => ∃ before behind, IsGap before ∧ IsGap behind ∧ t = before ++ ',' :: behind

/-! ## Strings -/

/-- Four hexadecimal digits with their value. -/
def SpellsFour (n : Nat) (t : Text) : Prop :=
  t.length = 4 ∧ ∃ digits, t.mapM hexDigit? = some digits ∧
    digits.foldl (fun n d => n * 16 + d) 0 = n

/-- An escape without its backslash. -/
inductive SpellsEscape : Char → Text → Prop where
  | short {c d : Char} (letter : shortEscape? c = some d) : SpellsEscape d [c]
  | four {n : Nat} {t : Text} (digits : SpellsFour n t) (low : isLowHalf n = false)
      (high : isHighHalf n = false) : SpellsEscape (Char.ofNat n) ('u' :: t)
  | pair {n k : Nat} {t u : Text} (first : SpellsFour n t) (high : isHighHalf n = true)
      (second : SpellsFour k u) (low : isLowHalf k = true) :
      SpellsEscape (pairedChar n k) ('u' :: t ++ '\\' :: 'u' :: u)

/-- A string without its quotes. -/
inductive SpellsString : Text → Text → Prop where
  | nil : SpellsString [] []
  | plain {c : Char} {t body : Text} (quote : c ≠ '"') (slash : c ≠ '\\')
      (visible : isControl c = false) (more : SpellsString t body) :
      SpellsString (c :: t) (c :: body)
  | escaped {c : Char} {e t body : Text} (escape : SpellsEscape c e) (more : SpellsString t body) :
      SpellsString (c :: t) ('\\' :: (e ++ body))

/-! ## Numbers -/

/-- At least one digit, and nothing else. -/
def IsDigits (t : Text) : Prop := t ≠ [] ∧ ∀ c ∈ t, isDigit c = true

/-- The whole part of a number: it does not start with a zero unless it is one. -/
def IsWhole (t : Text) : Prop := IsDigits t ∧ (t.head? = some '0' → t = ['0'])

/-- The fraction of a number, if it has one. -/
def IsFraction (t : Text) : Prop := t = [] ∨ ∃ digits, IsDigits digits ∧ t = '.' :: digits

/-- The power of a number, if it has one. -/
def IsPower (t : Text) : Prop :=
  t = [] ∨ ∃ e sign digits, (e = 'e' ∨ e = 'E') ∧ (sign = [] ∨ sign = ['+'] ∨ sign = ['-']) ∧
    IsDigits digits ∧ t = e :: sign ++ digits

/-- A number. -/
inductive IsNumber : Text → Prop where
  | positive {whole fraction power : Text} (hwhole : IsWhole whole)
      (hfraction : IsFraction fraction) (hpower : IsPower power) :
      IsNumber (whole ++ (fraction ++ power))
  | negative {whole fraction power : Text} (hwhole : IsWhole whole)
      (hfraction : IsFraction fraction) (hpower : IsPower power) :
      IsNumber ('-' :: (whole ++ (fraction ++ power)))

/-! ## Values -/

mutual

/-- A text spells a tree. -/
inductive Spells : Value → Text → Prop where
  | null : Spells .null "null".toList
  | boolean (b : Bool) : Spells (.boolean b) (if b then "true".toList else "false".toList)
  | number {t : Text} (number : IsNumber t) : Spells (.number t) t
  | string {t body : Text} (spelt : SpellsString t body) :
      Spells (.string t) ('"' :: (body ++ ['"']))
  | list {vs : List Value} {t gap : Text} (items : SpellsItems true vs t) (closing : IsGap gap) :
      Spells (.list vs) ('[' :: (t ++ (gap ++ [']'])))
  | object {ms : List (Text × Value)} {t gap : Text} (members : SpellsMembers true ms t)
      (closing : IsGap gap) : Spells (.object ms) ('{' :: (t ++ (gap ++ ['}'])))

/-- A text spells elements of a list, which are the first of it or not. -/
inductive SpellsItems : (first : Bool) → List Value → Text → Prop where
  | nil {first : Bool} : SpellsItems first [] []
  | cons {first : Bool} {v : Value} {vs : List Value} {sep t rest : Text}
      (separates : Separates first sep) (value : Spells v t) (more : SpellsItems false vs rest) :
      SpellsItems first (v :: vs) (sep ++ (t ++ rest))

/-- A text spells members of an object, which are the first of it or not. -/
inductive SpellsMembers : (first : Bool) → List (Text × Value) → Text → Prop where
  | nil {first : Bool} : SpellsMembers first [] []
  | cons {first : Bool} {key : Text} {v : Value} {ms : List (Text × Value)}
      {sep body behind before t rest : Text} (separates : Separates first sep)
      (spelt : SpellsString key body) (hbehind : IsGap behind) (hbefore : IsGap before)
      (value : Spells v t) (more : SpellsMembers false ms rest) :
      SpellsMembers first ((key, v) :: ms)
        (sep ++ '"' :: (body ++ '"' :: (behind ++ ':' :: (before ++ (t ++ rest)))))

end

/-- A whole document: a value, with white space around it. -/
def IsDocument (v : Value) (t : Text) : Prop :=
  ∃ before body behind, IsGap before ∧ Spells v body ∧ IsGap behind ∧ t = before ++ (body ++ behind)

/-! ## Gaps -/

section Gaps

variable {gap : Text} {c : Char}

theorem isGap_nil : IsGap [] := fun _ hc => nomatch hc

theorem skipSpace_append (hgap : IsGap gap) (t : Text) : skipSpace (gap ++ t) = skipSpace t :=
  List.dropWhile_append_of_pos hgap

theorem skipSpace_gap_cons (hgap : IsGap gap) (hc : isSpace c = false) (t : Text) :
    skipSpace (gap ++ c :: t) = c :: t :=
  (skipSpace_append hgap _).trans (skipSpace_cons hc t)

theorem IsGap.append {gap' : Text} (h : IsGap gap) (h' : IsGap gap') : IsGap (gap ++ gap') :=
  fun c hc => (List.mem_append.mp hc).elim (h c) (h' c)

theorem exists_gap (t : Text) : ∃ gap, IsGap gap ∧ t = gap ++ skipSpace t :=
  ⟨t.takeWhile isSpace, fun _ => List.mem_takeWhile_imp, List.takeWhile_append_dropWhile.symm⟩

/-- A text in which a value has ended: white space comes next, or a comma, a bracket or a brace,
or nothing. -/
def Delimited (rest : Text) : Prop :=
  ∀ c, rest.head? = some c → isSpace c = true ∨ c = ',' ∨ c = ']' ∨ c = '}'

theorem delimited_gap (hgap : IsGap gap) (hc : c = ',' ∨ c = ']' ∨ c = '}') (rest : Text) :
    Delimited (gap ++ c :: rest) := by
  intro d hd
  cases gap with
  | nil =>
    obtain rfl := Option.some.inj hd
    exact .inr hc
  | cons e gap =>
    obtain rfl := Option.some.inj hd
    exact .inl (hgap _ List.mem_cons_self)

theorem delimited_separates {sep : Text} (hsep : Separates false sep) (rest : Text) :
    Delimited (sep ++ rest) := by
  obtain ⟨before, behind, hbefore, -, rfl⟩ := hsep
  rw [List.append_assoc]
  exact delimited_gap hbefore (.inl rfl) _

end Gaps

/-! ## Strings -/

section Strings

variable {t rest : Text}

theorem charWidth_of_hexDigit {c : Char} {d : Nat} (h : hexDigit? c = some d) :
    Text.charWidth c = 1 := by
  have hc : c.toNat < 0x80 := by
    unfold hexDigit? at h
    dsimp only at h
    split at h
    · rename_i hrange
      simp only [Bool.and_eq_true, decide_eq_true_eq] at hrange
      omega
    split at h
    · rename_i hrange
      simp only [Bool.and_eq_true, decide_eq_true_eq] at hrange
      omega
    split at h
    · rename_i hrange
      simp only [Bool.and_eq_true, decide_eq_true_eq] at hrange
      omega
    · cases h
  simp [Text.charWidth, hc]

/-- Hexadecimal digits take one byte each. -/
theorem byteLength_of_hexDigits {digits : List Nat} (h : t.mapM hexDigit? = some digits) :
    Text.byteLength t = t.length := by
  have hstart : ∀ n, t.foldl (fun n c => n + Text.charWidth c) n = n + t.length := by
    induction t generalizing digits with
    | nil => simp
    | cons c t ih =>
      intro n
      rw [List.mapM_cons, Option.bind_eq_bind, Option.bind_eq_some_iff] at h
      obtain ⟨d, hd, h⟩ := h
      obtain ⟨ds, hds, -⟩ := Option.bind_eq_some_iff.mp h
      rw [List.foldl_cons, ih hds, charWidth_of_hexDigit hd, List.length_cons]
      omega
  simpa [Text.byteLength] using hstart 0

theorem hexFour_eq_ok_iff {n : Nat} :
    hexFour t = .ok (n, rest) ↔ ∃ u, SpellsFour n u ∧ t = u ++ rest := by
  constructor
  · intro h
    unfold hexFour at h
    split at h
    · cases h
    rename_i hwidth
    split at h
    · rename_i digits hdigits
      cases h
      refine ⟨t.take 4, ⟨?_, digits, hdigits, rfl⟩, (List.take_append_drop 4 t).symm⟩
      rw [byteLength_of_hexDigits hdigits] at hwidth
      have := List.length_take_le 4 t
      omega
    · cases h
  · rintro ⟨u, ⟨hlength, digits, hdigits, rfl⟩, rfl⟩
    have htake : (u ++ rest).take 4 = u := by rw [← hlength, List.take_left]
    have hdrop : (u ++ rest).drop 4 = rest := by rw [← hlength, List.drop_left]
    have hwidth : ¬ Text.byteLength u < 4 := by
      rw [byteLength_of_hexDigits hdigits, hlength]
      omega
    rw [hexFour, htake, hdrop, if_neg hwidth, hdigits]

/-- The first half of a surrogate pair is not the second half of one. -/
theorem isLowHalf_of_high {n : Nat} (h : isHighHalf n = true) : isLowHalf n = false := by
  simp only [isHighHalf, isLowHalf, Bool.and_eq_true, decide_eq_true_eq, Bool.and_eq_false_iff,
    decide_eq_false_iff_not] at h ⊢
  omega

theorem lowHalf_eq_ok_iff {n : Nat} {c : Char} : lowHalf n t = .ok (c, rest) ↔
    ∃ k u, SpellsFour k u ∧ isLowHalf k = true ∧ c = pairedChar n k ∧
      t = '\\' :: 'u' :: u ++ rest := by
  constructor
  · intro h
    unfold lowHalf at h
    split at h
    · cases h
    · cases h
    · rename_i body
      split at h
      · cases h
      rename_i k after hfour
      split at h
      · rename_i hlow
        obtain ⟨rfl, rfl⟩ := Prod.mk.inj (Except.ok.inj h)
        obtain ⟨u, hu, rfl⟩ := hexFour_eq_ok_iff.mp hfour
        exact ⟨k, u, hu, hlow, rfl, rfl⟩
      · cases h
    · cases h
    · cases h
  · rintro ⟨k, u, hu, hlow, hc, rfl⟩
    have hfour : hexFour (u ++ rest) = .ok (k, rest) := hexFour_eq_ok_iff.mpr ⟨u, hu, rfl⟩
    simp [lowHalf, hfour, hlow, hc]

theorem shortEscape_ne_u {c d : Char} (h : shortEscape? c = some d) : c ≠ 'u' := by
  rintro rfl
  cases h

theorem escape_eq_ok_iff {c : Char} :
    escape t = .ok (c, rest) ↔ ∃ e, SpellsEscape c e ∧ t = e ++ rest := by
  constructor
  · intro h
    unfold escape at h
    split at h
    · cases h
    · rename_i body
      split at h
      · cases h
      rename_i n after hfour
      obtain ⟨u, hu, rfl⟩ := hexFour_eq_ok_iff.mp hfour
      split at h
      · cases h
      rename_i hlow
      split at h
      · rename_i hhigh
        obtain ⟨k, v, hv, hk, hc, rfl⟩ := lowHalf_eq_ok_iff.mp h
        rw [hc]
        exact ⟨_, .pair hu hhigh hv hk, by simp⟩
      · rename_i hhigh
        cases h
        exact ⟨_, .four hu (by simpa using hlow) (by simpa using hhigh), rfl⟩
    · rename_i d body _
      split at h
      · rename_i hletter
        cases h
        exact ⟨[d], .short hletter, rfl⟩
      · cases h
  · rintro ⟨e, he, rfl⟩
    cases he with
    | @short d _ hletter =>
      have hd := shortEscape_ne_u hletter
      simp [escape, hletter]
    | @four n u hu hlow hhigh =>
      have hfour : hexFour (u ++ rest) = .ok (n, rest) := hexFour_eq_ok_iff.mpr ⟨u, hu, rfl⟩
      simp [escape, hfour, hlow, hhigh]
    | @pair n k u v hu hhigh hv hlow =>
      have hfour : hexFour (u ++ ('\\' :: 'u' :: v ++ rest)) =
          .ok (n, '\\' :: 'u' :: v ++ rest) := hexFour_eq_ok_iff.mpr ⟨u, hu, rfl⟩
      have hsecond : lowHalf n ('\\' :: 'u' :: v ++ rest) = .ok (pairedChar n k, rest) :=
        lowHalf_eq_ok_iff.mpr ⟨k, v, hv, hlow, rfl, rfl⟩
      rw [List.cons_append, List.cons_append, List.append_assoc, escape, hfour]
      simp only [isLowHalf_of_high hhigh, hhigh, hsecond, if_true, Bool.false_eq_true, if_false]

/-- **A string is read from a text exactly if the text spells it.** -/
theorem stringBody_eq_ok_iff {s : Text} :
    stringBody t = .ok (s, rest) ↔ ∃ body, SpellsString s body ∧ t = body ++ '"' :: rest := by
  constructor
  · intro h
    fun_induction stringBody t generalizing s with
    | case1 => cases h
    | case2 u =>
      cases h
      exact ⟨[], .nil, rfl⟩
    | case3 => cases h
    | case4 => cases h
    | case5 u d after hread k behind _ _ ih =>
      obtain ⟨rfl, rfl⟩ := Prod.mk.inj (Except.ok.inj h)
      obtain ⟨e, he, rfl⟩ := escape_eq_ok_iff.mp hread
      obtain ⟨body, hbody, rfl⟩ := ih ‹_›
      exact ⟨_, .escaped he hbody, by simp⟩
    | case6 => cases h
    | case7 => cases h
    | case8 c u hquote hslash hcontrol k behind _ ih =>
      cases h
      obtain ⟨body, hbody, rfl⟩ := ih ‹_›
      exact ⟨c :: body, .plain hquote hslash (by simpa using hcontrol) hbody, rfl⟩
  · rintro ⟨body, hbody, rfl⟩
    induction hbody with
    | nil => simp [stringBody]
    | plain hquote hslash hcontrol _ ih =>
      rw [List.cons_append, stringBody_plain hquote hslash hcontrol, ih]
      rfl
    | @escaped c e t body hescape _ ih =>
      have hread : escape (e ++ (body ++ '"' :: rest)) = .ok (c, body ++ '"' :: rest) :=
        escape_eq_ok_iff.mpr ⟨e, hescape, rfl⟩
      rw [List.cons_append, List.append_assoc, stringBody_escape hread, ih]
      rfl

theorem spellsString_of_read {s body : Text} (h : stringBody (body ++ ['"']) = .ok (s, [])) :
    SpellsString s body := by
  obtain ⟨u, hu, heq⟩ := stringBody_eq_ok_iff.mp h
  rw [List.append_cancel_right heq]
  exact hu

end Strings

/-! ## Whole numbers -/

section Numbers

variable {positive : Bool} {significand cut : Nat} {t rest after digits : Text} {n : Int}

theorem real_ne_integer {exponent : Int} :
    real positive significand exponent t ≠ .ok (.integer n, after) := by
  unfold real
  split <;> simp [failAt]

theorem power_ne_integer {exponent : Int} :
    power positive significand exponent t ≠ .ok (.integer n, after) := by
  intro h
  unfold power at h
  dsimp only at h
  split at h
  · cases h
  split at h
  · cases h
  split at h
  · rcases ite_eq_iff.mp h with ⟨-, h⟩ | ⟨-, h⟩
    · cases h
    · cases h
  · exact real_ne_integer h

theorem fraction_ne_integer {exponent : Int} :
    fraction positive significand exponent t ≠ .ok (.integer n, after) := by
  unfold fraction
  dsimp only
  split
  · split <;> simp [failAt, failPast]
  split
  · exact power_ne_integer
  · exact power_ne_integer
  · exact real_ne_integer

/-- What may not follow a number that is read as a whole one. -/
def goesOn (c : Char) : Bool := isDigit c || c == '.' || c == 'e' || c == 'E'

/-- A number without point and power whose digits all fit is read as it is. -/
theorem afterWhole_eq_integer (h : afterWhole positive significand cut t = .ok (.integer n, after)) :
    t = after ∧ cut = 0 ∧ whole positive significand = .integer n ∧
      ∀ c, t.head? = some c → isDigit c = false → goesOn c = false := by
  unfold afterWhole at h
  split at h
  · exact absurd h fraction_ne_integer
  · exact absurd h power_ne_integer
  · exact absurd h power_ne_integer
  rename_i hpoint he hE
  split at h
  · rename_i hcut
    obtain ⟨hwhole, rfl⟩ := Prod.mk.inj (Except.ok.inj h)
    refine ⟨rfl, hcut, hwhole, fun c hc hdigit => ?_⟩
    obtain ⟨u, rfl⟩ := List.head?_eq_some_iff.mp hc
    have h₁ : c ≠ '.' := fun hc => hpoint u (by rw [hc])
    have h₂ : c ≠ 'e' := fun hc => he u (by rw [hc])
    have h₃ : c ≠ 'E' := fun hc => hE u (by rw [hc])
    simp [goesOn, hdigit, h₁, h₂, h₃]
  · exact absurd h real_ne_integer

/-- A significand that has taken all digits is their value. -/
theorem append_of_all {start : Nat} (h : t.length ≤ (append start t).2) :
    (append start t).1 = valueFrom start t := by
  induction t generalizing start with
  | nil => rfl
  | cons c t ih =>
    unfold append at h ⊢
    dsimp only at h ⊢
    split
    · rename_i hfits
      rw [if_pos hfits] at h
      exact ih (Nat.le_of_succ_le_succ h)
    · rename_i hfull
      rw [if_neg hfull] at h
      cases h

theorem isDigits_digitsOf {c : Char} (hc : isDigit c = true) (t : Text) :
    IsDigits (digitsOf (c :: t)) :=
  ⟨by simp [digitsOf, hc], fun _ hd => List.mem_takeWhile_imp hd⟩

theorem head_pastDigits {c : Char} (h : (pastDigits t).head? = some c) : isDigit c = false := by
  have hstop := List.head?_dropWhile_not isDigit t
  rw [show t.dropWhile isDigit = pastDigits t from rfl, h] at hstop
  simpa using hstop

/-- **What is read as a whole number** is spelt by digits without leading zeros, behind which
neither a point nor a power comes. -/
theorem number_eq_integer (h : number positive t = .ok (.integer n, after)) :
    ∃ digits, IsWhole digits ∧ t = digits ++ after ∧
      whole positive (value digits) = .integer n ∧
      ∀ c, after.head? = some c → goesOn c = false := by
  unfold number at h
  split at h
  · cases h
  rename_i c rest
  split at h
  · rename_i hzero
    subst c
    split at h
    · rename_i hnone
      obtain ⟨rfl, -, hwhole, hafter⟩ := afterWhole_eq_integer h
      refine ⟨['0'], ⟨⟨by simp, by simp; decide⟩, fun _ => rfl⟩, rfl, hwhole, fun c hc => ?_⟩
      refine hafter c hc ?_
      obtain ⟨u, rfl⟩ := List.head?_eq_some_iff.mp hc
      by_contra hdigit
      simp [digitsOf, hdigit] at hnone
    · cases h
  rename_i hzero
  split at h
  · rename_i hdigit
    obtain ⟨hafter, hcut, hwhole, hnext⟩ := afterWhole_eq_integer h
    have hvalue : (append 0 (digitsOf (c :: rest))).1 = value (digitsOf (c :: rest)) :=
      append_of_all (by omega)
    rw [hvalue] at hwhole
    refine ⟨digitsOf (c :: rest), ⟨isDigits_digitsOf hdigit rest, fun hhead => ?_⟩, ?_, hwhole,
      fun d hd => ?_⟩
    · simp [digitsOf, hdigit, hzero] at hhead
    · rw [← hafter]
      exact List.takeWhile_append_dropWhile.symm
    · rw [← hafter] at hd
      exact hnext d hd (head_pastDigits hd)
  · cases h

theorem value_append_singleton (c : Char) : value (t ++ [c]) = value t * 10 + digit c := by
  simp [value, valueFrom]

theorem digitChar_digit : ∀ d < 10, Nat.digitChar d = Char.ofNat (48 + d) := by decide

theorem digitChar_of_isDigit {c : Char} (h : isDigit c = true) :
    digit c < 10 ∧ Nat.digitChar (digit c) = c := by
  simp only [isDigit, Bool.and_eq_true, decide_eq_true_eq] at h
  have hlt : digit c < 10 := by unfold digit; omega
  refine ⟨hlt, ?_⟩
  rw [digitChar_digit _ hlt, show 48 + digit c = c.toNat by unfold digit; omega, Char.ofNat_toNat]

/-- Digits without leading zeros are the numeral of what they denote. -/
theorem ofNat_value (h : IsWhole t) : ofNat (value t) = t := by
  induction t using List.reverseRecOn with
  | nil => exact absurd rfl h.1.1
  | append_singleton u c ih =>
    obtain ⟨hlt, hchar⟩ := digitChar_of_isDigit (h.1.2 c (by simp))
    rw [value_append_singleton]
    cases u with
    | nil =>
      show Nat.toDigits 10 (value [] * 10 + digit c) = [c]
      rw [show value [] * 10 + digit c = digit c by simp [value, valueFrom],
        Nat.toDigits_of_lt_base hlt, hchar]
    | cons d u =>
      -- the last digit comes off behind; what is in front of it does not start with a zero either
      have hd : d ≠ '0' := by
        rintro rfl
        simpa using h.2 rfl
      have hfront : IsWhole (d :: u) :=
        ⟨⟨by simp, fun e he => h.1.2 e (List.mem_append_left _ he)⟩,
          fun hhead => absurd (Option.some.inj hhead) hd⟩
      have hvalue := ih hfront
      have hpos : value (d :: u) ≠ 0 := by
        intro hzero
        rw [hzero] at hvalue
        exact hd (List.cons.inj hvalue).1.symm
      have hten : 10 ≤ value (d :: u) * 10 + digit c := by omega
      show Nat.toDigits 10 _ = _
      rw [Nat.toDigits_of_base_le (by decide) hten,
        show (value (d :: u) * 10 + digit c) / 10 = value (d :: u) by omega,
        show (value (d :: u) * 10 + digit c) % 10 = digit c by omega, hchar]
      exact congrArg (· ++ [c]) hvalue

theorem isNumber_ofNat (n : Nat) : IsNumber (ofNat n) := by
  have hwhole : IsWhole (ofNat n) := by
    refine ⟨⟨ofNat_ne_nil n, fun _ hc => isDigit_ofNat hc⟩, fun hzero => ?_⟩
    rcases Nat.eq_zero_or_pos n with rfl | hpos
    · rfl
    · obtain ⟨c, ds, hds, hc⟩ := head_ofNat hpos
      rw [hds] at hzero
      exact absurd (Option.some.inj hzero) hc
  have hnumber : IsNumber (ofNat n ++ ([] ++ [])) := .positive hwhole (.inl rfl) (.inl rfl)
  simpa using hnumber

end Numbers

end PrimitiveSearch.Json
