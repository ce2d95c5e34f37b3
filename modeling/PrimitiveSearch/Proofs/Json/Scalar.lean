import PrimitiveSearch.Json.Reading
import PrimitiveSearch.Json.Writing
import PrimitiveSearch.Proofs.Text.Numeral

/-!
# Numbers and strings that are written and read

* `Json.Denotes` — a text stands for a value, in front of whatever ends the value.
* `denotes_ofInt` — numerals of 64 bits, with or without a sign.
* `stringBody_written` — every string, with all that is escaped in it.
* `denotes_optional` — a value, or `null` for none.
-/

set_option autoImplicit false

namespace PrimitiveSearch.Json

open Numeral

/-! ## What a text denotes -/

/-- A text in which a value has ended: a comma, a bracket or a brace comes next, or nothing. -/
def Ends (rest : Text) : Prop := ∀ c, rest.head? = some c → c = ',' ∨ c = ']' ∨ c = '}'

theorem ends_nil : Ends [] := fun _ hc => nomatch hc

theorem ends_cons {c : Char} {rest : Text} (h : c = ',' ∨ c = ']' ∨ c = '}') :
    Ends (c :: rest) := by
  intro d hd
  obtain rfl := Option.some.inj hd
  exact h

/-- A text stands for a value.  Its first character is neither white space, which a reader
passes over, nor the bracket of a list that has ended. -/
structure Denotes {α : Type} (item : Reader α) (t : Text) (a : α) : Prop where
  starts : ∃ c u, t = c :: u ∧ isSpace c = false ∧ c ≠ ']'
  reads : ∀ rest, Ends rest → item (t ++ rest) = .ok (a, rest)

@[simp] theorem skipSpace_cons {c : Char} (h : isSpace c = false) (t : Text) :
    skipSpace (c :: t) = c :: t :=
  List.dropWhile_cons_of_neg (by simp [h])

theorem Denotes.mapped {α β : Type} {item : Reader α} {t : Text} {a : α} (f : α → β)
    (h : Denotes item t a) : Denotes (mapped f item) t (f a) where
  starts := h.starts
  reads rest hrest := by simp [Json.mapped, h.reads rest hrest, Except.map]

/-- A document that is the text of one value. -/
theorem read_of_denotes {α : Type} {item : Reader α} {t : Text} {a : α} (h : Denotes item t a) :
    read item t = .ok a := by
  have hitem := h.reads [] ends_nil
  rw [List.append_nil] at hitem
  simp [read, document, hitem, skipSpace]

/-! ## Numbers -/

theorem le_valueFrom (start : Nat) (t : Text) : start ≤ valueFrom start t := by
  induction t generalizing start with
  | nil => exact Nat.le_refl _
  | cons c t ih =>
    have hstep : start ≤ start * 10 + digit c := by omega
    exact Nat.le_trans hstep (ih _)

theorem append_eq {start : Nat} {t : Text} (h : valueFrom start t < significandBound) :
    append start t = (valueFrom start t, t.length) := by
  induction t generalizing start with
  | nil => rfl
  | cons c t ih =>
    -- what a part of the digits denotes is not greater than the whole, so none is cut off
    have hfirst : start * 10 + digit c < significandBound :=
      Nat.lt_of_le_of_lt (le_valueFrom _ t) h
    have hrest : append (start * 10 + digit c) t =
        (valueFrom start (c :: t), t.length) := ih h
    simp only [append, if_pos hfirst, hrest]
    rfl

theorem digitChar_ne_zero : ∀ d < 10, 0 < d → Nat.digitChar d ≠ '0' := by decide

/-- No numeral but that of zero starts with a zero. -/
theorem head_ofNat {n : Nat} (h : 0 < n) : ∃ c ds, ofNat n = c :: ds ∧ c ≠ '0' := by
  induction n using Nat.strongRecOn with
  | ind n ih =>
    rcases Nat.lt_or_ge n 10 with hn | hn
    · exact ⟨Nat.digitChar n, [], Nat.toDigits_of_lt_base hn, digitChar_ne_zero n hn h⟩
    · -- the last digit comes off behind, so the head is that of a tenth of the number
      obtain ⟨c, ds, hds, hc⟩ := ih (n / 10) (by omega) (by omega)
      have hlast : ofNat n = ofNat (n / 10) ++ [Nat.digitChar (n % 10)] :=
        Nat.toDigits_of_base_le (by decide) hn
      exact ⟨c, ds ++ [Nat.digitChar (n % 10)], by rw [hlast, hds, List.cons_append], hc⟩

/-- The digits in front of the end of a value are told from what follows. -/
theorem Ends.digits {ds rest : Text} (h : Ends rest) (hds : ∀ c ∈ ds, isDigit c = true) :
    digitsOf (ds ++ rest) = ds ∧ pastDigits (ds ++ rest) = rest := by
  refine Text.takeWhile_append_stop hds fun c hc => ?_
  rcases h c hc with rfl | rfl | rfl <;> decide

theorem afterWhole_ends (positive : Bool) (n : Nat) {rest : Text} (h : Ends rest) :
    afterWhole positive n 0 rest = .ok (whole positive n, rest) := by
  unfold afterWhole
  split
  · exact absurd (h '.' rfl) (by decide)
  · exact absurd (h 'e' rfl) (by decide)
  · exact absurd (h 'E' rfl) (by decide)
  · rfl

theorem number_ofNat (positive : Bool) {n : Nat} (hn : n < significandBound) {rest : Text}
    (h : Ends rest) : number positive (ofNat n ++ rest) = .ok (whole positive n, rest) := by
  rcases Nat.eq_zero_or_pos n with rfl | hpos
  · have hnone : digitsOf rest = [] := (h.digits (List.forall_mem_nil _)).1
    show number positive ('0' :: rest) = _
    simp [number, hnone, afterWhole_ends positive 0 h]
  · obtain ⟨hfront, hback⟩ := h.digits fun _ hc => isDigit_ofNat (n := n) hc
    have hall : append 0 (ofNat n) = (n, (ofNat n).length) := by
      have hvalue : valueFrom 0 (ofNat n) = n := value_ofNat n
      rw [append_eq (by rwa [hvalue]), hvalue]
    obtain ⟨c, ds, hds, hc⟩ := head_ofNat hpos
    have hdigit : isDigit c = true := isDigit_ofNat (hds ▸ List.mem_cons_self)
    rw [hds] at hfront hback hall ⊢
    rw [List.cons_append] at hfront hback ⊢
    simp only [number, if_neg hc, hdigit, hfront, hback, hall, if_true, Nat.sub_self,
      afterWhole_ends positive n h]

theorem not_space_of_isDigit {c : Char} (h : isDigit c = true) : isSpace c = false := by
  by_contra hspace
  simp only [isSpace, Bool.not_eq_false, Bool.or_eq_true, beq_iff_eq] at hspace
  rcases hspace with ((rfl | rfl) | rfl) | rfl <;> exact absurd h (by decide)

theorem exists_ofNat (n : Nat) : ∃ c ds, ofNat n = c :: ds ∧ isDigit c = true := by
  obtain ⟨c, ds, hds⟩ := List.exists_cons_of_ne_nil (ofNat_ne_nil n)
  exact ⟨c, ds, hds, isDigit_ofNat (hds ▸ List.mem_cons_self)⟩

section Integers

variable {low high : Int} {expected : Text}

theorem integer_ofNat {n : Nat} (hlow : low ≤ n) (hhigh : n ≤ high) (hn : n < 2 ^ 64)
    {rest : Text} (hrest : Ends rest) :
    integer low high expected (ofNat n ++ rest) = .ok ((n : Int), rest) := by
  have hnumber := number_ofNat true hn hrest
  obtain ⟨c, ds, hds, hc⟩ := exists_ofNat n
  rw [hds, List.cons_append] at hnumber ⊢
  simp only [integer, skipSpace_cons (not_space_of_isDigit hc)]
  split
  · rename_i heq
    cases heq
    exact absurd hc (by decide)
  · rename_i heq
    cases heq
  · rename_i heq
    cases heq
    simp [hc, hnumber, Except.bind, whole, hlow, hhigh]

theorem integer_neg {n : Nat} (hpos : 0 < n) (hn : n ≤ 2 ^ 63) (hlow : low ≤ -n)
    (hhigh : -n ≤ high) {rest : Text} (hrest : Ends rest) :
    integer low high expected ('-' :: ofNat n ++ rest) = .ok (-(n : Int), rest) := by
  have hnumber := number_ofNat false (n := n) (by unfold significandBound; omega) hrest
  have hwhole : whole false n = .integer (-n) := by
    unfold whole
    rw [if_neg Bool.false_ne_true, if_neg (by omega)]
  rw [List.cons_append]
  simp only [integer, skipSpace_cons (show isSpace '-' = false by decide), hnumber, hwhole,
    Except.bind, hlow, hhigh, and_self, if_true]

/-- A whole number is read from its numeral when it is in the range that is asked for and 64 bits
hold it, with a sign or without one. -/
theorem denotes_ofInt {n : Int} (hlow : low ≤ n) (hhigh : n ≤ high) (hleast : -2 ^ 63 ≤ n)
    (hgreatest : n < 2 ^ 64) : Denotes (integer low high expected) (ofInt n) n := by
  cases n with
  | ofNat m =>
    obtain ⟨c, ds, hds, hc⟩ := exists_ofNat m
    refine ⟨⟨c, ds, hds, not_space_of_isDigit hc, ?_⟩, fun rest hrest => ?_⟩
    · rintro rfl
      exact absurd hc (by decide)
    · exact integer_ofNat hlow hhigh (Int.ofNat_lt.mp hgreatest) hrest
  | negSucc m =>
    refine ⟨⟨'-', ofNat (m + 1), rfl, by decide, by decide⟩, fun rest hrest => ?_⟩
    rw [Int.negSucc_eq] at hlow hhigh hleast ⊢
    exact integer_neg (Nat.succ_pos m) (by omega) hlow hhigh hrest

end Integers

/-! ## Strings -/

theorem hexDigit?_digitChar : ∀ d < 16, hexDigit? (Nat.digitChar d) = some d := by decide

theorem charWidth_digitChar : ∀ d < 16, Text.charWidth (Nat.digitChar d) = 1 := by decide

/-- The escape of a control character by its number. -/
theorem escape_control {n : Nat} (h : n < 32) (rest : Text) :
    escape ('u' :: '0' :: '0' :: Nat.digitChar (n / 16) :: Nat.digitChar (n % 16) :: rest) =
      .ok (Char.ofNat n, rest) := by
  have hhigh := hexDigit?_digitChar (n / 16) (by omega)
  have hlow := hexDigit?_digitChar (n % 16) (by omega)
  have hfour : hexFour
      ('0' :: '0' :: Nat.digitChar (n / 16) :: Nat.digitChar (n % 16) :: rest) =
        .ok (n, rest) := by
    have hzero : hexDigit? '0' = some 0 := by decide
    have hwidth : Text.charWidth '0' = 1 := by decide
    have hvalue : n / 16 * 16 + n % 16 = n := by omega
    simp [hexFour, Text.byteLength, charWidth_digitChar (n / 16) (by omega),
      charWidth_digitChar (n % 16) (by omega), hwidth, hzero, hhigh, hlow, hvalue]
  have hlowHalf : isLowHalf n = false := by simp [isLowHalf]; omega
  have hhighHalf : isHighHalf n = false := by simp [isHighHalf]; omega
  simp [escape, hfour, hlowHalf, hhighHalf]

theorem stringBody_escape {t after : Text} {c : Char} (h : escape t = .ok (c, after)) :
    stringBody ('\\' :: t) = (stringBody after).map fun (t, behind) => (c :: t, behind) := by
  rw [stringBody, if_neg (by decide), if_pos rfl]
  split
  · rename_i hfault
    rw [h] at hfault
    cases hfault
  · rename_i hread
    cases h.symm.trans hread
    cases stringBody after <;> rfl

theorem stringBody_plain {c : Char} (hquote : c ≠ '"') (hslash : c ≠ '\\')
    (hcontrol : isControl c = false) (rest : Text) :
    stringBody (c :: rest) = (stringBody rest).map fun (t, behind) => (c :: t, behind) := by
  rw [stringBody, if_neg hquote, if_neg hslash, hcontrol]
  cases stringBody rest <;> rfl

/-- One character as it is written is read as that character. -/
@[simp] theorem stringBody_stringChar (c : Char) (rest : Text) :
    stringBody (stringChar c ++ rest) =
      (stringBody rest).map fun (t, behind) => (c :: t, behind) := by
  unfold stringChar
  split
  · subst c; exact stringBody_escape rfl
  split
  · subst c; exact stringBody_escape rfl
  split
  · subst c; exact stringBody_escape rfl
  split
  · subst c; exact stringBody_escape rfl
  split
  · subst c; exact stringBody_escape rfl
  split
  · subst c; exact stringBody_escape rfl
  split
  · subst c; exact stringBody_escape rfl
  split
  · -- a control character without a letter of its own
    rename_i hcontrol
    have hescape := escape_control hcontrol rest
    rw [Char.ofNat_toNat] at hescape
    exact stringBody_escape hescape
  · rename_i hquote hslash _ _ _ _ _ hcontrol
    exact stringBody_plain hquote hslash (decide_eq_false hcontrol) rest

@[simp] theorem stringBody_written (t rest : Text) :
    stringBody (t.flatMap stringChar ++ '"' :: rest) = .ok (t, rest) := by
  induction t with
  | nil => simp [stringBody]
  | cons c t ih =>
    rw [List.flatMap_cons, List.append_assoc, stringBody_stringChar, ih]
    rfl

theorem denotes_string (expected t : Text) : Denotes (string expected) (stringText t) t where
  starts := ⟨'"', _, rfl, by decide, by decide⟩
  reads rest _ := by
    have hopen : skipSpace (stringText t ++ rest) = '"' :: (t.flatMap stringChar ++ '"' :: rest) := by
      rw [stringText, List.cons_append, List.cons_append, List.append_assoc]
      exact skipSpace_cons (by decide) _
    simp only [string, hopen]
    exact stringBody_written t rest

/-! ## Values that may be absent -/

/-- A value that may be absent is told from `null` by its first character. -/
theorem denotes_optional {α : Type} {item : Reader α} {write : α → Text}
    (h : ∀ a, Denotes item (write a) a) (hnull : ∀ a, (write a).head? ≠ some 'n')
    (o : Option α) : Denotes (optional item) (optionalText write o) o := by
  cases o with
  | none =>
    refine ⟨⟨'n', "ull".toList, rfl, by decide, by decide⟩, fun rest _ => ?_⟩
    show optional item ('n' :: 'u' :: 'l' :: 'l' :: rest) = _
    have hspace : isSpace 'n' = false := by decide
    simp [optional, hspace, literal, Except.map]
  | some a =>
    refine ⟨(h a).starts, fun rest hrest => ?_⟩
    obtain ⟨c, u, hwrite, hspace, -⟩ := (h a).starts
    have hread := (h a).reads rest hrest
    have hc : c ≠ 'n' := fun hc => hnull a (by rw [hwrite, hc]; rfl)
    show optional item (write a ++ rest) = _
    rw [hwrite, List.cons_append] at hread ⊢
    simp [optional, hspace, hc, hread, Except.map]

end PrimitiveSearch.Json
