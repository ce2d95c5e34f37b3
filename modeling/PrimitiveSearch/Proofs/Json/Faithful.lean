import PrimitiveSearch.Proofs.Json.Grammar

/-!
# Readers against the grammar

* `Json.Faithful` — a reader passes over white space, takes nothing but what the grammar spells, and
  stops behind the value that a text spells; a relation tells what it makes of the value.
* `faithful_string`, `faithful_integer`, `faithful_optional` — the readers of the simple types.
-/

set_option autoImplicit false

namespace PrimitiveSearch.Json

open Numeral

variable {α : Type} {v : Value} {c : Char} {t rest after : Text}

/-! ## How values start -/

/-- The characters that a value may start with. -/
def Value.StartsWith : Value → Char → Prop
  | .null, c => c = 'n'
  | .boolean b, c => c = if b then 't' else 'f'
  | .number _, c => c = '-' ∨ isDigit c = true
  | .string _, c => c = '"'
  | .list _, c => c = '['
  | .object _, c => c = '{'

theorem Spells.starts (h : Spells v t) : ∃ c u, t = c :: u ∧ v.StartsWith c := by
  cases h with
  | null => exact ⟨_, _, rfl, rfl⟩
  | boolean b => cases b <;> exact ⟨_, _, rfl, rfl⟩
  | number hnumber =>
    cases hnumber with
    | @positive whole fraction power hwhole _ _ =>
      obtain ⟨c, u, rfl⟩ := List.exists_cons_of_ne_nil hwhole.1.1
      exact ⟨c, _, rfl, .inr (hwhole.1.2 c List.mem_cons_self)⟩
    | negative => exact ⟨_, _, rfl, .inl rfl⟩
  | string => exact ⟨_, _, rfl, rfl⟩
  | list => exact ⟨_, _, rfl, rfl⟩
  | object => exact ⟨_, _, rfl, rfl⟩

theorem Value.StartsWith.not_space (h : v.StartsWith c) : isSpace c = false := by
  cases v with
  | boolean b => cases b <;> (obtain rfl : c = _ := h; decide)
  | number =>
    rcases h with rfl | hdigit
    · decide
    · exact not_space_of_isDigit hdigit
  | null | string | list | object =>
    obtain rfl : c = _ := h
    decide

/-- A first character that is no digit belongs to one kind of value only. -/
theorem Value.StartsWith.kind (h : v.StartsWith c) (hdigit : isDigit c = false) :
    (c = 'n' → v = .null) ∧ (c = '"' → ∃ t, v = .string t) ∧ (c = '[' → ∃ vs, v = .list vs) ∧
      (c = '{' → ∃ ms, v = .object ms) := by
  cases v with
  | boolean b => cases b <;> (obtain rfl : c = _ := h; simp)
  | number =>
    rcases h with rfl | hd
    · simp
    · rw [hdigit] at hd
      cases hd
  | null | string | list | object =>
    obtain rfl : c = _ := h
    simp

/-- Only a number starts with a digit. -/
theorem Value.StartsWith.number (h : v.StartsWith c) (hdigit : isDigit c = true) :
    ∃ numeral, v = .number numeral := by
  cases v with
  | boolean b => cases b <;> (obtain rfl : c = _ := h; cases hdigit)
  | number numeral => exact ⟨numeral, rfl⟩
  | null | string | list | object =>
    obtain rfl : c = _ := h
    cases hdigit

theorem skipSpace_spelt (h : Spells v t) (rest : Text) : skipSpace (t ++ rest) = t ++ rest := by
  obtain ⟨c, u, rfl, hc⟩ := h.starts
  exact skipSpace_cons hc.not_space _

/-! ## Faithful readers -/

/-- A reader is faithful to the grammar, and `R` tells what it makes of a value. -/
structure Faithful (item : Reader α) (R : Value → α → Prop) : Prop where
  gap : ∀ {gap : Text}, IsGap gap → ∀ t, item (gap ++ t) = item t
  follows : ∀ {v : Value} {t rest after : Text} {a : α}, Spells v t → Delimited rest →
    item (t ++ rest) = .ok (a, after) → after = rest ∧ R v a
  spelt : ∀ {t after : Text} {a : α}, item t = .ok (a, after) →
    ∃ gap v body, IsGap gap ∧ Spells v body ∧ t = gap ++ (body ++ after)

/-- A reader takes a value, which is spelt in front of a text where a value may end. -/
def Takes (item : Reader α) (v : Value) (a : α) : Prop :=
  ∃ t rest, Spells v t ∧ Delimited rest ∧ item (t ++ rest) = .ok (a, rest)

theorem Faithful.of_takes {item : Reader α} {R : Value → α → Prop} {a : α} (h : Faithful item R)
    (htakes : Takes item v a) : R v a := by
  obtain ⟨t, rest, ht, hrest, hitem⟩ := htakes
  exact (h.follows ht hrest hitem).2

theorem Faithful.takes {item : Reader α} {R : Value → α → Prop} {a : α} (h : Faithful item R)
    (ht : Spells v t) (hrest : Delimited rest) (hitem : item (t ++ rest) = .ok (a, after)) :
    after = rest ∧ Takes item v a := by
  obtain ⟨rfl, -⟩ := h.follows ht hrest hitem
  exact ⟨rfl, t, after, ht, hrest, hitem⟩

theorem Faithful.mono {item : Reader α} {R R' : Value → α → Prop} (h : Faithful item R)
    (hR : ∀ v a, R v a → R' v a) : Faithful item R' where
  gap := h.gap
  follows ht hrest hitem := (h.follows ht hrest hitem).imp_right (hR _ _)
  spelt := h.spelt

theorem map_eq_ok_iff {β ε : Type} {f : α → β} {x : Except ε α} {b : β} :
    x.map f = .ok b ↔ ∃ a, x = .ok a ∧ f a = b := by
  cases x <;> simp [Except.map]

theorem mapped_eq_ok_iff {β : Type} {f : α → β} {item : Reader α} {b : β} :
    mapped f item t = .ok (b, after) ↔ ∃ a, item t = .ok (a, after) ∧ f a = b := by
  simp [mapped, map_eq_ok_iff]

theorem Faithful.mapped {β : Type} {item : Reader α} {R : Value → α → Prop} (f : α → β)
    (h : Faithful item R) : Faithful (mapped f item) fun v b => ∃ a, R v a ∧ f a = b where
  gap hgap t := by rw [Json.mapped, h.gap hgap, Json.mapped]
  follows ht hrest hread := by
    obtain ⟨a, hitem, rfl⟩ := mapped_eq_ok_iff.mp hread
    obtain ⟨hafter, ha⟩ := h.follows ht hrest hitem
    exact ⟨hafter, a, ha, rfl⟩
  spelt hread := by
    obtain ⟨a, hitem, -⟩ := mapped_eq_ok_iff.mp hread
    exact h.spelt hitem

/-! ## Values of another type -/

theorem bind_ne_ok {β ε : Type} {x : Except ε α} {f : α → Except ε β}
    (h : ∀ a b, f a ≠ .ok b) (b : β) : x.bind f ≠ .ok b := by
  cases x with
  | error fault => exact fun hx => by cases hx
  | ok a => exact h a b

/-- A value of another type is refused, whatever it is. -/
theorem mismatch_ne_ok {expected : Text} {a : α} : mismatch expected t ≠ .ok a := by
  unfold mismatch
  dsimp only
  split
  · simp [failAt]
  have hwrong : ∀ (found : Found) (rest : Text) (b : α),
      (failAt (.wrongType found expected) rest : Except Fault α) ≠ .ok b := by simp [failAt]
  repeat' split
  all_goals first
    | exact hwrong _ _ a
    | exact bind_ne_ok (fun _ => hwrong _ _) a
    | exact bind_ne_ok (fun x => by obtain ⟨n | n, u⟩ := x <;> exact hwrong _ _) a
    | simp [failPast]

/-! ## Strings -/

theorem string_eq_ok {expected s : Text} (h : string expected t = .ok (s, after)) :
    ∃ u, skipSpace t = '"' :: u ∧ stringBody u = .ok (s, after) := by
  unfold string at h
  split at h
  · exact ⟨_, ‹_›, h⟩
  · exact absurd h mismatch_ne_ok

theorem faithful_string (expected : Text) :
    Faithful (string expected) fun v s => v = .string s where
  gap hgap t := by rw [string, string, skipSpace_append hgap]
  follows := by
    intro v t rest after s ht _ hread
    obtain ⟨u, hu, hbody⟩ := string_eq_ok hread
    rw [skipSpace_spelt ht] at hu
    obtain ⟨c, w, rfl, hc⟩ := ht.starts
    obtain ⟨rfl, rfl⟩ := List.cons.inj hu
    obtain ⟨s', rfl⟩ := (hc.kind (by decide)).2.1 rfl
    cases ht with
    | @string _ body hspelt =>
      have hread' : stringBody (body ++ ['"'] ++ rest) = .ok (s', rest) :=
        stringBody_eq_ok_iff.mpr ⟨body, hspelt, by simp⟩
      obtain ⟨rfl, rfl⟩ := Prod.mk.inj (Except.ok.inj (hread'.symm.trans hbody))
      exact ⟨rfl, rfl⟩
  spelt := by
    intro t after s hread
    obtain ⟨u, hu, hbody⟩ := string_eq_ok hread
    obtain ⟨gap, hgap, ht⟩ := exists_gap t
    obtain ⟨body, hspelt, rfl⟩ := stringBody_eq_ok_iff.mp hbody
    exact ⟨gap, .string s, _, hgap, .string hspelt, by rw [ht, hu]; simp⟩

/-! ## Whole numbers -/

/-- A check that refuses all but whole numbers in a range lets only those through. -/
theorem number_of_check {low high n : Int} {expected : Text} {x : Except Fault (Number × Text)}
    {check : Number × Text → Except Fault (Int × Text)}
    (hinteger : ∀ k u, check (.integer k, u) =
      if low ≤ k ∧ k ≤ high then .ok (k, u) else failAt (.outOfRange k expected) u)
    (hreal : ∀ y u, check (.real y, u) = failAt (.wrongType (.real y) expected) u)
    (h : x.bind check = .ok (n, after)) : x = .ok (.integer n, after) ∧ low ≤ n ∧ n ≤ high := by
  rcases x with fault | ⟨k | y, u⟩
  · cases h
  · have hk : check (.integer k, u) = .ok (n, after) := h
    rw [hinteger] at hk
    split at hk
    · obtain ⟨rfl, rfl⟩ := Prod.mk.inj (Except.ok.inj hk)
      exact ⟨rfl, ‹_›⟩
    · cases hk
  · have hy : check (.real y, u) = .ok (n, after) := h
    rw [hreal] at hy
    cases hy

/-- What is read as a whole number from zero on. -/
theorem integer_eq_ok {high n : Int} {expected : Text}
    (h : integer 0 high expected t = .ok (n, after)) :
    ∃ digits, IsWhole digits ∧ skipSpace t = digits ++ after ∧ n = value digits ∧ n ≤ high ∧
      ∀ c, after.head? = some c → goesOn c = false := by
  unfold integer at h
  dsimp only at h
  split at h
  · -- a number with a minus sign is below zero, if it is whole
    obtain ⟨hnumber, hlow, -⟩ := number_of_check (fun _ _ => rfl) (fun _ _ => rfl) h
    obtain ⟨digits, -, -, hwhole, -⟩ := number_eq_integer hnumber
    unfold whole at hwhole
    rw [if_neg Bool.false_ne_true] at hwhole
    split at hwhole
    · cases hwhole
    · have hvalue := Number.integer.inj hwhole
      omega
  · cases h
  · rename_i c u hskip
    split at h
    · obtain ⟨hnumber, -, hhigh⟩ := number_of_check (fun _ _ => rfl) (fun _ _ => rfl) h
      obtain ⟨digits, hdigits, hu, hwhole, hafter⟩ := number_eq_integer hnumber
      unfold whole at hwhole
      rw [if_pos rfl] at hwhole
      exact ⟨digits, hdigits, hskip.trans hu, (Number.integer.inj hwhole).symm, hhigh, hafter⟩
    · exact absurd h mismatch_ne_ok

/-- Digits in front of something that is no digit end where they end. -/
theorem digits_eq {digits digits' : Text} (hdigits : IsDigits digits) (hdigits' : IsDigits digits')
    (hrest : ∀ c, rest.head? = some c → isDigit c = false)
    (hafter : ∀ c, after.head? = some c → isDigit c = false)
    (h : digits ++ rest = digits' ++ after) : digits = digits' ∧ rest = after := by
  obtain ⟨hfront, hback⟩ := Text.takeWhile_append_stop hdigits.2 hrest
  obtain ⟨hfront', hback'⟩ := Text.takeWhile_append_stop hdigits'.2 hafter
  rw [h, hfront'] at hfront
  rw [h, hback'] at hback
  exact ⟨hfront.symm, hback.symm⟩

theorem not_digit_of_not_goesOn (h : goesOn c = false) : isDigit c = false := by
  simp only [goesOn, Bool.or_eq_false_iff] at h
  exact h.1.1.1

theorem Delimited.not_goesOn (h : Delimited rest) (hc : rest.head? = some c) :
    goesOn c = false := by
  rcases h c hc with hspace | rfl | rfl | rfl
  · simp only [isSpace, Bool.or_eq_true, beq_iff_eq] at hspace
    rcases hspace with ((rfl | rfl) | rfl) | rfl <;> decide
  · decide
  · decide
  · decide

/-- What stands behind the whole part of a number is no digit, and unless the number goes on there
it is what stands behind the number. -/
theorem head_fraction {fraction power : Text} (hfraction : IsFraction fraction)
    (hpower : IsPower power) (hrest : Delimited rest) :
    (∀ c, (fraction ++ power ++ rest).head? = some c → isDigit c = false) ∧
      ((∀ c, (fraction ++ power ++ rest).head? = some c → goesOn c = false) →
        fraction = [] ∧ power = []) := by
  rcases hfraction with rfl | ⟨digits, -, rfl⟩
  · rcases hpower with rfl | ⟨e, sign, digits, he, -, -, rfl⟩
    · refine ⟨fun c hc => ?_, fun _ => ⟨rfl, rfl⟩⟩
      exact not_digit_of_not_goesOn (hrest.not_goesOn hc)
    · refine ⟨fun c hc => ?_, fun h => ?_⟩
      · obtain rfl : e = c := Option.some.inj hc
        rcases he with rfl | rfl <;> decide
      · have hgoesOn := h e rfl
        rcases he with rfl | rfl <;> cases hgoesOn
  · refine ⟨fun c hc => ?_, fun h => ?_⟩
    · obtain rfl : '.' = c := Option.some.inj hc
      decide
    · cases h '.' rfl

theorem faithful_integer (high : Int) (expected : Text) : Faithful (integer 0 high expected)
    fun v n => v = .number (ofNat n.toNat) ∧ 0 ≤ n ∧ n ≤ high where
  gap hgap t := by rw [integer, integer, skipSpace_append hgap]
  follows := by
    intro v t rest after n ht hrest hread
    obtain ⟨digits, hdigits, hskip, rfl, hhigh, hafter⟩ := integer_eq_ok hread
    rw [skipSpace_spelt ht] at hskip
    -- the first character is a digit, so the value is a number
    obtain ⟨c, u, rfl, hc⟩ := ht.starts
    obtain ⟨d, ds, hd⟩ := List.exists_cons_of_ne_nil hdigits.1.1
    have hdigit : isDigit d = true := hdigits.1.2 d (hd ▸ List.mem_cons_self)
    rw [hd] at hskip
    obtain ⟨rfl, htail⟩ := List.cons.inj hskip
    obtain ⟨numeral, rfl⟩ := hc.number hdigit
    cases ht with
    | number hnumber =>
      generalize hnumeral : c :: u = numeral at hnumber
      cases hnumber with
      | negative =>
        obtain ⟨rfl, -⟩ := List.cons.inj hnumeral
        cases hdigit
      | @positive whole fraction power hwhole hfraction hpower =>
        obtain ⟨hnodigit, hends⟩ := head_fraction hfraction hpower hrest
        have hsplit : whole ++ (fraction ++ power ++ rest) = digits ++ after := by
          rw [← List.append_assoc, ← hnumeral, hd]
          exact congrArg (c :: ·) htail
        have hnodigit' : ∀ e, after.head? = some e → isDigit e = false :=
          fun e he => not_digit_of_not_goesOn (hafter e he)
        obtain ⟨rfl, hbehind⟩ := digits_eq hwhole.1 hdigits.1 hnodigit hnodigit' hsplit
        rw [← hbehind] at hafter
        obtain ⟨rfl, rfl⟩ := hends hafter
        refine ⟨hbehind.symm, ?_, Int.natCast_nonneg _, hhigh⟩
        rw [Int.toNat_natCast, ofNat_value hwhole]
        simp
  spelt := by
    intro t after n hread
    obtain ⟨digits, hdigits, hskip, -, -, -⟩ := integer_eq_ok hread
    obtain ⟨gap, hgap, ht⟩ := exists_gap t
    refine ⟨gap, .number (digits ++ ([] ++ [])), _, hgap,
      .number (.positive hdigits (.inl rfl) (.inl rfl)), ?_⟩
    rw [ht, hskip]
    simp

/-! ## Values that may be absent -/

theorem literal_eq_ok_iff {word : Text} : literal word t = .ok after ↔ t = word ++ after := by
  induction word generalizing t with
  | nil => simp [literal]
  | cons w word ih =>
    cases t with
    | nil => simp [literal, failAt]
    | cons c t =>
      unfold literal
      split
      · rename_i hc
        rw [ih, hc, List.cons_append, List.cons.injEq]
        simp
      · rename_i hc
        simp [failPast, hc]

theorem optional_eq_ok {item : Reader α} {o : Option α}
    (h : optional item t = .ok (o, after)) :
    (o = none ∧ skipSpace t = "null".toList ++ after) ∨
      ∃ a, o = some a ∧ item (skipSpace t) = .ok (a, after) ∧ (skipSpace t).head? ≠ some 'n' := by
  unfold optional at h
  split at h
  · rename_i u hskip
    obtain ⟨u', hliteral, heq⟩ := map_eq_ok_iff.mp h
    cases heq
    rw [literal_eq_ok_iff.mp hliteral] at hskip
    exact .inl ⟨rfl, hskip⟩
  · rename_i hnull
    obtain ⟨⟨a, u⟩, hitem, heq⟩ := map_eq_ok_iff.mp h
    cases heq
    refine .inr ⟨a, rfl, hitem, fun hhead => ?_⟩
    obtain ⟨u, hu⟩ := List.head?_eq_some_iff.mp hhead
    exact hnull u hu

theorem faithful_optional {item : Reader α} {R : Value → α → Prop} (h : Faithful item R) :
    Faithful (optional item) fun v o => (v = .null ∧ o = none) ∨ v ≠ .null ∧ ∃ a, o = some a ∧ R v a
    where
  gap hgap t := by rw [optional, optional, skipSpace_append hgap]
  follows := by
    intro v t rest after o ht hrest hread
    have hskip := skipSpace_spelt ht rest
    obtain ⟨c, u, hcons, hc⟩ := ht.starts
    rcases optional_eq_ok hread with ⟨rfl, hnull⟩ | ⟨a, rfl, hitem, hhead⟩
    · rw [hskip, hcons] at hnull
      obtain ⟨rfl, htail⟩ := List.cons.inj hnull
      obtain rfl := (hc.kind (by decide)).1 rfl
      cases ht
      obtain ⟨-, rfl⟩ := List.cons.inj hcons
      exact ⟨(List.append_cancel_left htail).symm, .inl ⟨rfl, rfl⟩⟩
    · rw [hskip] at hitem hhead
      obtain ⟨rfl, ha⟩ := h.follows ht hrest hitem
      refine ⟨rfl, .inr ⟨?_, a, rfl, ha⟩⟩
      rintro rfl
      obtain rfl : c = 'n' := hc
      exact hhead (by rw [hcons]; rfl)
  spelt := by
    intro t after o hread
    obtain ⟨gap, hgap, ht⟩ := exists_gap t
    rcases optional_eq_ok hread with ⟨-, hnull⟩ | ⟨a, -, hitem, -⟩
    · exact ⟨gap, .null, _, hgap, .null, by rw [ht, hnull]⟩
    · obtain ⟨gap', v, body, hgap', hbody, hskip⟩ := h.spelt hitem
      exact ⟨gap ++ gap', v, body, hgap.append hgap', hbody, by rw [ht, hskip]; simp⟩

end PrimitiveSearch.Json
