import Mathlib.Data.List.Infix
import PrimitiveSearch.Text.Letter

/-!
# White space at the ends of a text

* `Text.Blank`, `Text.Trimmed` — a text of white space only; a text without any at its ends.
* `exists_trim` — trimming takes a blank text off either end, and `trimmed_trim` leaves none.
* `trim_append_blank`, `trim_space` — conversely, white space at an end does not matter.
* `not_blank_of_isWord` — white space is told from the characters of words.
* `beforeLast?_eq_some_iff`, `cutAtFirst_eq_some_iff`, `cutAtLast_eq_some_iff` — the cuts at a
  character or a mark, read as decompositions of the text.
-/

set_option autoImplicit false

namespace PrimitiveSearch.Text

variable {t u : Text}

/-- A text of white space only. -/
abbrev Blank (t : Text) : Prop := ∀ c ∈ t, isBlank c = true

/-- A text with no white space at either end. -/
structure Trimmed (t : Text) : Prop where
  front : ∀ c, t.head? = some c → isBlank c = false
  back : ∀ c, t.getLast? = some c → isBlank c = false

theorem blank_nil : Blank [] := fun _ hc => absurd hc List.not_mem_nil

theorem blank_singleton {c : Char} (h : isBlank c = true) : Blank [c] := by
  intro d hd
  rwa [List.mem_singleton.mp hd]

@[simp] theorem isBlankText_iff : isBlankText t = true ↔ Blank t := List.all_eq_true

/-- A run of characters ends where the rest begins with none of them. -/
theorem takeWhile_append_stop {p : Char → Bool} (hu : ∀ c ∈ u, p c = true)
    (ht : ∀ c, t.head? = some c → p c = false) :
    (u ++ t).takeWhile p = u ∧ (u ++ t).dropWhile p = t := by
  rw [List.takeWhile_append_of_pos hu, List.dropWhile_append_of_pos hu]
  cases t with
  | nil => simp
  | cons c rest => simp [ht c rfl]

/-! ## Trimming one end -/

theorem trimFront_append {b : Text} (hb : Blank b) (t : Text) :
    trimFront (b ++ t) = trimFront t := List.dropWhile_append_of_pos hb

theorem exists_trimFront (t : Text) : ∃ b, Blank b ∧ t = b ++ trimFront t := by
  refine ⟨t.takeWhile isBlank, fun c hc => ?_, List.takeWhile_append_dropWhile.symm⟩
  exact List.all_eq_true.mp List.all_takeWhile c hc

theorem head_trimFront {c : Char} (h : (trimFront t).head? = some c) : isBlank c = false := by
  have := List.head?_dropWhile_not isBlank t
  unfold trimFront at h
  rw [h] at this
  simpa using this

theorem trimFront_eq_self (h : ∀ c, t.head? = some c → isBlank c = false) : trimFront t = t := by
  cases t with
  | nil => rfl
  | cons c rest => simp [trimFront, h c rfl]

theorem trimFront_eq_nil_of_blank (h : Blank t) : trimFront t = [] := by
  have := trimFront_append h []
  rwa [List.append_nil] at this

theorem trimBack_eq (t : Text) : trimBack t = (trimFront t.reverse).reverse := rfl

theorem blank_reverse (h : Blank t) : Blank t.reverse := fun c hc => h c (List.mem_reverse.mp hc)

theorem trimBack_append {b : Text} (t : Text) (hb : Blank b) :
    trimBack (t ++ b) = trimBack t := by
  rw [trimBack_eq, List.reverse_append, trimFront_append (blank_reverse hb), ← trimBack_eq]

theorem trimBack_eq_nil_of_blank (h : Blank t) : trimBack t = [] := by
  have := trimBack_append [] h
  rwa [List.nil_append] at this

theorem exists_trimBack (t : Text) : ∃ b, Blank b ∧ t = trimBack t ++ b := by
  obtain ⟨b, hb, h⟩ := exists_trimFront t.reverse
  refine ⟨b.reverse, blank_reverse hb, ?_⟩
  rw [trimBack_eq, ← List.reverse_append, ← h, List.reverse_reverse]

theorem getLast_trimBack {c : Char} (h : (trimBack t).getLast? = some c) : isBlank c = false := by
  rw [trimBack_eq, List.getLast?_reverse] at h
  exact head_trimFront h

theorem trimBack_eq_self (h : ∀ c, t.getLast? = some c → isBlank c = false) : trimBack t = t := by
  rw [trimBack_eq, trimFront_eq_self (by rwa [List.head?_reverse]), List.reverse_reverse]

theorem trimBack_isPrefix (t : Text) : trimBack t <+: t := by
  obtain ⟨b, _, h⟩ := exists_trimBack t
  exact ⟨b, h.symm⟩

/-! ## Trimming both ends -/

/-- At the end of a given text this can be computed. -/
theorem all_not_blank_iff {o : Option Char} : o.all (fun c => !isBlank c) = true ↔
    ∀ c, o = some c → isBlank c = false := by
  cases o <;> simp

theorem not_blank_of_all {o : Option Char} (h : o.all (fun c => !isBlank c) = true) :
    ∀ c, o = some c → isBlank c = false := all_not_blank_iff.mp h

instance (t : Text) : Decidable (Trimmed t) :=
  decidable_of_iff (t.head?.all (fun c => !isBlank c) = true ∧
    t.getLast?.all (fun c => !isBlank c) = true)
    ⟨fun h => ⟨not_blank_of_all h.1, not_blank_of_all h.2⟩,
      fun h => ⟨all_not_blank_iff.mpr h.front, all_not_blank_iff.mpr h.back⟩⟩

/-- White space is taken off the front first, but none comes back with the end gone. -/
@[simp] theorem trimmed_trim (t : Text) : Trimmed (trim t) := by
  refine ⟨fun c hc => ?_, fun c hc => getLast_trimBack hc⟩
  have hne : trim t ≠ [] := by rintro h; rw [h] at hc; cases hc
  obtain ⟨b, hb⟩ := trimBack_isPrefix (trimFront t)
  rw [← List.head?_append_of_ne_nil _ hne] at hc
  exact head_trimFront (hb ▸ hc)

theorem trim_eq_self (h : Trimmed t) : trim t = t := by
  unfold trim
  rw [trimFront_eq_self h.front, trimBack_eq_self h.back]

theorem exists_trim (t : Text) : ∃ a b, Blank a ∧ Blank b ∧ t = a ++ (trim t ++ b) := by
  obtain ⟨a, ha, h⟩ := exists_trimFront t
  obtain ⟨b, hb, h'⟩ := exists_trimBack (trimFront t)
  exact ⟨a, b, ha, hb, by rw [trim, ← h', ← h]⟩

theorem trim_append_blank {b : Text} (t : Text) (hb : Blank b) : trim (t ++ b) = trim t := by
  obtain ⟨a, ha, h⟩ := exists_trimFront t
  unfold trim
  rw [h, List.append_assoc, trimFront_append ha, trimFront_append ha]
  by_cases hne : trimFront t = []
  · rw [hne, List.nil_append, trimFront_eq_nil_of_blank hb]
    rfl
  · have hfront : ∀ c, (trimFront t ++ b).head? = some c → isBlank c = false := by
      intro c hc
      rw [List.head?_append_of_ne_nil _ hne] at hc
      exact head_trimFront hc
    rw [trimFront_eq_self hfront, trimBack_append _ hb,
      trimFront_eq_self fun c hc => head_trimFront hc]

/-- What does not begin with white space stops the trimming of what stands before it. -/
theorem trimFront_append_left (t : Text)
    (hu : ∀ c, u.head? = some c → isBlank c = false) :
    trimFront (t ++ u) = trimFront t ++ u := by
  obtain ⟨b, hb, ht⟩ := exists_trimFront t
  conv => lhs; rw [ht, List.append_assoc, trimFront_append hb]
  refine trimFront_eq_self fun c hc => ?_
  by_cases h : trimFront t = []
  · rw [h] at hc
    exact hu c hc
  · rw [List.head?_append_of_ne_nil _ h] at hc
    exact head_trimFront hc

theorem trimBack_append_right (ht : ∀ c, t.getLast? = some c → isBlank c = false) (u : Text) :
    trimBack (t ++ u) = t ++ trimBack u := by
  have hrev := trimFront_append_left u.reverse (u := t.reverse) (by rwa [List.head?_reverse])
  rw [trimBack_eq, List.reverse_append, hrev, List.reverse_append, List.reverse_reverse,
    ← trimBack_eq]

/-- Trimming reaches up to a trimmed text in the middle. -/
theorem trim_append_append (t : Text) {m : Text} (hm : Trimmed m) (hne : m ≠ []) (u : Text) :
    trim (t ++ (m ++ u)) = trimFront t ++ (m ++ trimBack u) := by
  have hfront : ∀ c, (m ++ u).head? = some c → isBlank c = false := by
    rw [List.head?_append_of_ne_nil _ hne]
    exact hm.front
  rw [trim, trimFront_append_left t hfront, ← List.append_assoc, trimBack_append_right _ u,
    List.append_assoc]
  rw [List.getLast?_append_of_ne_nil _ hne]
  exact hm.back

@[simp] theorem trim_trimFront (t : Text) : trim (trimFront t) = trim t := by
  rw [trim, trim, trimFront_eq_self fun c hc => head_trimFront hc]

@[simp] theorem trim_space (t : Text) : trim (' ' :: t) = trim t := by
  rw [trim, ← List.singleton_append, trimFront_append (blank_singleton rfl), ← trim]

@[simp] theorem trim_trimBack (t : Text) : trim (trimBack t) = trim t := by
  obtain ⟨b, hb, ht⟩ := exists_trimBack t
  conv => rhs; rw [ht, trim_append_blank _ hb]

/-- A text that does not begin with white space is only trimmed at its end. -/
theorem trim_isPrefix (h : ∀ c, t.head? = some c → isBlank c = false) : trim t <+: t := by
  rw [trim, trimFront_eq_self h]
  exact trimBack_isPrefix t

theorem mem_of_mem_trim {c : Char} (h : c ∈ trim t) : c ∈ t := by
  obtain ⟨a, b, _, _, ht⟩ := exists_trim t
  rw [ht]
  simp [h]

theorem count_eq_zero_of_blank {c : Char} (hc : isBlank c = false) (h : Blank t) :
    t.count c = 0 :=
  List.count_eq_zero_of_not_mem fun hm => by
    rw [h c hm] at hc
    cases hc

theorem count_trimBack {c : Char} (hc : isBlank c = false) (t : Text) :
    (trimBack t).count c = t.count c := by
  obtain ⟨b, hb, ht⟩ := exists_trimBack t
  conv => rhs; rw [ht, List.count_append, count_eq_zero_of_blank hc hb, Nat.add_zero]

/-- A trimmed text with something left over holds a character that is no white space. -/
theorem Trimmed.not_blank (h : Trimmed t) (hne : t ≠ []) : ¬ Blank t := by
  intro hb
  cases t with
  | nil => exact hne rfl
  | cons c rest =>
    have := h.front c rfl
    rw [hb c List.mem_cons_self] at this
    cases this

/-- Between trimmed ends anything may stand. -/
theorem Trimmed.join {a b : Text} (ha : Trimmed a) (hb : Trimmed b) (hane : a ≠ [])
    (hbne : b ≠ []) (m : Text) : Trimmed (a ++ (m ++ b)) := by
  refine ⟨fun c hc => ?_, fun c hc => ?_⟩
  · rw [List.head?_append_of_ne_nil _ hane] at hc
    exact ha.front c hc
  · rw [← List.append_assoc, List.getLast?_append_of_ne_nil _ hbne] at hc
    exact hb.back c hc

theorem trim_eq_nil_iff : trim t = [] ↔ Blank t := by
  constructor
  · intro h
    obtain ⟨a, b, ha, hb, ht⟩ := exists_trim t
    rw [h, List.nil_append] at ht
    rw [ht]
    exact fun c hc => (List.mem_append.mp hc).elim (ha c) (hb c)
  · intro h
    rw [trim, trimFront_eq_nil_of_blank h]
    rfl

/-! ## Words -/

/-- All white space there is, as a list of characters. -/
def blanks : List Char :=
  [9, 10, 11, 12, 13, 0x20, 0x85, 0xA0, 0x1680, 0x2000, 0x2001, 0x2002, 0x2003, 0x2004, 0x2005,
    0x2006, 0x2007, 0x2008, 0x2009, 0x200A, 0x2028, 0x2029, 0x202F, 0x205F, 0x3000].map Char.ofNat

theorem mem_blanks_of_isBlank {c : Char} (h : isBlank c = true) : c ∈ blanks := by
  have hc : Char.ofNat c.toNat = c := Char.ofNat_toNat c
  rw [← hc]
  apply List.mem_map_of_mem
  simp only [isBlank, Bool.or_eq_true, Bool.and_eq_true, decide_eq_true_eq, beq_iff_eq] at h
  simp only [List.mem_cons, List.not_mem_nil]
  omega

/-- A class of characters without white space in it. -/
theorem not_blank_of_class {p : Char → Bool} (hp : blanks.any p = false) {c : Char}
    (h : p c = true) : isBlank c = false := by
  cases hb : isBlank c with
  | false => rfl
  | true => exact absurd h (List.any_eq_false.mp hp c (mem_blanks_of_isBlank hb))

theorem not_blank_of_isWord {c : Char} (h : isWord c = true) : isBlank c = false :=
  not_blank_of_class (by decide +kernel) h

theorem isWord_of_isWordStart {c : Char} (h : isWordStart c = true) : isWord c = true := by
  unfold isWordStart at h
  unfold isWord
  split
  · rcases Bool.or_eq_true_iff.mp h with h | h <;> simp [h]
  · rename_i hc
    simp only [isAsciiLetter, Bool.or_eq_true, Bool.and_eq_true, decide_eq_true_eq,
      beq_iff_eq] at h
    rcases h with h | rfl
    · omega
    · exact absurd (by decide) hc

/-! ## Cuts at one character -/

theorem beforeLast?_eq_some_iff {c : Char} : beforeLast? c t = some u ↔ t = u ++ [c] := by
  unfold beforeLast?
  constructor
  · intro h
    split at h
    · rename_i hl
      obtain ⟨ys, rfl⟩ := List.getLast?_eq_some_iff.mp hl
      simpa using h
    · cases h
  · rintro rfl
    simp

@[simp] theorem beforeLast?_append (c : Char) (t : Text) : beforeLast? c (t ++ [c]) = some t :=
  beforeLast?_eq_some_iff.mpr rfl

theorem after?_singleton (c d : Char) (t : Text) :
    after? [c] (d :: t) = if c = d then some t else none := by
  by_cases h : c = d <;> simp [after?, h]

/-- The first occurrence of a character is the one with none before it. -/
theorem cutAtFirst_eq_some_iff {c : Char} {front back : Text} :
    cutAtFirst [c] t = some (front, back) ↔ t = front ++ c :: back ∧ c ∉ front := by
  induction t generalizing front with
  | nil => simp [cutAtFirst]
  | cons d rest ih =>
    rw [cutAtFirst, after?_singleton]
    by_cases hd : c = d
    · subst hd
      cases front with
      | nil => simp
      | cons e es =>
        simp only [↓reduceIte, Option.some.injEq, Prod.mk.injEq, List.cons_append, List.cons.injEq]
        constructor
        · rintro ⟨h, _⟩; cases h
        · rintro ⟨⟨rfl, _⟩, h⟩; exact absurd List.mem_cons_self h
    · simp only [hd, ↓reduceIte, Option.map_eq_some_iff, Prod.exists, Prod.mk.injEq]
      constructor
      · rintro ⟨f, b, h, rfl, rfl⟩
        obtain ⟨rfl, hf⟩ := ih.mp h
        exact ⟨rfl, by simp [hd, hf]⟩
      · rintro ⟨h, hf⟩
        cases front with
        | nil => cases h; exact absurd rfl hd
        | cons e es =>
          obtain ⟨rfl, rfl⟩ := List.cons.inj h
          exact ⟨es, back, ih.mpr ⟨rfl, fun hc => hf (List.mem_cons_of_mem _ hc)⟩, rfl, rfl⟩

@[simp] theorem cutAtFirst_eq_none_iff {c : Char} : cutAtFirst [c] t = none ↔ c ∉ t := by
  cases hcut : cutAtFirst [c] t with
  | some cut =>
    obtain ⟨rfl, -⟩ := cutAtFirst_eq_some_iff.mp hcut
    simp
  | none =>
    refine iff_of_true rfl fun hc => ?_
    obtain ⟨front, back, ht, hfront⟩ := List.eq_append_cons_of_mem hc
    rw [cutAtFirst_eq_some_iff.mpr ⟨ht, hfront⟩] at hcut
    cases hcut

/-! ## The cut at a mark -/

theorem after?_eq_some_iff {mark back : Text} : after? mark t = some back ↔ t = mark ++ back := by
  unfold after?
  constructor
  · intro h
    split at h
    · rename_i hpre
      obtain ⟨u, rfl⟩ := List.isPrefixOf_iff_prefix.mp hpre
      simpa [eq_comm] using h
    · cases h
  · rintro rfl
    simp

@[simp] theorem after?_append (mark back : Text) : after? mark (mark ++ back) = some back :=
  after?_eq_some_iff.mpr rfl

theorem after?_eq_none_iff {mark : Text} : after? mark t = none ↔ ¬ mark <+: t := by
  rw [after?, ite_eq_right_iff, ← List.isPrefixOf_iff_prefix]
  simp

theorem cutAtLast_eq_none_iff {mark : Text} (hne : mark ≠ []) :
    cutAtLast mark t = none ↔ ¬ mark <:+: t := by
  induction t with
  | nil => simp [cutAtLast, hne]
  | cons c rest ih =>
    rw [cutAtLast, List.infix_cons_iff, not_or, ← ih, ← after?_eq_none_iff]
    cases cutAtLast mark rest <;> simp

/-- The last occurrence of a mark is the one after whose first character there is none. -/
theorem cutAtLast_eq_some_iff {mark front back : Text} (hne : mark ≠ []) :
    cutAtLast mark t = some (front, back) ↔
      t = front ++ (mark ++ back) ∧ ¬ mark <:+: List.tail (mark ++ back) := by
  induction t generalizing front with
  | nil => simp [cutAtLast, hne]
  | cons c rest ih =>
    have hnone := cutAtLast_eq_none_iff (t := rest) hne
    rw [cutAtLast]
    cases hcut : cutAtLast mark rest with
    | some cut =>
      have hmark : mark <:+: rest :=
        Classical.not_not.mp fun h => by rw [hnone.mpr h] at hcut; cases hcut
      rw [hcut] at ih
      constructor
      · intro h
        obtain ⟨rfl, rfl⟩ := Prod.mk.inj (Option.some.inj h)
        obtain ⟨hrest, hlast⟩ := ih.mp rfl
        exact ⟨congrArg (c :: ·) hrest, hlast⟩
      · rintro ⟨h, hlast⟩
        cases front with
        | nil =>
          rw [List.nil_append] at h
          rw [← h] at hlast
          exact absurd hmark hlast
        | cons d front =>
          obtain ⟨rfl, hrest⟩ := List.cons.inj h
          rw [Option.some.inj (ih.mpr ⟨hrest, hlast⟩)]
    | none =>
      have hmark : ¬ mark <:+: rest := hnone.mp hcut
      rw [Option.map_eq_some_iff]
      constructor
      · rintro ⟨u, hafter, h⟩
        obtain ⟨rfl, rfl⟩ := Prod.mk.inj h
        have ht := after?_eq_some_iff.mp hafter
        exact ⟨ht, by rwa [← ht]⟩
      · rintro ⟨h, -⟩
        cases front with
        | nil => exact ⟨back, after?_eq_some_iff.mpr h, rfl⟩
        | cons d front =>
          obtain ⟨-, hrest⟩ := List.cons.inj h
          exact absurd ⟨front, back, (List.append_assoc ..).trans hrest.symm⟩ hmark

/-- The last occurrence of a character is the one with none after it. -/
theorem cutAtLast_singleton_eq_some_iff {c : Char} {front back : Text} :
    cutAtLast [c] t = some (front, back) ↔ t = front ++ c :: back ∧ c ∉ back := by
  rw [cutAtLast_eq_some_iff (List.cons_ne_nil c [])]
  rw [List.singleton_append, List.tail_cons, List.singleton_infix_iff]

end PrimitiveSearch.Text
