import PrimitiveSearch.Proofs.Text.Trim

/-!
# Words of a text

* `IsWord` — a run of characters other than white space.
* `words_append` — a word at the front of a text, up to white space or the end.
* `getElem?_words_one_eq_some_iff` — the second word, as a decomposition of the text.
-/

set_option autoImplicit false

namespace PrimitiveSearch.Text

variable {t u v w b : Text}

/-- A run of characters other than white space. -/
structure IsWord (w : Text) : Prop where
  ne : w ≠ []
  inside : ∀ c ∈ w, isBlank c = false

/-- Where a word may end. -/
abbrev Ended (t : Text) : Prop := ∀ c, t.head? = some c → isBlank c = true

theorem words_cons_blank {c : Char} (hc : isBlank c = true) (t : Text) :
    words (c :: t) = words t := by
  rw [words.eq_def]
  exact if_pos hc

theorem words_blank_append (hb : Blank b) (t : Text) : words (b ++ t) = words t := by
  induction b with
  | nil => rfl
  | cons c b ih =>
    rw [List.cons_append, words_cons_blank (hb c List.mem_cons_self),
      ih fun d hd => hb d (List.mem_cons_of_mem _ hd)]

theorem words_single {c : Char} (hc : isBlank c = false) (ht : Ended t) :
    words (c :: t) = [c] :: words t := by
  have hb : ¬ isBlank c = true := by simp [hc]
  rw [words.eq_def]
  cases t with
  | nil => exact if_neg hb
  | cons d rest => exact (if_neg hb).trans (if_pos (ht d rfl))

theorem words_append (hw : IsWord w) (ht : Ended t) : words (w ++ t) = w :: words t := by
  obtain ⟨hne, hinside⟩ := hw
  induction w with
  | nil => exact absurd rfl hne
  | cons c w ih =>
    have hc : isBlank c = false := hinside c List.mem_cons_self
    cases w with
    | nil => exact words_single hc ht
    | cons d w =>
      have hd : isBlank d = false := hinside d (by simp)
      have hrest := ih (by simp) fun x hx => hinside x (List.mem_cons_of_mem _ hx)
      -- the word goes on, for no white space comes
      rw [List.cons_append] at hrest
      rw [List.cons_append, List.cons_append, words.eq_def]
      simp only [hc, hd, Bool.false_eq_true, ↓reduceIte, hrest]

/-- A text has no words, or it starts with one behind some white space. -/
theorem exists_word (t : Text) : Blank t ∨
    ∃ b w u, t = b ++ (w ++ u) ∧ Blank b ∧ IsWord w ∧ Ended u := by
  obtain ⟨b, hb, ht⟩ := exists_trimFront t
  by_cases hne : trimFront t = []
  · rw [hne, List.append_nil] at ht
    exact .inl (ht ▸ hb)
  · refine .inr ⟨b, (trimFront t).takeWhile fun c => !isBlank c,
      (trimFront t).dropWhile fun c => !isBlank c, ?_, hb, ⟨?_, ?_⟩, ?_⟩
    · rw [List.takeWhile_append_dropWhile]
      exact ht
    · obtain ⟨c, rest, hcons⟩ := List.exists_cons_of_ne_nil hne
      have hc : isBlank c = false := head_trimFront (by rw [hcons]; rfl)
      simp [hcons, hc]
    · intro c hc
      simpa using List.all_eq_true.mp List.all_takeWhile c hc
    · intro c hc
      have := List.head?_dropWhile_not (fun c => !isBlank c) (trimFront t)
      rw [hc] at this
      simpa using this

theorem words_eq_nil_iff : words t = [] ↔ Blank t := by
  constructor
  · intro h
    rcases exists_word t with ht | ⟨b, w, u, rfl, hb, hw, hu⟩
    · exact ht
    · rw [words_blank_append hb, words_append hw hu] at h
      cases h
  · intro h
    have := words_blank_append h []
    rwa [List.append_nil] at this

theorem words_eq_cons_iff {ws : List Text} : words t = w :: ws ↔
    ∃ b u, t = b ++ (w ++ u) ∧ Blank b ∧ IsWord w ∧ Ended u ∧ words u = ws := by
  constructor
  · intro h
    rcases exists_word t with ht | ⟨b, w', u, rfl, hb, hw, hu⟩
    · rw [words_eq_nil_iff.mpr ht] at h
      cases h
    · rw [words_blank_append hb, words_append hw hu] at h
      obtain ⟨rfl, hws⟩ := List.cons.inj h
      exact ⟨b, u, rfl, hb, hw, hu, hws⟩
  · rintro ⟨b, u, rfl, hb, hw, hu, rfl⟩
    rw [words_blank_append hb, words_append hw hu]

/-- What stands second in a text, between white space. -/
def IsSecondWord (t v : Text) : Prop :=
  ∃ b w gap u, t = b ++ (w ++ (gap ++ (v ++ u))) ∧ Blank b ∧ IsWord w ∧ gap ≠ [] ∧ Blank gap ∧
    IsWord v ∧ Ended u

theorem getElem?_words_one_eq_some_iff : (words t)[1]? = some v ↔ IsSecondWord t v := by
  constructor
  · intro h
    cases hws : words t with
    | nil =>
      rw [hws] at h
      cases h
    | cons w ws =>
      obtain ⟨b, rest, rfl, hb, hw, hrest, hwords⟩ := words_eq_cons_iff.mp hws
      rw [hws, List.getElem?_cons_succ] at h
      obtain ⟨ws, rfl⟩ : ∃ ws', ws = v :: ws' := by
        cases ws with
        | nil => cases h
        | cons v' ws' => exact ⟨ws', by rw [Option.some.inj h]⟩
      obtain ⟨gap, u, rfl, hgap, hv, hu, -⟩ := words_eq_cons_iff.mp hwords
      refine ⟨b, w, gap, u, rfl, hb, hw, ?_, hgap, hv, hu⟩
      -- without a gap the first word would go on
      rintro rfl
      obtain ⟨c, v', rfl⟩ := List.exists_cons_of_ne_nil hv.ne
      have hblank := hrest c rfl
      rw [hv.inside c List.mem_cons_self] at hblank
      cases hblank
  · rintro ⟨b, w, gap, u, rfl, hb, hw, hne, hgap, hv, hu⟩
    have hrest : Ended (gap ++ (v ++ u)) := by
      intro c hc
      rw [List.head?_append_of_ne_nil _ hne] at hc
      exact hgap c (List.mem_of_head? hc)
    rw [words_blank_append hb, words_append hw hrest, words_blank_append hgap, words_append hv hu]
    rfl

end PrimitiveSearch.Text
