import PrimitiveSearch.Proofs.Text.Trim

/-!
# Lines of composed texts

* `lines_append` — a line feed separates: the lines before it and after it are read on their own.
* `lines_unlines` — lines put together are read back, if none holds a line feed or ends in a
  carriage return and the last is not empty.
* `lines_append_left` — a text without line feeds goes on the first line of what follows it.
* `trimLines` — the lines of a text, trimmed; `trimLines_append` is for two texts with a line feed
  between them.
* `firstLine`, `behindFirst` — a text up to its first line feed, and behind it;
  `trimLines_of_ne_nil` reads the lines one by one.
* `countIn` — how often a character stands on some lines.
-/

set_option autoImplicit false

namespace PrimitiveSearch.Text

variable {t u : Text}

/-- The lines of a text, trimmed. -/
abbrev trimLines (t : Text) : List Text := (lines t).map trim

/-! ## Reading character by character -/

/-- A character in front of the first of some lines. -/
def onFirst (c : Char) : List Text → List Text
  | [] => [[c]]
  | l :: ls => (c :: l) :: ls

theorem onFirst_append (c : Char) {ls : List Text} (hne : ls ≠ []) (ms : List Text) :
    onFirst c (ls ++ ms) = onFirst c ls ++ ms := by
  cases ls with
  | nil => exact absurd rfl hne
  | cons l ls => rfl

@[simp] theorem lines_newline (t : Text) : lines ('\n' :: t) = [] :: lines t := by rw [lines]

/-- A carriage return before a line feed belongs to no line. -/
theorem lines_return (h : t.head? = some '\n') : lines ('\r' :: t) = lines t := by
  obtain ⟨rest, rfl⟩ := List.head?_eq_some_iff.mp h
  rw [lines, lines]

/-- A character that ends no line stands on the line that follows it. -/
theorem lines_cons {c : Char} (hc : c ≠ '\n') (hr : c = '\r' → t.head? ≠ some '\n') :
    lines (c :: t) = onFirst c (lines t) := by
  rw [lines]
  · cases lines t <;> rfl
  · exact hc
  · rintro rest rfl rfl
    exact hr rfl rfl

theorem lines_ne_nil (h : t ≠ []) : lines t ≠ [] := by
  cases t with
  | nil => exact absurd rfl h
  | cons c rest =>
    by_cases hc : c = '\n'
    · subst hc
      simp
    · by_cases hr : c = '\r' ∧ rest.head? = some '\n'
      · obtain ⟨rfl, hr⟩ := hr
        obtain ⟨more, rfl⟩ := List.head?_eq_some_iff.mp hr
        simp [lines_return hr]
      · rw [lines_cons hc fun h => not_and.mp hr h]
        cases lines rest <;> simp [onFirst]

/-! ## Lines of two texts -/

theorem lines_append (t u : Text) : lines (t ++ '\n' :: u) = lines (t ++ ['\n']) ++ lines u := by
  induction t with
  | nil => rw [List.nil_append, List.nil_append, lines_newline, lines_newline]; rfl
  | cons c rest ih =>
    have hhead : (rest ++ '\n' :: u).head? = (rest ++ ['\n']).head? := by cases rest <;> rfl
    rw [List.cons_append, List.cons_append]
    by_cases hc : c = '\n'
    · subst hc
      rw [lines_newline, lines_newline, ih, List.cons_append]
    · by_cases hr : c = '\r' ∧ (rest ++ ['\n']).head? = some '\n'
      · obtain ⟨rfl, hr⟩ := hr
        rw [lines_return (hhead.trans hr), lines_return hr, ih]
      · have hr' := not_and.mp hr
        rw [lines_cons hc hr', lines_cons hc (hhead ▸ hr'), ih,
          onFirst_append c (lines_ne_nil (by simp))]

/-- A text without line feeds is one line, unless it is empty. -/
theorem lines_of_not_mem (h : '\n' ∉ t) (hne : t ≠ []) : lines t = [t] := by
  induction t with
  | nil => exact absurd rfl hne
  | cons c rest ih =>
    rw [List.mem_cons, not_or] at h
    have hhead : rest.head? ≠ some '\n' := fun hr => h.2 (List.mem_of_head? hr)
    rw [lines_cons (Ne.symm h.1) fun _ => hhead]
    by_cases hrest : rest = []
    · subst hrest
      rfl
    · rw [ih h.2 hrest]
      rfl

/-- A text without line feeds stands in front of the first line of what follows it; a carriage
return at its end would go along with a line feed. -/
theorem lines_append_left {first : Text} {more : List Text} (h : '\n' ∉ t)
    (hr : t.getLast? = some '\r' → u.head? ≠ some '\n') (hu : lines u = first :: more) :
    lines (t ++ u) = (t ++ first) :: more := by
  induction t with
  | nil => exact hu
  | cons c rest ih =>
    rw [List.mem_cons, not_or] at h
    have hhead : c = '\r' → (rest ++ u).head? ≠ some '\n' := by
      rintro rfl
      cases rest with
      | nil => exact hr rfl
      | cons d more => exact fun hm => h.2 (List.mem_of_head? hm)
    have hlast : rest.getLast? = some '\r' → u.head? ≠ some '\n' := by
      intro hl
      rw [List.getLast?_cons, hl] at hr
      exact hr rfl
    rw [List.cons_append, lines_cons (Ne.symm h.1) hhead, ih h.2 hlast]
    rfl

/-- A line with what ends it. -/
theorem lines_ended {e : Text} (he : lines e = [[]]) (h : '\n' ∉ t)
    (hr : t.getLast? = some '\r' → e.head? ≠ some '\n') : lines (t ++ e) = [t] := by
  rw [lines_append_left h hr he, List.append_nil]

/-! ## Lines put together -/

theorem mem_intercalate_of_mem {sep l : Text} {ls : List Text} {c : Char} (hl : l ∈ ls)
    (hc : c ∈ l) : c ∈ List.intercalate sep ls := by
  induction ls with
  | nil => cases hl
  | cons m ls ih =>
    by_cases hne : ls = []
    · subst hne
      rw [List.intercalate_singleton]
      rwa [List.mem_singleton.mp hl] at hc
    · rw [List.intercalate_cons_of_ne_nil hne, List.mem_append, List.mem_append]
      rcases List.mem_cons.mp hl with rfl | hl
      · exact .inl (.inl hc)
      · exact .inr (ih hl)

theorem mem_of_mem_intercalate {sep : Text} {ls : List Text} {c : Char}
    (h : c ∈ List.intercalate sep ls) : c ∈ sep ∨ ∃ l ∈ ls, c ∈ l := by
  induction ls with
  | nil => cases h
  | cons l ls ih =>
    by_cases hne : ls = []
    · subst hne
      rw [List.intercalate_singleton] at h
      exact .inr ⟨l, List.mem_cons_self, h⟩
    · rw [List.intercalate_cons_of_ne_nil hne, List.mem_append, List.mem_append] at h
      rcases h with (h | h) | h
      · exact .inr ⟨l, List.mem_cons_self, h⟩
      · exact .inl h
      · exact (ih h).imp_right fun ⟨m, hm, hc⟩ => ⟨m, List.mem_cons_of_mem _ hm, hc⟩

/-- What may stand on a line and is read back from it. -/
structure IsLine (l : Text) : Prop where
  inside : '\n' ∉ l
  back : l.getLast? ≠ some '\r'

theorem lines_line {l : Text} (h : IsLine l) : lines (l ++ ['\n']) = [l] :=
  lines_ended rfl h.inside fun hr => absurd hr h.back

theorem unlines_cons (l : Text) {ls : List Text} (hne : ls ≠ []) :
    unlines (l :: ls) = l ++ '\n' :: unlines ls := by
  rw [unlines, List.intercalate_cons_of_ne_nil hne, List.append_assoc]
  rfl

@[simp] theorem unlines_singleton (l : Text) : unlines [l] = l := List.intercalate_singleton

theorem lines_unlines {ls : List Text} (hl : ∀ l ∈ ls, IsLine l)
    (hlast : ls.getLast? ≠ some []) : lines (unlines ls) = ls := by
  induction ls with
  | nil => rfl
  | cons l ls ih =>
    have hline := hl l List.mem_cons_self
    by_cases hne : ls = []
    · subst hne
      rw [unlines_singleton]
      exact lines_of_not_mem hline.inside fun h => hlast (by rw [h]; rfl)
    · have hlast' : ls.getLast? ≠ some [] := by
        rwa [List.getLast?_cons_of_ne_nil hne] at hlast
      rw [unlines_cons l hne, lines_append, lines_line hline,
        ih (fun m hm => hl m (List.mem_cons_of_mem _ hm)) hlast']
      rfl

theorem unlines_append {ls ms : List Text} (hl : ls ≠ []) (hm : ms ≠ []) :
    unlines (ls ++ ms) = unlines ls ++ '\n' :: unlines ms := by
  induction ls with
  | nil => exact absurd rfl hl
  | cons l ls ih =>
    by_cases hne : ls = []
    · subst hne
      rw [List.singleton_append, unlines_cons l hm, unlines_singleton]
    · rw [List.cons_append, unlines_cons l (by simp [hne]), unlines_cons l hne, ih hne]
      simp

theorem unlines_concat (ls : List Text) (l : Text) : unlines (ls ++ [l]) = ofLines ls ++ l := by
  induction ls with
  | nil => exact unlines_singleton l
  | cons m ls ih =>
    rw [List.cons_append, unlines_cons m (by simp), ih]
    simp

theorem exists_concat {ls : List Text} (hne : ls ≠ []) : ∃ ms l, ls = ms ++ [l] :=
  ⟨_, _, (List.dropLast_concat_getLast hne).symm⟩

/-- No line feed is missing but the last. -/
theorem ofLines_eq {ls : List Text} (hne : ls ≠ []) : ofLines ls = unlines ls ++ ['\n'] := by
  obtain ⟨ms, l, rfl⟩ := exists_concat hne
  rw [unlines_concat]
  simp

/-- Lines at the front of a file are read back. -/
theorem lines_ofLines_append {ls : List Text} (hl : ∀ l ∈ ls, IsLine l) (t : Text) :
    lines (ofLines ls ++ t) = ls ++ lines t := by
  induction ls with
  | nil => rfl
  | cons l ls ih =>
    rw [ofLines_cons, List.append_assoc, List.cons_append, lines_append,
      lines_line (hl l List.mem_cons_self), ih fun m hm => hl m (List.mem_cons_of_mem _ hm)]
    rfl

/-- The lines of a file are read back. -/
theorem lines_ofLines {ls : List Text} (hl : ∀ l ∈ ls, IsLine l) : lines (ofLines ls) = ls := by
  simpa [lines] using lines_ofLines_append hl []

/-- A text that is empty or ends in a line feed has its lines for itself. -/
theorem lines_append_of_ended {t : Text} (h : t = [] ∨ t.getLast? = some '\n') (u : Text) :
    lines (t ++ u) = lines t ++ lines u := by
  rcases h with rfl | h
  · rfl
  · obtain ⟨front, rfl⟩ := List.getLast?_eq_some_iff.mp h
    rw [List.append_assoc, List.singleton_append, lines_append]

/-- White space after lines that end in something else is taken off again. -/
theorem trimBack_unlines {ls : List Text} {b : Text} (hb : Blank b)
    (h : ∀ l ∈ ls, Trimmed l ∧ l ≠ []) : trimBack (unlines ls ++ b) = unlines ls := by
  rw [trimBack_append _ hb]
  by_cases hne : ls = []
  · subst hne
    rfl
  · obtain ⟨ms, l, rfl⟩ := exists_concat hne
    obtain ⟨htrim, hl⟩ := h l (by simp)
    rw [unlines_concat]
    refine trimBack_eq_self fun c hc => htrim.back c ?_
    rwa [List.getLast?_append_of_ne_nil _ hl] at hc

/-- Lines of which the last goes on with the text `e`. -/
def onBack (ls : List Text) (e : Text) : List Text := ls.dropLast ++ [ls.getLastD [] ++ e]

@[simp] theorem unlines_onBack (ls : List Text) (e : Text) :
    unlines (onBack ls e) = unlines ls ++ e := by
  induction ls with
  | nil => exact unlines_singleton _
  | cons l ls ih =>
    by_cases hne : ls = []
    · subst hne
      exact (unlines_singleton _).trans (by rw [unlines_singleton]; rfl)
    · have hcons : onBack (l :: ls) e = l :: onBack ls e := by
        simp [onBack, List.dropLast_cons_of_ne_nil hne, List.getLastD_eq_getLast?,
          List.getLast?_cons_of_ne_nil hne]
      rw [hcons, unlines_cons l (by simp [onBack]), ih, unlines_cons l hne]
      simp

/-- Lines of which the first comes after the text `f`. -/
def onFront (f : Text) : List Text → List Text
  | [] => [f]
  | l :: ls => (f ++ l) :: ls

@[simp] theorem unlines_onFront (f : Text) (ls : List Text) :
    unlines (onFront f ls) = f ++ unlines ls := by
  cases ls with
  | nil => exact (unlines_singleton f).trans (List.append_nil f).symm
  | cons l ls =>
    by_cases hne : ls = []
    · subst hne
      rw [onFront, unlines_singleton, unlines_singleton]
    · rw [onFront, unlines_cons _ hne, unlines_cons _ hne, List.append_assoc]

/-- Putting lines together in groups and then the groups. -/
theorem unlines_flatten {gs : List (List Text)} (h : ∀ g ∈ gs, g ≠ []) :
    unlines (gs.map unlines) = unlines gs.flatten := by
  induction gs with
  | nil => rfl
  | cons g gs ih =>
    have hg := h g List.mem_cons_self
    have hgs : ∀ g' ∈ gs, g' ≠ [] := fun g' hg' => h g' (List.mem_cons_of_mem _ hg')
    by_cases hne : gs = []
    · subst hne
      rw [List.map_singleton, unlines_singleton, List.flatten_singleton]
    · have hflat : gs.flatten ≠ [] := by
        obtain ⟨g', gs', rfl⟩ := List.exists_cons_of_ne_nil hne
        simp [hgs g' List.mem_cons_self]
      rw [List.map_cons, unlines_cons _ (by simpa using hne), ih hgs, List.flatten_cons,
        unlines_append hg hflat]

theorem newline_not_mem_lines {l : Text} (h : l ∈ lines t) : '\n' ∉ l := by
  induction t generalizing l with
  | nil => cases h
  | cons c rest ih =>
    by_cases hc : c = '\n'
    · subst hc
      rw [lines_newline, List.mem_cons] at h
      rcases h with rfl | h
      · exact List.not_mem_nil
      · exact ih h
    · by_cases hr : c = '\r' ∧ rest.head? = some '\n'
      · obtain ⟨rfl, hr⟩ := hr
        exact ih (lines_return hr ▸ h)
      · rw [lines_cons hc fun h => not_and.mp hr h] at h
        have honto : ∀ m : Text, '\n' ∉ m → '\n' ∉ c :: m := fun m hm hmem =>
          (List.mem_cons.mp hmem).elim (fun h => hc h.symm) hm
        cases hls : lines rest with
        | nil =>
          rw [hls] at h
          rw [List.mem_singleton.mp h]
          exact honto [] List.not_mem_nil
        | cons m ms =>
          rw [hls] at h
          rcases List.mem_cons.mp h with rfl | h
          · exact honto m (ih (hls ▸ List.mem_cons_self))
          · exact ih (hls ▸ List.mem_cons_of_mem m h)

/-! ## Counting -/

/-- How often a character stands on some lines. -/
def countIn (c : Char) : List Text → Nat
  | [] => 0
  | l :: ls => l.count c + countIn c ls

@[simp] theorem countIn_nil (c : Char) : countIn c [] = 0 := rfl

@[simp] theorem countIn_cons (c : Char) (l : Text) (ls : List Text) :
    countIn c (l :: ls) = l.count c + countIn c ls := rfl

@[simp] theorem countIn_append (c : Char) (ls ms : List Text) :
    countIn c (ls ++ ms) = countIn c ls + countIn c ms := by
  induction ls with
  | nil => simp
  | cons l ls ih => simp [ih, Nat.add_assoc]

theorem count_unlines {c : Char} (hn : c ≠ '\n') (ls : List Text) :
    (unlines ls).count c = countIn c ls := by
  induction ls with
  | nil => rfl
  | cons l ls ih =>
    by_cases hne : ls = []
    · subst hne
      simp
    · simp [unlines_cons l hne, List.count_cons_of_ne hn.symm, ih]

/-! ## Trimmed lines -/

/-- A trimmed line of a text. -/
structure Neat (l : Text) : Prop where
  inside : '\n' ∉ l
  trimmed : Trimmed l

instance (l : Text) : Decidable (Neat l) :=
  decidable_of_iff ('\n' ∉ l ∧ Trimmed l) ⟨fun h => ⟨h.1, h.2⟩, fun h => ⟨h.inside, h.trimmed⟩⟩

theorem Neat.isLine {l : Text} (h : Neat l) : IsLine l :=
  ⟨h.inside, fun hr => absurd (h.trimmed.back _ hr) (by decide)⟩

theorem Neat.join {a b m : Text} (ha : Neat a) (hb : Neat b) (hane : a ≠ []) (hbne : b ≠ [])
    (hm : '\n' ∉ m) : Neat (a ++ (m ++ b)) :=
  ⟨by simp [ha.inside, hm, hb.inside], ha.trimmed.join hb.trimmed hane hbne m⟩

/-- The front of a trimmed line is one again when its end is trimmed. -/
theorem Neat.front (h : Neat (t ++ u)) : Neat (trimBack t) := by
  obtain ⟨b, hb⟩ := trimBack_isPrefix t
  refine ⟨fun hc => h.inside ?_, fun c hc => ?_, fun c hc => getLast_trimBack hc⟩
  · rw [← hb]
    simp [hc]
  · have hne : trimBack t ≠ [] := by rintro h; rw [h] at hc; cases hc
    apply h.trimmed.front
    rwa [← hb, List.append_assoc, List.head?_append_of_ne_nil _ hne]

theorem neat_trimLines {l : Text} (h : l ∈ trimLines t) : Neat l := by
  obtain ⟨m, hm, rfl⟩ := List.mem_map.mp h
  exact ⟨fun hc => newline_not_mem_lines hm (mem_of_mem_trim hc), trimmed_trim m⟩

/-- Lines that are trimmed and not empty make a trimmed text. -/
theorem trimmed_unlines {ls : List Text} (h : ∀ l ∈ ls, Trimmed l ∧ l ≠ []) :
    Trimmed (unlines ls) := by
  induction ls with
  | nil => decide
  | cons l ls ih =>
    obtain ⟨⟨hl, hlne⟩, hls⟩ := List.forall_mem_cons.mp h
    cases ls with
    | nil => rwa [unlines_singleton]
    | cons m ms =>
      have hne : unlines (m :: ms) ≠ [] := by
        obtain ⟨c, hc⟩ := List.exists_mem_of_ne_nil m (hls m List.mem_cons_self).2
        exact List.ne_nil_of_mem (mem_intercalate_of_mem List.mem_cons_self hc)
      rw [unlines_cons l (List.cons_ne_nil m ms)]
      exact hl.join (ih hls) hlne hne ['\n']

theorem trimLines_unlines {ls : List Text} (hl : ∀ l ∈ ls, Neat l)
    (hlast : ls.getLast? ≠ some []) : trimLines (unlines ls) = ls := by
  rw [trimLines, lines_unlines (fun l h => (hl l h).isLine) hlast]
  conv => rhs; rw [← List.map_id ls]
  exact List.map_congr_left fun l h => trim_eq_self (hl l h).trimmed

/-- A text is its finished lines and an unfinished one. -/
theorem exists_unfinished (t : Text) : ∃ ls last, '\n' ∉ last ∧
    ∀ u, lines (t ++ u) = ls ++ lines (last ++ u) := by
  by_cases h : '\n' ∈ t
  · obtain ⟨a, b, hr, hb⟩ := List.eq_append_cons_of_mem (List.mem_reverse.mpr h)
    have ht : t = b.reverse ++ '\n' :: a.reverse := by
      rw [← List.reverse_reverse t, hr]
      simp
    refine ⟨lines (b.reverse ++ ['\n']), a.reverse, by simpa using hb, fun u => ?_⟩
    rw [ht, List.append_assoc, List.cons_append, lines_append]
  · exact ⟨[], t, h, fun u => rfl⟩

/-- A carriage return that the line feed takes along was white space before. -/
theorem trimLines_line (h : '\n' ∉ t) : trimLines (t ++ ['\n']) = [trim t] := by
  unfold trimLines
  by_cases hr : t.getLast? = some '\r'
  · obtain ⟨front, rfl⟩ := List.getLast?_eq_some_iff.mp hr
    have hfront : '\n' ∉ front := fun hm => h (List.mem_append_left _ hm)
    have hreturn : Blank ['\r'] := blank_singleton rfl
    have hend : lines (front ++ ['\r', '\n']) = [front] :=
      lines_ended rfl hfront fun _ h => absurd h (by decide)
    rw [List.append_assoc, List.cons_append, List.nil_append, hend, List.map_singleton,
      trim_append_blank front hreturn]
  · rw [lines_line ⟨h, hr⟩, List.map_singleton]

/-- A line feed at the end finishes the last line, or adds an empty one. -/
theorem trimLines_newline (t : Text) :
    ∃ ls, (∀ l ∈ ls, l = []) ∧ trimLines (t ++ ['\n']) = trimLines t ++ ls := by
  obtain ⟨ls, last, hlast, h⟩ := exists_unfinished t
  have ht := h []
  rw [List.append_nil, List.append_nil] at ht
  unfold trimLines
  rw [h, ht]
  by_cases hne : last = []
  · subst hne
    exact ⟨[[]], by simp, by simp [lines, trim, trimFront, trimBack]⟩
  refine ⟨[], by simp, ?_⟩
  rw [List.append_nil, List.map_append, List.map_append, lines_of_not_mem hlast hne,
    List.map_singleton]
  exact congrArg (ls.map trim ++ ·) (trimLines_line hlast)

/-- Two texts with a line feed between them. -/
theorem trimLines_append (t u : Text) :
    trimLines (t ++ '\n' :: u) = trimLines (t ++ ['\n']) ++ trimLines u := by
  rw [trimLines, lines_append, List.map_append]

/-! ## The first line -/

/-- The line that a text begins with. -/
def firstLine (t : Text) : Text := t.takeWhile (· != '\n')

/-- What stands behind the line that a text begins with. -/
def behindFirst (t : Text) : Text := (t.dropWhile (· != '\n')).tail

theorem ne_newline (h : '\n' ∉ t) : ∀ c ∈ t, (c != '\n') = true := by
  intro c hc
  rw [bne_iff_ne]
  rintro rfl
  exact h hc

theorem firstLine_append (h : '\n' ∉ t) (rest : Text) :
    firstLine (t ++ '\n' :: rest) = t ∧ behindFirst (t ++ '\n' :: rest) = rest := by
  have hstop : ∀ c, ('\n' :: rest).head? = some c → (c != '\n') = false := by
    rintro c ⟨⟩
    rfl
  obtain ⟨htake, hdrop⟩ := takeWhile_append_stop (ne_newline h) hstop
  exact ⟨htake, by rw [behindFirst, hdrop, List.tail_cons]⟩

theorem firstLine_of_not_mem (h : '\n' ∉ t) : firstLine t = t ∧ behindFirst t = [] := by
  obtain ⟨htake, hdrop⟩ := takeWhile_append_stop (t := []) (ne_newline h) nofun
  rw [List.append_nil] at htake hdrop
  exact ⟨htake, by rw [behindFirst, hdrop, List.tail_nil]⟩

theorem trimLines_of_ne_nil (hne : t ≠ []) :
    trimLines t = trim (firstLine t) :: trimLines (behindFirst t) := by
  by_cases h : '\n' ∈ t
  · obtain ⟨line, rest, rfl, hline⟩ := List.eq_append_cons_of_mem h
    obtain ⟨hfirst, hbehind⟩ := firstLine_append hline rest
    rw [trimLines_append, trimLines_line hline, hfirst, hbehind, List.singleton_append]
  · obtain ⟨hfirst, hbehind⟩ := firstLine_of_not_mem h
    rw [trimLines, lines_of_not_mem h hne, hfirst, hbehind]
    rfl

end PrimitiveSearch.Text
