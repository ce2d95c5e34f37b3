import PrimitiveSearch.Answer.Reading
import PrimitiveSearch.Proofs.Text.Lines

/-!
# Only the last answer counts

* `afterLast?_eq_some_iff`, `atDepth?_eq_some_iff` — the searches for a line, as decompositions of
  the list of lines.
* `ofLines_append_left` — lines before both markers change nothing.
* `ofLines_append_right` — lines without markers after an answer change nothing.
* `last_answer_counts` — both for texts.
-/

set_option autoImplicit false

namespace PrimitiveSearch.Answer

open Text

variable {c : Catalogue} {ls ms before after : List Text} {m line : Text}

/-! ## Searching for a line -/

@[simp] theorem afterLast?_eq_none_iff : afterLast? m ls = none ↔ m ∉ ls := by
  induction ls with
  | nil => simp [afterLast?]
  | cons l ls ih =>
    rw [afterLast?, List.mem_cons, not_or]
    cases h : afterLast? m ls with
    | none =>
      rw [h] at ih
      by_cases hl : l = m <;> simp [hl, ih.mp rfl, eq_comm (a := m)]
    | some found =>
      rw [h] at ih
      have hmem : m ∈ ls := Classical.not_not.mp fun hm => absurd (ih.mpr hm) (by simp)
      simp [hmem]

theorem afterLast?_append (h : m ∉ after) :
    afterLast? m (before ++ m :: after) = some (before, after) := by
  induction before with
  | nil => rw [List.nil_append, afterLast?, afterLast?_eq_none_iff.mpr h]; simp
  | cons l ls ih => rw [List.cons_append, afterLast?, ih]

/-- The last occurrence of a line is the one with none after it. -/
theorem afterLast?_eq_some_iff : afterLast? m ls = some (before, after) ↔
    ls = before ++ m :: after ∧ m ∉ after := by
  constructor
  · intro h
    have hmem : m ∈ ls := Classical.not_not.mp fun hm => by
      rw [afterLast?_eq_none_iff.mpr hm] at h
      cases h
    obtain ⟨a, b, hr, ha⟩ := List.eq_append_cons_of_mem (List.mem_reverse.mpr hmem)
    have hls : ls = b.reverse ++ m :: a.reverse := by
      rw [← List.reverse_reverse ls, hr]
      simp
    have ha' : m ∉ a.reverse := by simpa using ha
    rw [hls, afterLast?_append ha'] at h
    cases h
    exact ⟨hls, ha'⟩
  · rintro ⟨rfl, h⟩
    exact afterLast?_append h

/-- What stands before an occurrence does not matter for what stands after the last one. -/
theorem afterLast?_append_left (hm : m ∈ ls) (ms : List Text) :
    afterLast? m (ms ++ ls) = (afterLast? m ls).map fun (b, a) => (ms ++ b, a) := by
  cases h : afterLast? m ls with
  | none => exact absurd hm (afterLast?_eq_none_iff.mp h)
  | some found =>
    obtain ⟨rfl, ha⟩ := afterLast?_eq_some_iff.mp h
    rw [← List.append_assoc, afterLast?_append ha]
    rfl

theorem afterLast?_append_right (hm : m ∉ ms) :
    afterLast? m (ls ++ ms) = (afterLast? m ls).map fun (b, a) => (b, a ++ ms) := by
  cases h : afterLast? m ls with
  | none =>
    have := afterLast?_eq_none_iff.mp h
    exact afterLast?_eq_none_iff.mpr (by simp [this, hm])
  | some found =>
    obtain ⟨rfl, ha⟩ := afterLast?_eq_some_iff.mp h
    rw [List.append_assoc, List.cons_append, afterLast?_append (by simp [ha, hm])]
    rfl

/-- The first line that states the depth is the one with none before it. -/
theorem atDepth?_eq_some_iff : atDepth? ls = some (before, line, after) ↔
    ls = before ++ line :: after ∧ depthMarker <+: line ∧ ∀ l ∈ before, ¬ depthMarker <+: l := by
  induction ls generalizing before with
  | nil => simp [atDepth?]
  | cons l ls ih =>
    rw [atDepth?]
    by_cases hl : depthMarker <+: l
    · rw [if_pos (List.isPrefixOf_iff_prefix.mpr hl)]
      constructor
      · intro h
        cases h
        exact ⟨rfl, hl, by simp⟩
      · rintro ⟨h, -, hb⟩
        cases before with
        | nil => cases h; rfl
        | cons b bs =>
          obtain ⟨rfl, -⟩ := List.cons.inj h
          exact absurd hl (hb _ List.mem_cons_self)
    · rw [if_neg fun h => hl (List.isPrefixOf_iff_prefix.mp h)]
      simp only [Option.map_eq_some_iff, Prod.exists, Prod.mk.injEq]
      constructor
      · rintro ⟨b, line', after', h, rfl, rfl, rfl⟩
        obtain ⟨rfl, hline, hb⟩ := ih.mp h
        exact ⟨rfl, hline, by simpa [hl] using hb⟩
      · rintro ⟨h, hline, hb⟩
        cases before with
        | nil => cases h; exact absurd hline hl
        | cons b bs =>
          obtain ⟨rfl, rfl⟩ := List.cons.inj h
          exact ⟨bs, line, after, ih.mpr ⟨rfl, hline, fun x hx =>
            hb x (List.mem_cons_of_mem _ hx)⟩, rfl, rfl, rfl⟩

/-! ## The depth -/

theorem depth?_eq_ok_iff {proposals : List Text} {n : Nat} : depth? ls = .ok (proposals, n) ↔
    ∃ line after value, atDepth? ls = some (proposals, line, after) ∧
      depthText? line after = some value ∧ Numeral.readBelow? depthBound value = some n := by
  unfold depth?
  constructor
  · intro h
    split at h
    · cases h
    rename_i before line after hat
    split at h
    · cases h
    rename_i value hvalue
    split at h
    · cases h
    rename_i depth hdepth
    cases h
    exact ⟨line, after, value, hat, hvalue, hdepth⟩
  · rintro ⟨line, after, value, hat, hvalue, hdepth⟩
    rw [hat]
    dsimp only
    rw [hvalue]
    dsimp only
    rw [hdepth]

theorem depthText?_append {value : Text} (h : depthText? line after = some value)
    (ms : List Text) : depthText? line (after ++ ms) = some value := by
  unfold depthText? at h ⊢
  split
  · rename_i word hw
    rwa [hw] at h
  · rename_i hw
    rw [hw] at h
    have hfind : after.find? (fun l => !l.isEmpty) = some value := h
    rw [List.find?_append, hfind]
    rfl

/-- A depth that is stated is not changed by later lines. -/
theorem depth?_append {proposals : List Text} {n : Nat} (h : depth? ls = .ok (proposals, n))
    (ms : List Text) : depth? (ls ++ ms) = .ok (proposals, n) := by
  obtain ⟨line, after, value, hat, hvalue, hdepth⟩ := depth?_eq_ok_iff.mp h
  obtain ⟨rfl, hline, hb⟩ := atDepth?_eq_some_iff.mp hat
  exact depth?_eq_ok_iff.mpr ⟨line, after ++ ms, value,
    atDepth?_eq_some_iff.mpr ⟨by simp, hline, hb⟩, depthText?_append hvalue ms, hdepth⟩

/-! ## Lines before and after an answer -/

theorem ofLines_eq_ok_iff {a : Answer} : ofLines c ls = .ok a ↔ Part.selection.marker ∈ ls ∧
    ∃ before after proposals, afterLast? Part.proposals.marker ls = some (before, after) ∧
      depth? after = .ok (proposals, a.depth) ∧
        a.selected = select c (selectionLines before after) ∧
          a.proposals = Proposal.scan proposals := by
  unfold ofLines
  constructor
  · intro h
    split at h
    · cases h
    rename_i hmem
    split at h
    · cases h
    rename_i before after hafter
    split at h
    · cases h
    rename_i proposals depth hdepth
    cases h
    exact ⟨Classical.not_not.mp hmem, before, after, proposals, hafter, hdepth, rfl, rfl⟩
  · rintro ⟨hmem, before, after, proposals, hafter, hdepth, hselected, hproposals⟩
    rw [if_neg (fun h => h hmem), hafter]
    dsimp only
    rw [hdepth]
    dsimp only
    rw [← hselected, ← hproposals]

/-- Lines in front of both markers change nothing. -/
theorem ofLines_append_left (h : ∀ part : Part, part.marker ∈ ls) (ms : List Text) :
    ofLines c (ms ++ ls) = ofLines c ls := by
  have hselection := h .selection
  obtain ⟨⟨before, after⟩, hfound⟩ : ∃ found, afterLast? Part.proposals.marker ls = some found := by
    cases hfound : afterLast? Part.proposals.marker ls with
    | none => exact absurd (h .proposals) (afterLast?_eq_none_iff.mp hfound)
    | some found => exact ⟨found, rfl⟩
  have hlines : selectionLines (ms ++ before) after = selectionLines before after := by
    unfold selectionLines
    by_cases hafter : Part.selection.marker ∈ after
    · rw [if_pos hafter, if_pos hafter]
    · have hbefore : Part.selection.marker ∈ before := by
        rw [(afterLast?_eq_some_iff.mp hfound).1, List.mem_append, List.mem_cons] at hselection
        rcases hselection with h | h | h
        · exact h
        · exact absurd h (by decide)
        · exact absurd h hafter
      rw [if_neg hafter, if_neg hafter, afterLast?_append_left hbefore]
      cases afterLast? Part.selection.marker before <;> rfl
  unfold ofLines
  rw [if_neg (by simp [hselection]), if_neg (by simp [hselection]),
    afterLast?_append_left (h .proposals), hfound]
  simp only [Option.map_some, hlines]

/-- Lines without markers change nothing after an answer. -/
theorem ofLines_append_right {a : Answer} (h : ofLines c ls = .ok a)
    (hm : ∀ part : Part, part.marker ∉ ms) : ofLines c (ls ++ ms) = .ok a := by
  obtain ⟨hmem, before, after, proposals, hfound, hdepth, hselected, hproposals⟩ :=
    ofLines_eq_ok_iff.mp h
  refine ofLines_eq_ok_iff.mpr ⟨List.mem_append_left _ hmem, before, after ++ ms, proposals, ?_,
    depth?_append hdepth ms, ?_, hproposals⟩
  · rw [afterLast?_append_right (hm .proposals), hfound]
    rfl
  · rw [hselected]
    unfold selectionLines
    have hiff : Part.selection.marker ∈ after ++ ms ↔ Part.selection.marker ∈ after := by
      simp [hm .selection]
    simp only [hiff]

/-! ## Texts before and after an answer -/

/-- **Only the last answer counts.**  A text with both markers is read alike whatever stands
before it; and an answer that is read from a text is not changed by what follows, unless a line
there opens a section again. -/
theorem last_answer_counts (c : Catalogue) (p t q : Text) :
    ((∀ part : Part, part.marker ∈ trimLines t) → parse c (p ++ '\n' :: t) = parse c t) ∧
    ((∃ a, parse c t = .ok a) → (∀ part : Part, part.marker ∉ trimLines q) →
      parse c (t ++ '\n' :: q) = parse c t) := by
  constructor
  · intro h
    show ofLines c (trimLines (p ++ '\n' :: t)) = ofLines c (trimLines t)
    rw [trimLines_append, ofLines_append_left h]
  · rintro ⟨a, ha⟩ hq
    obtain ⟨ms, hms, hend⟩ := trimLines_newline t
    have hmarkers : ∀ part : Part, part.marker ∉ ms ++ trimLines q := by
      intro part hmem
      rcases List.mem_append.mp hmem with h | h
      · have := hms _ h
        cases part <;> exact absurd this (by decide)
      · exact hq part h
    rw [ha]
    show ofLines c (trimLines (t ++ '\n' :: q)) = .ok a
    rw [trimLines_append, hend, List.append_assoc]
    exact ofLines_append_right ha hmarkers

theorem eq_ok_of_toOption {a : Answer} {x : Except Fault Answer} (h : x.toOption = some a) :
    x = .ok a := by
  cases x with
  | error fault => cases h
  | ok b => exact congrArg _ (Option.some.inj h)

/-- An answer between an echo of its own layout and further lines of one. -/
theorem last_answer_counts_echoed :
    let c := Catalogue.parse "///int f(int a); // Foo"
    let p : Text := "PARTIAL_PARAMETERIZATIONS:\nSELECTED_PRIMITIVES:\nDEPTH_LEVEL: 9"
    let t : Text := "SELECTED_PRIMITIVES:\r\n int f(int a);\r\nPARTIAL_PARAMETERIZATIONS:\r\n" ++
      "int f_one() \x7b return f(1); \x7d\r\nDEPTH_LEVEL:\r\n\r\n3\r\n"
    let q : Text := "DEPTH_LEVEL: 7\nint f_two() \x7b return f(2); \x7d"
    let a : Answer := ⟨[⟨"int", "f", [⟨"int", some "a".toList⟩], "Foo"⟩],
      [⟨⟨"int", "f_one", [], []⟩, "return f(1);"⟩], 3⟩
    (∀ part : Part, part.marker ∈ trimLines t) ∧ (∀ part : Part, part.marker ∉ trimLines q) ∧
      parse c t = .ok a ∧ parse c (p ++ '\n' :: t) = .ok a ∧ parse c (t ++ '\n' :: q) = .ok a := by
  intro c p t q a
  have ht : ∀ part : Part, part.marker ∈ trimLines t := by
    intro part
    cases part <;> decide +kernel
  have hq : ∀ part : Part, part.marker ∉ trimLines q := by
    intro part
    cases part <;> decide +kernel
  have ha : parse c t = .ok a := eq_ok_of_toOption (by decide +kernel)
  obtain ⟨hleft, hright⟩ := last_answer_counts c p t q
  exact ⟨ht, hq, ha, (hleft ht).trans ha, (hright ⟨a, ha⟩ hq).trans ha⟩

end PrimitiveSearch.Answer
