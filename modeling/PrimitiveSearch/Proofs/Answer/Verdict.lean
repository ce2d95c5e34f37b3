import PrimitiveSearch.Proofs.Answer.LastAnswer
import PrimitiveSearch.Proofs.Text.Numeral
import PrimitiveSearch.Proofs.Text.Words

/-!
# When a text is no answer

* `StatesDepth`, `IsDepthText` — the line that states the depth, and the text that should be it.
* `Verdict` — the depth or the fault that a list of lines leads to.  `map_depth_ofLines_eq_iff`:
  reading comes to exactly this verdict.
* `Places` — where the sections begin and end.
* `parse_structural` — faults come from the structure alone, and the sections are what stands
  between these places.
-/

set_option autoImplicit false

namespace PrimitiveSearch.Answer

open Text

variable {c c' : Catalogue} {ls before after rest : List Text} {line v : Text} {n : Nat}

/-! ## The depth -/

/-- The first line that states the depth after the last opening of the proposals, and the lines
after it. -/
def StatesDepth (ls : List Text) (line : Text) (rest : List Text) : Prop :=
  ∃ before proposals, ls = before ++ Part.proposals.marker :: (proposals ++ line :: rest) ∧
    Part.proposals.marker ∉ proposals ++ line :: rest ∧ depthMarker <+: line ∧
      ∀ l ∈ proposals, ¬ depthMarker <+: l

/-- The text that should be the depth: the second word of the line that states it or, if there is
none, the first line after it that is not empty. -/
def IsDepthText (line : Text) (rest : List Text) (v : Text) : Prop :=
  IsSecondWord line v ∨ (∀ w, ¬ IsSecondWord line w) ∧ ∃ empty more, rest = empty ++ v :: more ∧
    v ≠ [] ∧ ∀ l ∈ empty, l = []

theorem depthText?_eq_some_iff : depthText? line rest = some v ↔ IsDepthText line rest v := by
  unfold depthText? IsDepthText
  simp only [← getElem?_words_one_eq_some_iff]
  cases hword : (words line)[1]? with
  | some w => simp
  | none =>
    simp only [List.find?_eq_some_iff_append, reduceCtorEq, not_false_eq_true, implies_true,
      true_and, false_or]
    constructor
    · rintro ⟨hv, empty, more, rfl, hempty⟩
      exact ⟨empty, more, rfl, by simpa using hv, by simpa using hempty⟩
    · rintro ⟨empty, more, rfl, hv, hempty⟩
      exact ⟨by simpa using hv, empty, more, rfl, by simpa using hempty⟩

theorem statesDepth_iff : StatesDepth ls line rest ↔ ∃ before after proposals,
    afterLast? Part.proposals.marker ls = some (before, after) ∧
      atDepth? after = some (proposals, line, rest) := by
  constructor
  · rintro ⟨before, proposals, hls, hlast, hline, hfirst⟩
    exact ⟨before, _, proposals, afterLast?_eq_some_iff.mpr ⟨hls, hlast⟩,
      atDepth?_eq_some_iff.mpr ⟨rfl, hline, hfirst⟩⟩
  · rintro ⟨before, after, proposals, hafter, hat⟩
    obtain ⟨hls, hlast⟩ := afterLast?_eq_some_iff.mp hafter
    obtain ⟨rfl, hline, hfirst⟩ := atDepth?_eq_some_iff.mp hat
    exact ⟨before, proposals, hls, hlast, hline, hfirst⟩

theorem atDepth?_eq_none_iff : atDepth? ls = none ↔ ∀ l ∈ ls, ¬ depthMarker <+: l := by
  induction ls with
  | nil => simp [atDepth?]
  | cons l ls ih =>
    rw [atDepth?]
    by_cases hl : depthMarker <+: l
    · simp [List.isPrefixOf_iff_prefix, hl]
    · simp [List.isPrefixOf_iff_prefix, hl, ih]

/-! ## The verdict -/

/-- The depth that a list of trimmed lines states, or what it lacks first. -/
inductive Verdict (ls : List Text) : Except Fault Nat → Prop where
  | noSelection (absent : Part.selection.marker ∉ ls) :
      Verdict ls (.error (.missingMarker .selection))
  | noProposals (selection : Part.selection.marker ∈ ls) (absent : Part.proposals.marker ∉ ls) :
      Verdict ls (.error (.missingMarker .proposals))
  | noDepth {before after : List Text} (selection : Part.selection.marker ∈ ls)
      (lines : ls = before ++ Part.proposals.marker :: after)
      (last : Part.proposals.marker ∉ after) (absent : ∀ l ∈ after, ¬ depthMarker <+: l) :
      Verdict ls (.error .missingDepth)
  | noValue {line : Text} {rest : List Text} (selection : Part.selection.marker ∈ ls)
      (states : StatesDepth ls line rest) (absent : ∀ v, ¬ IsDepthText line rest v) :
      Verdict ls (.error .missingDepthValue)
  | badValue {line v : Text} {rest : List Text} (selection : Part.selection.marker ∈ ls)
      (states : StatesDepth ls line rest) (value : IsDepthText line rest v)
      (bad : ∀ n, ¬ Numeral.IsNumeral depthBound v n) : Verdict ls (.error (.invalidDepth v))
  | depth {line v : Text} {rest : List Text} {n : Nat} (selection : Part.selection.marker ∈ ls)
      (states : StatesDepth ls line rest) (value : IsDepthText line rest v)
      (numeral : Numeral.IsNumeral depthBound v n) : Verdict ls (.ok n)

/-- Reading comes to a verdict. -/
theorem verdict_ofLines (c : Catalogue) (ls : List Text) :
    Verdict ls ((ofLines c ls).map Answer.depth) := by
  unfold ofLines
  by_cases hselection : Part.selection.marker ∉ ls
  · rw [if_pos hselection]
    exact .noSelection hselection
  rw [if_neg hselection]
  have hselection := Classical.not_not.mp hselection
  cases hafter : afterLast? Part.proposals.marker ls with
  | none => exact .noProposals hselection (afterLast?_eq_none_iff.mp hafter)
  | some found =>
    obtain ⟨before, after⟩ := found
    obtain ⟨hls, hlast⟩ := afterLast?_eq_some_iff.mp hafter
    dsimp only
    unfold depth?
    cases hat : atDepth? after with
    | none => exact .noDepth hselection hls hlast (atDepth?_eq_none_iff.mp hat)
    | some at' =>
      obtain ⟨proposals, line, rest⟩ := at'
      have hstates := statesDepth_iff.mpr ⟨before, after, proposals, hafter, hat⟩
      dsimp only
      cases hvalue : depthText? line rest with
      | none =>
        refine .noValue hselection hstates fun v hv => ?_
        rw [depthText?_eq_some_iff.mpr hv] at hvalue
        cases hvalue
      | some v =>
        have hv := depthText?_eq_some_iff.mp hvalue
        dsimp only
        cases hdepth : Numeral.readBelow? depthBound v with
        | none =>
          refine .badValue hselection hstates hv fun n hn => ?_
          rw [Numeral.readBelow?_eq_some_iff.mpr hn] at hdepth
          cases hdepth
        | some n => exact .depth hselection hstates hv (Numeral.readBelow?_eq_some_iff.mp hdepth)

/-- Lines that state a depth lead on to its text. -/
theorem StatesDepth.map_depth_ofLines (h : StatesDepth ls line rest)
    (hselection : Part.selection.marker ∈ ls) : (ofLines c ls).map Answer.depth =
      match depthText? line rest with
      | none => .error .missingDepthValue
      | some value =>
        match Numeral.readBelow? depthBound value with
        | none => .error (.invalidDepth value)
        | some n => .ok n := by
  obtain ⟨before, after, proposals, hafter, hat⟩ := statesDepth_iff.mp h
  rw [ofLines, if_neg (fun h => h hselection), hafter]
  dsimp only
  rw [depth?, hat]
  dsimp only
  cases depthText? line rest with
  | none => rfl
  | some value =>
    dsimp only
    cases Numeral.readBelow? depthBound value <;> rfl

/-- No other verdict is possible. -/
theorem Verdict.map_depth_ofLines {o : Except Fault Nat} (h : Verdict ls o) (c : Catalogue) :
    (ofLines c ls).map Answer.depth = o := by
  cases h with
  | noSelection habsent => rw [ofLines, if_pos habsent]; rfl
  | noProposals hselection habsent =>
    rw [ofLines, if_neg (fun h => h hselection), afterLast?_eq_none_iff.mpr habsent]
    rfl
  | noDepth hselection hls hlast habsent =>
    rw [ofLines, if_neg (fun h => h hselection), afterLast?_eq_some_iff.mpr ⟨hls, hlast⟩]
    dsimp only
    rw [depth?, atDepth?_eq_none_iff.mpr habsent]
    rfl
  | @noValue line rest hselection hstates habsent =>
    have hvalue : depthText? line rest = none :=
      Option.eq_none_iff_forall_ne_some.mpr fun v hv => habsent v (depthText?_eq_some_iff.mp hv)
    rw [hstates.map_depth_ofLines hselection, hvalue]
  | @badValue line v rest hselection hstates hvalue hbad =>
    have hread : Numeral.readBelow? depthBound v = none :=
      Option.eq_none_iff_forall_ne_some.mpr fun n hn =>
        hbad n (Numeral.readBelow?_eq_some_iff.mp hn)
    rw [hstates.map_depth_ofLines hselection, depthText?_eq_some_iff.mpr hvalue]
    dsimp only
    rw [hread]
  | depth hselection hstates hvalue hnumeral =>
    rw [hstates.map_depth_ofLines hselection, depthText?_eq_some_iff.mpr hvalue]
    dsimp only
    rw [Numeral.readBelow?_eq_some_iff.mpr hnumeral]

theorem map_depth_ofLines_eq_iff {o : Except Fault Nat} :
    (ofLines c ls).map Answer.depth = o ↔ Verdict ls o :=
  ⟨fun h => h ▸ verdict_ofLines c ls, fun h => h.map_depth_ofLines c⟩

/-! ## What a verdict does not depend on -/

/-- The catalogue only decides which primitives are selected. -/
theorem map_ofLines_catalogue (c c' : Catalogue) (ls : List Text) :
    (ofLines c ls).map (fun a => (a.proposals, a.depth)) =
      (ofLines c' ls).map (fun a => (a.proposals, a.depth)) := by
  unfold ofLines
  split
  · rfl
  split
  · rfl
  split <;> rfl

/-- Lines with the given sections: what was selected, and what was proposed. -/
def sectioned (before selected proposals rest : List Text) : List Text :=
  before ++ Part.selection.marker :: (selected ++ Part.proposals.marker :: (proposals ++ rest))

variable {selected proposals : List Text}

theorem atDepth?_append_left (h : ∀ l ∈ proposals, ¬ depthMarker <+: l) :
    atDepth? (proposals ++ rest) =
      (atDepth? rest).map fun (lead, line, after) => (proposals ++ lead, line, after) := by
  induction proposals with
  | nil => simp
  | cons l proposals ih =>
    have hl : ¬ depthMarker <+: l := h l List.mem_cons_self
    rw [List.cons_append, atDepth?, if_neg (by simpa using hl),
      ih fun l' hl' => h l' (List.mem_cons_of_mem _ hl'), Option.map_map]
    rfl

theorem depth?_append_left (h : ∀ l ∈ proposals, ¬ depthMarker <+: l) :
    depth? (proposals ++ rest) = (depth? rest).map fun (lead, n) => (proposals ++ lead, n) := by
  unfold depth?
  rw [atDepth?_append_left h]
  cases atDepth? rest with
  | none => rfl
  | some found =>
    obtain ⟨lead, line, after⟩ := found
    dsimp only [Option.map_some]
    cases depthText? line after with
    | none => rfl
    | some value =>
      dsimp only
      cases Numeral.readBelow? depthBound value <;> rfl

/-- A section of proposals: it does not open again, and states no depth. -/
abbrev IsSection (proposals : List Text) : Prop :=
  ∀ l ∈ proposals, l ≠ Part.proposals.marker ∧ ¬ depthMarker <+: l

/-- Fault and depth come from behind the sections, whatever these hold. -/
theorem map_depth_sectioned (hproposals : IsSection proposals)
    (hrest : Part.proposals.marker ∉ rest) :
    (ofLines c (sectioned before selected proposals rest)).map Answer.depth =
      (depth? rest).map Prod.snd := by
  have hselection : Part.selection.marker ∈ sectioned before selected proposals rest := by
    simp [sectioned]
  have hlast : Part.proposals.marker ∉ proposals ++ rest := by
    intro hmem
    rcases List.mem_append.mp hmem with hmem | hmem
    · exact (hproposals _ hmem).1 rfl
    · exact hrest hmem
  have hafter : afterLast? Part.proposals.marker (sectioned before selected proposals rest) =
      some (before ++ Part.selection.marker :: selected, proposals ++ rest) :=
    afterLast?_eq_some_iff.mpr ⟨by simp [sectioned], hlast⟩
  rw [ofLines, if_neg (fun h => h hselection), hafter]
  dsimp only
  rw [depth?_append_left fun l hl => (hproposals l hl).2]
  cases depth? rest <;> rfl

/-! ## Places -/

/-- The place of the last occurrence of a line. -/
def IsLastAt (m : Text) (ls : List Text) (i : Nat) : Prop :=
  ls[i]? = some m ∧ ∀ n, i < n → ls[n]? ≠ some m

/-- The places of the lines that open the sections, and of the first line behind them that states
the depth. -/
structure Places (ls : List Text) (i j k : Nat) : Prop where
  selection : IsLastAt Part.selection.marker ls i
  proposals : IsLastAt Part.proposals.marker ls j
  depth : ∃ line, ls[k]? = some line ∧ depthMarker <+: line
  first : ∀ n line, j < n → n < k → ls[n]? = some line → ¬ depthMarker <+: line
  /-- The sections, and what follows the depth, lie within the lines. -/
  within : j + 1 ≤ k ∧ k + 1 ≤ ls.length ∧ (i < j → i + 1 ≤ j ∧ j ≤ ls.length)

variable {m : Text}

theorem exists_last (h : m ∈ ls) : ∃ before after, ls = before ++ m :: after ∧ m ∉ after := by
  cases hfound : afterLast? m ls with
  | none => exact absurd h (afterLast?_eq_none_iff.mp hfound)
  | some found => exact ⟨found.1, found.2, afterLast?_eq_some_iff.mp hfound⟩

theorem getElem?_behind (hls : ls = before ++ m :: after) (d : Nat) :
    ls[before.length + 1 + d]? = after[d]? := by
  subst hls
  rw [List.getElem?_append_right (by omega),
    show before.length + 1 + d - before.length = d + 1 by omega, List.getElem?_cons_succ]

theorem isLastAt_of_append (hls : ls = before ++ m :: after) (hlast : m ∉ after) :
    IsLastAt m ls before.length := by
  refine ⟨by simp [hls], fun n hn h => hlast ?_⟩
  obtain ⟨d, rfl⟩ : ∃ d, n = before.length + 1 + d := ⟨n - (before.length + 1), by omega⟩
  rw [getElem?_behind hls] at h
  exact List.mem_of_getElem? h

/-- The lines between two places. -/
theorem extract_between (hls : ls = before ++ m :: (selected ++ after)) :
    ls.extract (before.length + 1) (before.length + 1 + selected.length) = selected := by
  subst hls
  rw [show before ++ m :: (selected ++ after) = (before ++ [m]) ++ (selected ++ after) by simp,
    List.extract_eq_take_drop, List.drop_left' (by simp), Nat.add_sub_cancel_left, List.take_left']
  rfl

/-- What is selected stands between the places, if the selection was opened first. -/
theorem exists_selection_place (hmem : Part.selection.marker ∈ ls)
    (hls : ls = before ++ Part.proposals.marker :: after) :
    ∃ i, IsLastAt Part.selection.marker ls i ∧ i < ls.length ∧ selectionLines before after =
      if i < before.length then ls.extract (i + 1) before.length else [] := by
  unfold selectionLines
  by_cases hafter : Part.selection.marker ∈ after
  · -- the selection opens again behind the proposals
    obtain ⟨x, y, rfl, hlast⟩ := exists_last hafter
    have hls' : ls = (before ++ Part.proposals.marker :: x) ++ Part.selection.marker :: y := by
      simp [hls]
    refine ⟨_, isLastAt_of_append hls' hlast, by simp [hls'], ?_⟩
    rw [if_pos hafter, if_neg (by simp)]
  · have hbefore : Part.selection.marker ∈ before := by
      rw [hls, List.mem_append, List.mem_cons] at hmem
      rcases hmem with h | h | h
      · exact h
      · exact absurd h (by decide)
      · exact absurd h hafter
    obtain ⟨x, selected, rfl, hlast⟩ := exists_last hbefore
    have hls' : ls = x ++ Part.selection.marker :: (selected ++ Part.proposals.marker :: after) := by
      simp [hls]
    have hlast' : Part.selection.marker ∉ selected ++ Part.proposals.marker :: after := by
      simp only [List.mem_append, List.mem_cons, not_or]
      exact ⟨hlast, by decide, hafter⟩
    have hlength : (x ++ Part.selection.marker :: selected).length =
        x.length + 1 + selected.length := by
      simp only [List.length_append, List.length_cons]
      omega
    refine ⟨x.length, isLastAt_of_append hls' hlast', by simp [hls'], ?_⟩
    rw [if_neg hafter, afterLast?_append hlast, hlength, if_pos (by omega), extract_between hls']

/-- The sections of an answer are what stands between its places. -/
theorem exists_places {a : Answer} (h : ofLines c ls = .ok a) : ∃ i j k, Places ls i j k ∧
    a.selected = select c (if i < j then ls.extract (i + 1) j else []) ∧
      a.proposals = Proposal.scan (ls.extract (j + 1) k) := by
  obtain ⟨hmem, before, after, proposals, hafter, hdepth, hselected, hproposals⟩ :=
    ofLines_eq_ok_iff.mp h
  obtain ⟨hls, hlast⟩ := afterLast?_eq_some_iff.mp hafter
  obtain ⟨line, rest, value, hat, -, -⟩ := depth?_eq_ok_iff.mp hdepth
  obtain ⟨rfl, hline, hfirst⟩ := atDepth?_eq_some_iff.mp hat
  obtain ⟨i, hi, hilt, hsel⟩ := exists_selection_place hmem hls
  have hlength : ls.length = before.length + 1 + (proposals.length + 1 + rest.length) := by
    rw [hls]
    simp only [List.length_append, List.length_cons]
    omega
  refine ⟨i, before.length, before.length + 1 + proposals.length,
    ⟨hi, isLastAt_of_append hls hlast, ⟨line, ?_, hline⟩, fun n l hn hk hl => ?_, ?_⟩, ?_, ?_⟩
  · rw [getElem?_behind hls]
    simp
  · obtain ⟨d, rfl⟩ : ∃ d, n = before.length + 1 + d := ⟨n - (before.length + 1), by omega⟩
    rw [getElem?_behind hls, List.getElem?_append_left (by omega)] at hl
    exact hfirst l (List.mem_of_getElem? hl)
  · omega
  · rw [hselected, hsel]
  · rw [hproposals, extract_between hls]

/-! ## Texts -/

/-- **Only the structure of a text is a fault.**  Depth and fault are the verdict on its trimmed
lines; the sections of an answer stand between places within these lines; the catalogue changes
neither fault nor depth nor proposals, and what stands in the sections neither fault nor depth. -/
theorem parse_structural (c : Catalogue) (t : Text) :
    (∀ o, (parse c t).map Answer.depth = o ↔ Verdict (trimLines t) o) ∧
    (∀ a, parse c t = .ok a → ∃ i j k, Places (trimLines t) i j k ∧
      a.selected = select c (if i < j then (trimLines t).extract (i + 1) j else []) ∧
        a.proposals = Proposal.scan ((trimLines t).extract (j + 1) k)) ∧
    (∀ c', (parse c t).map (fun a => (a.proposals, a.depth)) =
      (parse c' t).map (fun a => (a.proposals, a.depth))) ∧
    (∀ t' before selected selected' proposals proposals' rest,
      trimLines t = sectioned before selected proposals rest →
      trimLines t' = sectioned before selected' proposals' rest →
      IsSection proposals → IsSection proposals' → Part.proposals.marker ∉ rest →
        (parse c t).map Answer.depth = (parse c t').map Answer.depth) := by
  refine ⟨fun o => map_depth_ofLines_eq_iff, fun a h => exists_places h,
    fun c' => map_ofLines_catalogue c c' _, ?_⟩
  intro t' before selected selected' proposals proposals' rest ht ht' hs hs' hrest
  show (ofLines c (trimLines t)).map _ = (ofLines c (trimLines t')).map _
  rw [ht, ht', map_depth_sectioned hs hrest, map_depth_sectioned hs' hrest]

end PrimitiveSearch.Answer
