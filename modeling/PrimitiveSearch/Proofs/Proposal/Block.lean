import PrimitiveSearch.Proofs.Proposal.Body

/-!
# Proposals on lines

* `block` — the lines that a proposal is written on.
* `scan_block` — a proposal that was read before is read again from them.
* `mem_of_mem_block`, `isPrefix_of_mem_block` — no mark stands on them that did not stand on the
  lines the proposal was read from.
-/

set_option autoImplicit false

namespace PrimitiveSearch.Proposal

open Text

variable {body : Text} {ls : List Text}

/-! ## Writing a proposal on lines -/

/-- The lines of a proposal: its head, and its body in braces. -/
def block (p : Proposal) : List Text :=
  onFront (p.signature.key.dropLast ++ " \x7b ") (onBack (lines p.body) " \x7d")

/-- A head is read again from a line that it opens. -/
theorem HeadOf.opening?_eq {s : Signature} (h : HeadOf ls s) (first : Text) :
    opening? (s.key.dropLast ++ " \x7b " ++ first) = some (s, trim (' ' :: first)) := by
  have hcut : cutAtFirst ['{'] (s.key.dropLast ++ " \x7b " ++ first) =
      some (s.key.dropLast ++ [' '], ' ' :: first) := by
    refine cutAtFirst_eq_some_iff.mpr ⟨by simp, fun hc => ?_⟩
    rcases List.mem_append.mp hc with hc | hc
    · exact h.brace (List.dropLast_subset _ hc)
    · exact absurd hc (by decide)
  have htrim : trim (s.key.dropLast ++ [' ']) = s.key.dropLast := by
    rw [trim_append_blank _ (blank_singleton rfl), trim_eq_self h.neat.trimmed]
  rw [opening?, hcut]
  simp only [Option.bind_some, htrim, Signature.dropLast_key_append, h.signature, Option.map_some]

theorem kept_eq_self (h : ∀ l ∈ ls, l ≠ []) : kept ls = ls :=
  List.filter_eq_self.mpr fun l hl => by simpa using h l hl

/-- The space before the closing brace is taken off again. -/
theorem BodyOf.trimBack_eq {init : List Text} {last : Text} (h : BodyOf ls body)
    (hlines : lines body = init ++ [last]) :
    trimBack (Text.ofLines init ++ (last ++ [' '])) = body :=
  calc trimBack (Text.ofLines init ++ (last ++ [' ']))
      = trimBack (unlines (lines body) ++ [' ']) := by
        rw [hlines, unlines_concat, List.append_assoc]
    _ = unlines (lines body) :=
        trimBack_unlines (blank_singleton rfl) fun m hm =>
          ⟨(h.line m hm).1.trimmed, (h.line m hm).2⟩
    _ = body := h.text

/-- A body in front of its closing brace is read again. -/
theorem BodyOf.statements_eq (h : BodyOf ls body) : ∃ first more,
    onBack (lines body) " \x7d" = first :: more ∧ ∀ rest, ∃ b,
      statements [] (trim (' ' :: first)) (more ++ rest) = (some b, rest) ∧ trimBack b = body := by
  by_cases hne : lines body = []
  · refine ⟨" \x7d", [], by rw [hne]; rfl, fun rest => ⟨[], ?_, ?_⟩⟩
    · exact statements_closed [] [] rest
    · rw [← h.text, hne]
      rfl
  · obtain ⟨init, l, hlines⟩ := exists_concat hne
    have hinit : (lines body).dropLast = init := by rw [hlines, List.dropLast_concat]
    have hl := h.line l (by rw [hlines]; simp)
    have hbody := h.trimBack_eq hlines
    have hback : onBack (lines body) " \x7d" = init ++ [(l ++ [' ']) ++ ['}']] := by
      rw [onBack, hinit, hlines, List.getLastD_concat, List.append_assoc]
      rfl
    cases init with
    | nil =>
      have hclosed : Trimmed (l ++ ([' '] ++ ['}'])) :=
        hl.1.trimmed.join (by decide) hl.2 (by simp) [' ']
      rw [← List.append_assoc] at hclosed
      refine ⟨_, [], hback, fun rest => ⟨l ++ [' '], ?_, hbody⟩⟩
      rw [trim_space, trim_eq_self hclosed]
      exact statements_closed [] _ rest
    | cons first more =>
      have hmem : ∀ m ∈ first :: more, m ∈ lines body := fun m hm => by
        rw [hlines]
        exact List.mem_append_left _ hm
      refine ⟨first, _, hback, fun rest => ⟨_, ?_, hbody⟩⟩
      rw [trim_space, trim_eq_self (h.line first (hmem _ List.mem_cons_self)).1.trimmed]
      refine statements_eq_some_iff.mpr ⟨first :: more, l ++ [' '], ⟨by simp, ?_⟩, ?_⟩
      · exact hinit ▸ h.unclosed
      · rw [kept_eq_self fun m hm => (h.line m (hmem m hm)).2, List.nil_append]

/-- **A proposal on lines is scanned again**, when its head and its body were read before. -/
theorem scan_block {p : Proposal} (hhead : HeadOf ls p.signature) (hbody : BodyOf ls p.body)
    (rest : List Text) : scan (block p ++ rest) = p :: scan rest := by
  obtain ⟨first, more, hlines, hread⟩ := hbody.statements_eq
  obtain ⟨b, hb, hp⟩ := hread rest
  rw [block, hlines, onFront, List.cons_append, scan_opened (hhead.opening?_eq first) hb, hp]

/-! ## The lines of a block -/

theorem neat_brace : Neat ['}'] := ⟨by decide, by decide⟩

theorem block_of_nil {p : Proposal} (h : lines p.body = []) :
    block p = [p.signature.key.dropLast ++ ([' ', '{', ' ', ' '] ++ ['}'])] := by
  rw [block, h]
  simp [onFront, onBack]

theorem block_of_singleton {p : Proposal} {last : Text} (h : lines p.body = [last]) :
    block p =
      [p.signature.key.dropLast ++ (([' ', '{', ' '] ++ (last ++ [' '])) ++ ['}'])] := by
  rw [block, h]
  simp [onFront, onBack]

theorem block_of_cons {p : Proposal} {first last : Text} {more : List Text}
    (h : lines p.body = first :: (more ++ [last])) :
    block p = (p.signature.key.dropLast ++ ([' ', '{', ' '] ++ first)) ::
      (more ++ [last ++ ([' '] ++ ['}'])]) := by
  have hback : onBack (lines p.body) " \x7d" = first :: (more ++ [last ++ ([' '] ++ ['}'])]) := by
    rw [onBack, h, ← List.cons_append, List.dropLast_concat, List.getLastD_concat]
    rfl
  rw [block, hback, onFront, List.append_assoc]
  rfl

/-- A line of a block opens it, was read as a whole, or closes it. -/
theorem mem_block {p : Proposal} (hhead : HeadOf ls p.signature) (hbody : BodyOf ls p.body)
    {l : Text} (hl : l ∈ block p) : Neat l ∧ l ≠ [] ∧
      (p.signature.key.dropLast ++ [' ', '{'] <+: l ∨ l ∈ ls ∨
        ∃ m, (∃ whole ∈ ls, m <+: whole) ∧ l = m ++ [' ', '}']) := by
  have hfirst : ∀ m b, Neat b → b ≠ [] → '\n' ∉ m →
      Neat (p.signature.key.dropLast ++ (m ++ b)) := fun m b hb hbne hm =>
    hhead.neat.join hb p.signature.dropLast_key_ne_nil hbne hm
  have hline := hbody.line
  rcases hlines : lines p.body with _ | ⟨first, rest⟩
  · rw [block_of_nil hlines, List.mem_singleton] at hl
    subst hl
    refine ⟨hfirst _ _ neat_brace (by simp) (by decide), by simp, .inl ?_⟩
    exact ⟨[' ', ' ', '}'], by simp⟩
  rw [hlines] at hline
  by_cases hne : rest = []
  · subst hne
    rw [block_of_singleton hlines, List.mem_singleton] at hl
    subst hl
    have hlast := hline first List.mem_cons_self
    refine ⟨hfirst _ _ neat_brace (by simp) (by simp [hlast.1.inside]), by simp, .inl ?_⟩
    exact ⟨' ' :: (first ++ [' ', '}']), by simp⟩
  · obtain ⟨more, last, rfl⟩ := exists_concat hne
    have hwhole := hbody.whole
    have hcontinued := hbody.continued last
    rw [hlines, List.tail_cons] at hwhole hcontinued
    rw [List.dropLast_concat] at hwhole
    rw [block_of_cons hlines, List.mem_cons, List.mem_append, List.mem_singleton] at hl
    rcases hl with rfl | hl | rfl
    · have hneat := hline first List.mem_cons_self
      refine ⟨hfirst _ _ hneat.1 hneat.2 (by decide), by simp, .inl ?_⟩
      exact ⟨' ' :: first, by simp⟩
    · have hneat := hline l (by simp [hl])
      exact ⟨hneat.1, hneat.2, .inr (.inl (hwhole l hl))⟩
    · have hneat := hline last (by simp)
      have hclosed := hneat.1.join neat_brace hneat.2 (by simp) (by decide : '\n' ∉ [' '])
      exact ⟨hclosed, by simp, .inr (.inr ⟨last, hcontinued (by simp), rfl⟩)⟩

/-- A mark without braces that is a line of a block was one of the lines read. -/
theorem mem_of_mem_block {p : Proposal} (hhead : HeadOf ls p.signature) (hbody : BodyOf ls p.body)
    {l : Text} (hl : l ∈ block p) (hopen : '{' ∉ l) (hclose : '}' ∉ l) : l ∈ ls := by
  obtain ⟨-, -, ⟨b, rfl⟩ | hmem | ⟨m, -, rfl⟩⟩ := mem_block hhead hbody hl
  · exact absurd (by simp) hopen
  · exact hmem
  · exact absurd (by simp) hclose

theorem isPrefix_of_append_space {mark t u : Text} (h : mark <+: t ++ ' ' :: u)
    (hspace : ' ' ∉ mark) : mark <+: t := by
  rcases List.prefix_or_prefix_of_prefix h (List.prefix_append t (' ' :: u)) with h' | ⟨b, rfl⟩
  · exact h'
  · rw [List.prefix_append_right_inj] at h
    cases b with
    | nil => simp
    | cons c b =>
      obtain ⟨rfl, -⟩ := List.cons_prefix_cons.mp h
      exact absurd (by simp) hspace

/-- A mark without spaces at the front of a line of a block was at the front of a line read. -/
theorem isPrefix_of_mem_block {p : Proposal} (hhead : HeadOf ls p.signature)
    (hbody : BodyOf ls p.body) {l mark : Text} (hl : l ∈ block p) (hmark : mark <+: l)
    (hspace : ' ' ∉ mark) : ∃ m ∈ ls, mark <+: m := by
  obtain ⟨-, -, ⟨b, rfl⟩ | hmem | ⟨m, ⟨whole, hwhole, hm⟩, rfl⟩⟩ := mem_block hhead hbody hl
  · obtain ⟨m, hm, hpre⟩ := hhead.returnType
    rw [Signature.dropLast_key, List.append_assoc, List.append_assoc, List.cons_append] at hmark
    exact ⟨m, hm, (isPrefix_of_append_space hmark hspace).trans hpre⟩
  · exact ⟨l, hmem, hmark⟩
  · exact ⟨whole, hwhole, (isPrefix_of_append_space hmark hspace).trans hm⟩

end PrimitiveSearch.Proposal
