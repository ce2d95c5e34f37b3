import PrimitiveSearch.Proofs.Proposal.Body

/-!
# The outermost braces

What stands between the outermost braces of a wrapper may hold braces of its own.  The scanner
counts none of them: a body is over at the first line that ends in a closing brace.

* `Balanced` — every brace has its partner; `Balanced.eq_of_append`: there is one way only to cut
  a text at the brace that closes it.
* `Definition`, `Document` — wrappers as they are written, one below the other.
* `scan_text` — what the scanner makes of a wrapper.
* `scan_document` — it finds what stands between the outermost braces exactly when no line before
  the last one of a wrapper ends in a closing brace.
-/

set_option autoImplicit false

namespace PrimitiveSearch.Proposal

open Text

/-! ## Braces -/

/-- As many braces are closed as are opened, and none is closed before it is opened. -/
structure Balanced (t : Text) : Prop where
  total : t.count '{' = t.count '}'
  front : ∀ p, p <+: t → p.count '}' ≤ p.count '{'

theorem balanced_iff {t : Text} : Balanced t ↔
    t.count '{' = t.count '}' ∧ ∀ p ∈ t.inits, p.count '}' ≤ p.count '{' := by
  simp only [List.mem_inits]
  exact ⟨fun h => ⟨h.total, h.front⟩, fun h => ⟨h.1, h.2⟩⟩

instance (t : Text) : Decidable (Balanced t) := decidable_of_iff _ balanced_iff.symm

/-- A closing brace after a balanced text has no partner in it. -/
theorem Balanced.eq_of_isPrefix {a b x y : Text} (ha : Balanced a) (hb : Balanced b)
    (h : a ++ '}' :: x = b ++ '}' :: y) (hpre : a <+: b) : a = b := by
  obtain ⟨e, rfl⟩ := hpre
  rw [List.append_assoc, List.append_cancel_left_eq] at h
  cases e with
  | nil => rw [List.append_nil]
  | cons c e =>
    obtain ⟨rfl, -⟩ := List.cons.inj h
    have hfront := hb.front (a ++ ['}']) ⟨e, by simp⟩
    have hopen : List.count '{' ['}'] = 0 := rfl
    have htotal := ha.total
    rw [List.count_append, List.count_append, List.count_singleton_self, hopen] at hfront
    omega

/-- An open brace is closed in one place. -/
theorem Balanced.eq_of_append {a b x y : Text} (ha : Balanced a) (hb : Balanced b)
    (h : a ++ '}' :: x = b ++ '}' :: y) : a = b := by
  have hpre : b <+: a ++ '}' :: x := ⟨'}' :: y, h.symm⟩
  rcases List.prefix_or_prefix_of_prefix (List.prefix_append a ('}' :: x)) hpre with hp | hp
  · exact ha.eq_of_isPrefix hb h hp
  · exact (hb.eq_of_isPrefix ha h.symm hp).symm

/-! ## Wrappers as they are written -/

/-- A line of white space. -/
structure BlankLine (l : Text) : Prop where
  inside : '\n' ∉ l
  blank : Blank l

/-- A wrapper as it is written: a head, and on its line the brace that opens a block; the block
ends its line. -/
structure Definition where
  /-- Blank lines that stand above the head. -/
  above : List Text
  head : Text
  /-- What stands between the outermost braces. -/
  inner : Text
  /-- What stands after the block on its line. -/
  trailing : Text
  signature : Signature
  above_blank : ∀ l ∈ above, BlankLine l
  head_line : '\n' ∉ head
  head_open : '{' ∉ head
  head_close : '}' ∉ head
  parsed : Signature.parse? (trim head ++ [';']) = some signature
  balanced : Balanced inner
  trailing_blank : BlankLine trailing

namespace Definition

/-- What follows the opening brace, up to the end of the line of the closing one. -/
def block (d : Definition) : Text := d.inner ++ '}' :: d.trailing

/-- The text of a wrapper. -/
def text (d : Definition) : Text := Text.ofLines d.above ++ (d.head ++ '{' :: (d.block ++ ['\n']))

/-- The proposal that is meant: trimmed lines, none of them empty, between the outermost
braces. -/
def proposal (d : Definition) : Proposal := ⟨d.signature, unlines (kept (trimLines d.inner))⟩

/-- The lines of a block after its opening brace, with the closing brace. -/
def blockLines (d : Definition) : List Text := trimLines (d.inner ++ ['}'])

/-- Only the last line of the block ends in a closing brace. -/
def ClosesLast (d : Definition) : Prop := ∀ l ∈ d.blockLines.dropLast, l.getLast? ≠ some '}'

instance (d : Definition) : Decidable d.ClosesLast :=
  inferInstanceAs (Decidable (∀ l ∈ d.blockLines.dropLast, l.getLast? ≠ some '}'))

end Definition

/-- Wrappers one below the other, and nothing else. -/
structure Document where
  definitions : List Definition
  /-- Blank lines below the last wrapper. -/
  below : List Text
  below_blank : ∀ l ∈ below, BlankLine l

/-- The text of a document. -/
def Document.text (s : Document) : Text :=
  s.definitions.flatMap Definition.text ++ Text.ofLines s.below

/-! ## Blank lines -/

@[simp] theorem scan_nil_cons (ls : List Text) : scan ([] :: ls) = scan ls := by
  rw [scan]
  rfl

theorem scan_blankLines {above : List Text} (h : ∀ l ∈ above, BlankLine l) (t : Text) :
    scan (trimLines (Text.ofLines above ++ t)) = scan (trimLines t) := by
  induction above with
  | nil => rfl
  | cons l above ih =>
    obtain ⟨hl, habove⟩ := List.forall_mem_cons.mp h
    have hblank : trim l = [] := by
      rw [trim, trimFront_eq_nil_of_blank hl.blank]
      rfl
    have hsplit : Text.ofLines (l :: above) ++ t = l ++ '\n' :: (Text.ofLines above ++ t) := by
      simp
    rw [hsplit, trimLines_append, trimLines_line hl.inside, hblank, List.singleton_append,
      scan_nil_cons, ih habove]

/-! ## The lines of a block -/

variable {opened after : List Text} {last : Text}

/-- A closing brace goes on the unfinished line of what stands before it. -/
theorem trimLines_brace {inner end' : Text} {ls : List Text} (hend : '\n' ∉ end')
    (h : ∀ u, lines (inner ++ u) = ls ++ lines (end' ++ u)) :
    trimLines (inner ++ ['}']) = ls.map trim ++ [trim (end' ++ ['}'])] := by
  rw [trimLines, h, lines_of_not_mem (by simp [hend]) (by simp), List.map_append,
    List.map_singleton]

/-- The last line of a block ends in its closing brace; without the brace it is the last line of
what stands between the braces. -/
theorem exists_blockLines (inner : Text) : ∃ opened last,
    trimLines (inner ++ ['}']) = opened ++ [last ++ ['}']] ∧
      kept (trimLines inner) = bodyLines opened last := by
  obtain ⟨ls, end', hend, h⟩ := exists_unfinished inner
  have hbrace : Trimmed ['}'] := by decide
  have htrim : trim (end' ++ ['}']) = trimFront end' ++ ['}'] :=
    trim_append_append end' hbrace (by simp) []
  have hinner := h []
  rw [List.append_nil, List.append_nil] at hinner
  refine ⟨ls.map trim, trimFront end', ?_, ?_⟩
  · rw [trimLines_brace hend h, htrim]
  · have hkept : kept ((lines end').map trim) = kept [trim end'] := by
      by_cases hne : end' = []
      · subst hne
        rfl
      · rw [lines_of_not_mem hend hne, List.map_singleton]
    rw [trimLines, hinner, List.map_append, kept, List.filter_append]
    exact congrArg (kept (ls.map trim) ++ ·) hkept

/-- White space after a block, and what follows below it, does not touch its lines. -/
theorem trimLines_block {trailing : Text} (ht : BlankLine trailing) (inner rest : Text) :
    trimLines (inner ++ '}' :: (trailing ++ '\n' :: rest)) =
      trimLines (inner ++ ['}']) ++ trimLines rest := by
  obtain ⟨ls, end', hend, h⟩ := exists_unfinished inner
  have hline : trimLines ((end' ++ ['}'] ++ trailing) ++ ['\n']) = [trim (end' ++ ['}'])] := by
    rw [trimLines_line (by simp [hend, ht.inside]), trim_append_blank _ ht.blank]
  have hsplit : end' ++ '}' :: (trailing ++ '\n' :: rest) =
      (end' ++ ['}'] ++ trailing) ++ '\n' :: rest := by simp
  calc trimLines (inner ++ '}' :: (trailing ++ '\n' :: rest))
      = ls.map trim ++ trimLines ((end' ++ ['}'] ++ trailing) ++ '\n' :: rest) := by
        rw [trimLines, h, hsplit, List.map_append]
    _ = ls.map trim ++ ([trim (end' ++ ['}'])] ++ trimLines rest) := by
        rw [trimLines_append, hline]
    _ = trimLines (inner ++ ['}']) ++ trimLines rest := by
        rw [trimLines_brace hend h, List.append_assoc]

theorem Definition.exists_closes_blockLines (d : Definition) :
    ∃ opened last after, Closes d.blockLines opened last after := by
  obtain ⟨opened, last, hlines, -⟩ := exists_blockLines d.inner
  refine exists_closes ⟨last ++ ['}'], ?_, List.getLast?_concat⟩
  rw [Definition.blockLines, hlines]
  simp

/-- Where the lines of a block are cut at the first that ends in a closing brace, nothing is left
exactly if it is the last one. -/
theorem closesLast_iff {d : Definition} (h : Closes d.blockLines opened last after) :
    d.ClosesLast ↔ after = [] := by
  unfold Definition.ClosesLast
  rw [h.lines]
  constructor
  · intro hlast
    by_contra hne
    have hmem : last ++ ['}'] ∈ (opened ++ (last ++ ['}']) :: after).dropLast := by
      rw [List.dropLast_append_of_ne_nil (by simp), List.dropLast_cons_of_ne_nil hne]
      simp
    exact hlast _ hmem List.getLast?_concat
  · rintro rfl
    rw [List.dropLast_concat]
    exact h.opened

/-! ## Bodies -/

@[simp] theorem countIn_kept (c : Char) (ls : List Text) : countIn c (kept ls) = countIn c ls := by
  induction ls with
  | nil => rfl
  | cons l ls ih =>
    by_cases hl : l = []
    · subst hl
      simp [ih]
    · simp [kept_cons hl, ih]

theorem countIn_bodyLines (opened : List Text) (last : Text) :
    countIn '}' (bodyLines opened last) = countIn '}' opened + last.count '}' := by
  simp [bodyLines, count_trimBack (c := '}') rfl]

/-- A body that is over too early lacks the closing braces of the lines that are left. -/
theorem body_eq_iff {d : Definition} (h : Closes d.blockLines opened last after) :
    unlines (bodyLines opened last) = d.proposal.body ↔ after = [] := by
  obtain ⟨opened', last', hlines, hkept⟩ := exists_blockLines d.inner
  have hcut : opened ++ (last ++ ['}']) :: after = opened' ++ [last' ++ ['}']] :=
    h.lines.symm.trans hlines
  constructor
  · intro hbody
    have hcount := congrArg (List.count '}') hbody
    rw [Definition.proposal, hkept, count_unlines (by decide), count_unlines (by decide),
      countIn_bodyLines, countIn_bodyLines] at hcount
    have htotal := congrArg (countIn '}') hcut
    -- both bodies hold as many braces, but a last line that is left would end in one more
    by_contra hne
    obtain ⟨front, l, rfl⟩ := exists_concat hne
    have hlast : l = last' ++ ['}'] := by
      rw [← List.cons_append, ← List.append_assoc] at hcut
      exact List.singleton_inj.mp (List.append_inj' hcut rfl).2
    simp only [hlast, countIn_append, countIn_cons, countIn_nil, List.count_append,
      List.count_singleton_self] at htotal
    omega
  · rintro rfl
    obtain ⟨rfl, hlast⟩ := List.append_inj' hcut rfl
    rw [List.append_cancel_right (List.singleton_inj.mp hlast), Definition.proposal, hkept]

/-! ## Scanning -/

/-- A head is read from the line that its brace stands on. -/
theorem Definition.opening?_eq (d : Definition) (first : Text) :
    opening? (trim (d.head ++ '{' :: first)) = some (d.signature, trim first) := by
  have hbrace : Trimmed ['{'] := by decide
  have htrim : trim (d.head ++ (['{'] ++ first)) = trimFront d.head ++ (['{'] ++ trimBack first) :=
    trim_append_append d.head hbrace (by simp) first
  have hfront : '{' ∉ trimFront d.head := fun h => d.head_open (List.dropWhile_subset _ h)
  have hcut : cutAtFirst ['{'] (trimFront d.head ++ '{' :: trimBack first) =
      some (trimFront d.head, trimBack first) :=
    cutAtFirst_eq_some_iff.mpr ⟨rfl, hfront⟩
  rw [List.singleton_append, List.singleton_append] at htrim
  rw [htrim, opening?, hcut]
  simp only [Option.bind_some, trim_trimFront, d.parsed, Option.map_some, trim_trimBack]

/-- The line of the head goes on with the first line of the block; the others follow it. -/
theorem Definition.exists_lines (d : Definition) (rest : Text) : ∃ first more,
    scan (trimLines (d.text ++ rest)) = scan (trim (d.head ++ '{' :: first) :: more) ∧
      trim first :: more = d.blockLines ++ trimLines rest := by
  obtain ⟨first, more, hfirst⟩ : ∃ first more, lines (d.block ++ '\n' :: rest) = first :: more :=
    List.exists_cons_of_ne_nil (lines_ne_nil (by simp))
  refine ⟨first, more.map trim, ?_, ?_⟩
  · have hopen : '\n' ∉ d.head ++ ['{'] := by simp [d.head_line]
    have hline := lines_append_left hopen (by simp) hfirst
    have htext : d.text ++ rest =
        Text.ofLines d.above ++ (d.head ++ ['{'] ++ (d.block ++ '\n' :: rest)) := by
      simp [Definition.text]
    rw [htext, scan_blankLines d.above_blank, trimLines, hline, List.map_cons, List.append_assoc]
    rfl
  · have hblock : trimLines (d.block ++ '\n' :: rest) = d.blockLines ++ trimLines rest := by
      rw [Definition.block, List.append_assoc, List.cons_append]
      exact trimLines_block d.trailing_blank d.inner rest
    rw [← hblock, trimLines, hfirst, List.map_cons]

/-- **What the scanner makes of a wrapper**: its body is over at the first line of the block that
ends in a closing brace, and the lines that are left are scanned like all others. -/
theorem scan_text (d : Definition) (rest : Text) : ∃ opened last after,
    Closes d.blockLines opened last after ∧ scan (trimLines (d.text ++ rest)) =
      ⟨d.signature, unlines (bodyLines opened last)⟩ :: scan (after ++ trimLines rest) := by
  obtain ⟨opened, last, after, hcloses⟩ := d.exists_closes_blockLines
  refine ⟨opened, last, after, hcloses, ?_⟩
  obtain ⟨first, more, hscan, hfollow⟩ := d.exists_lines rest
  have hneat : ∀ l ∈ opened ++ (last ++ ['}']) :: after, Neat l := fun l hl =>
    neat_trimLines (hcloses.lines ▸ hl)
  have hbody : trimBack (Text.ofLines (kept opened) ++ last) = unlines (bodyLines opened last) :=
    trimBack_statements (fun l hl => (hneat l (by simp [hl])).trimmed)
      (hneat (last ++ ['}']) (by simp)).front.trimmed
  have hrun : statements [] (trim first) more =
      (some (Text.ofLines (kept opened) ++ last), after ++ trimLines rest) := by
    refine statements_eq_some_iff.mpr ⟨opened, last, ?_, rfl⟩
    rw [hfollow]
    exact hcloses.append _
  rw [hscan, scan_opened (d.opening?_eq first) hrun, hbody]

/-- One proposal after the other is the one that is meant, or a body is over too early. -/
theorem scan_definitions_iff {below : List Text} (hbelow : ∀ l ∈ below, BlankLine l)
    (ds : List Definition) :
    scan (trimLines (ds.flatMap Definition.text ++ Text.ofLines below)) =
        ds.map Definition.proposal ↔ ∀ d ∈ ds, d.ClosesLast := by
  induction ds with
  | nil =>
    have hscan := scan_blankLines hbelow []
    have hnil : scan (trimLines []) = [] := by rw [trimLines, lines, List.map_nil, scan]
    rw [List.append_nil, hnil] at hscan
    rw [List.flatMap_nil, List.nil_append, hscan]
    simp
  | cons d ds ih =>
    obtain ⟨opened, last, after, hcloses, hscan⟩ :=
      scan_text d (ds.flatMap Definition.text ++ Text.ofLines below)
    rw [List.flatMap_cons, List.append_assoc, hscan, List.map_cons, List.forall_mem_cons,
      closesLast_iff hcloses, List.cons.injEq]
    constructor
    · rintro ⟨hhead, hrest⟩
      obtain rfl := (body_eq_iff hcloses).mp (congrArg Proposal.body hhead)
      exact ⟨rfl, ih.mp hrest⟩
    · rintro ⟨rfl, hrest⟩
      refine ⟨?_, ih.mpr hrest⟩
      rw [(body_eq_iff hcloses).mpr rfl]
      rfl

/-- **A body is what stands between the outermost braces, if its wrapper is laid out for it.**  Of
wrappers one below the other the scanner finds, in order, what stands between their outermost
braces, exactly when no line before the last one of a wrapper ends in a closing brace.  Otherwise
the first such line ends the body, and what is left of the wrapper is scanned for more. -/
theorem scan_document (s : Document) :
    (∀ d ∈ s.definitions, ∀ a b, Balanced a → d.block = a ++ '}' :: b → a = d.inner) ∧
    (scan (trimLines s.text) = s.definitions.map Definition.proposal ↔
      ∀ d ∈ s.definitions, d.ClosesLast) ∧
    ∀ d ∈ s.definitions, ∀ rest, ∃ opened last after, Closes d.blockLines opened last after ∧
      scan (trimLines (d.text ++ rest)) =
        ⟨d.signature, unlines (bodyLines opened last)⟩ :: scan (after ++ trimLines rest) :=
  ⟨fun d _ _ _ ha h => ha.eq_of_append d.balanced h.symm,
    scan_definitions_iff s.below_blank s.definitions, fun d _ rest => scan_text d rest⟩

/-- A block inside the braces is closed on a line of its own, and the body with it. -/
theorem scan_nested_block :
    let d : Definition := {
      above := []
      head := "int foo_x(bool a) "
      inner := "\nif (a) \x7b\nreturn foo(1, a);\n\x7d\nreturn foo(2, a);\n"
      trailing := []
      signature := ⟨"int", "foo_x", [⟨"bool", some "a"⟩], []⟩
      above_blank := by simp
      head_line := by decide
      head_open := by decide
      head_close := by decide
      parsed := by decide +kernel
      balanced := by decide +kernel
      trailing_blank := ⟨by simp, blank_nil⟩ }
    let s : Document := ⟨[d], [], by simp⟩
    s.text = ("int foo_x(bool a) \x7b\nif (a) \x7b\nreturn foo(1, a);\n\x7d\n" ++
        "return foo(2, a);\n\x7d\n" : Text) ∧
      ¬ d.ClosesLast ∧
      scan (trimLines s.text) = [⟨d.signature, "if (a) \x7b\nreturn foo(1, a);"⟩] ∧
      d.proposal.body = ("if (a) \x7b\nreturn foo(1, a);\n\x7d\nreturn foo(2, a);" : Text) ∧
      scan (trimLines s.text) ≠ s.definitions.map Definition.proposal := by
  decide +kernel

end PrimitiveSearch.Proposal
