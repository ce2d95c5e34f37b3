import PrimitiveSearch.Proofs.Proposal.Body

/-!
# Scanning stretch by stretch

The scanner reads lines in stretches: a line that opens nothing alone, and a wrapper from the line
of its head to the one that closes its body.

* `Stretch` — a stretch of lines, and the proposal that it gives.
* `FallsInto` — lines as stretches, and what is left of them: nothing, or a wrapper whose body no
  line closes.  `exists_fallsInto`, `FallsInto.unique`: there is one way for lines to do so.
* `Stretch.scan_append`, `scan_stretches` — what the scanner makes of one stretch, and of many.
* `Settled` — nothing is left.  `settled_iff`: more lines add their own proposals and change none.
* `Idle` — a line that can stand between two wrappers without a trace.
* `Tidy` — a body as the scanner leaves it.
* `scan_compositional` — all of this for the scanner.
-/

set_option autoImplicit false

namespace PrimitiveSearch.Proposal

open Text

variable {ls rest rest' opened opened' after after' : List Text} {first last last' : Text}

/-! ## Lines that close a body -/

theorem Closes.unique (h : Closes ls opened last after) (h' : Closes ls opened' last' after') :
    opened = opened' ∧ last = last' ∧ after = after' := by
  induction ls generalizing opened opened' with
  | nil => exact absurd h not_closes_nil
  | cons l ls ih =>
    by_cases hl : l.getLast? = some '}'
    · obtain ⟨front, rfl⟩ := List.getLast?_eq_some_iff.mp hl
      obtain ⟨rfl, rfl, rfl⟩ := closes_closed.mp h
      obtain ⟨rfl, rfl, rfl⟩ := closes_closed.mp h'
      exact ⟨rfl, rfl, rfl⟩
    · obtain ⟨more, rfl, hmore⟩ := (closes_open hl).mp h
      obtain ⟨more', rfl, hmore'⟩ := (closes_open hl).mp h'
      obtain ⟨rfl, hlast, hafter⟩ := ih hmore hmore'
      exact ⟨rfl, hlast, hafter⟩

/-- The lines up to the closing one, without those after it. -/
theorem Closes.exists_cut (h : Closes (first :: rest) opened last after) :
    ∃ more, rest = more ++ after ∧ Closes (first :: more) opened last [] := by
  obtain ⟨hlines, hopened⟩ := h
  cases opened with
  | nil =>
    obtain ⟨rfl, rfl⟩ := List.cons.inj hlines
    exact ⟨[], rfl, rfl, hopened⟩
  | cons l opened =>
    obtain ⟨rfl, rfl⟩ := List.cons.inj hlines
    exact ⟨opened ++ [last ++ ['}']], by simp, rfl, hopened⟩

theorem statements_unclosed {sofar current : Text}
    (h : ∀ l ∈ current :: ls, l.getLast? ≠ some '}') :
    statements sofar current ls = (none, []) := by
  induction ls generalizing sofar current with
  | nil => exact statements_end (h current List.mem_cons_self) sofar
  | cons next ls ih =>
    rw [statements_open (h current List.mem_cons_self)]
    exact ih fun l hl => h l (List.mem_cons_of_mem current hl)

/-! ## Stretches -/

/-- Lines that the scanner reads in one go. -/
inductive Stretch where
  /-- A line that opens nothing. -/
  | passed (line : Text) (idle : opening? line = none)
  /-- A wrapper: the line that opens it, and the lines up to the one that closes its body. -/
  | wrapper (line : Text) (signature : Signature) (first : Text) (more opened : List Text)
      (last : Text) (opens : opening? line = some (signature, first))
      (closes : Closes (first :: more) opened last [])

namespace Stretch

/-- The lines of a stretch. -/
def lines : Stretch → List Text
  | passed line _ => [line]
  | wrapper line _ _ more _ _ _ _ => line :: more

/-- What a stretch gives. -/
def proposal? : Stretch → Option Proposal
  | passed _ _ => none
  | wrapper _ signature _ _ opened last _ _ =>
    some ⟨signature, trimBack (Text.ofLines (kept opened) ++ last)⟩

/-- The scanner reads a stretch, whatever follows it, and goes on behind it. -/
theorem scan_append (x : Stretch) (rest : List Text) :
    scan (x.lines ++ rest) = x.proposal?.toList ++ scan rest := by
  cases x with
  | passed line idle =>
    rw [lines, List.singleton_append, scan, idle]
    rfl
  | wrapper line signature first more opened last opens closes =>
    have hbody : statements [] first (more ++ rest) =
        (some (Text.ofLines (kept opened) ++ last), rest) :=
      statements_eq_some_iff.mpr ⟨opened, last, closes.append rest, rfl⟩
    rw [lines, List.cons_append, scan_opened opens hbody]
    rfl

end Stretch

variable {ss ss' : List Stretch}

/-- What stretches give, one after the other, stands in front of what follows them gives. -/
theorem scan_stretches (ss : List Stretch) (rest : List Text) :
    scan (ss.flatMap Stretch.lines ++ rest) = ss.filterMap Stretch.proposal? ++ scan rest := by
  induction ss with
  | nil => rfl
  | cons x ss ih =>
    rw [List.flatMap_cons, List.append_assoc, x.scan_append, ih]
    cases hx : x.proposal? with
    | none => rw [List.filterMap_cons_none hx]; rfl
    | some p => rw [List.filterMap_cons_some hx]; rfl

/-! ## Lines fall into stretches -/

/-- A wrapper whose body no line closes. -/
inductive Unclosed : List Text → Prop where
  | intro {line first : Text} {signature : Signature} {rest : List Text}
      (opens : opening? line = some (signature, first))
      (never : ∀ l ∈ first :: rest, l.getLast? ≠ some '}') : Unclosed (line :: rest)

theorem Unclosed.scan_eq (h : Unclosed ls) : scan ls = [] := by
  obtain ⟨opens, never⟩ := h
  rw [scan, opens]
  simp only [statements_unclosed never]
  rw [scan]

/-- Lines as stretches, and what is left of them. -/
structure FallsInto (ls : List Text) (ss : List Stretch) (rest : List Text) : Prop where
  lines : ls = ss.flatMap Stretch.lines ++ rest
  rest : rest = [] ∨ Unclosed rest

theorem FallsInto.scan_eq (h : FallsInto ls ss rest) :
    scan ls = ss.filterMap Stretch.proposal? := by
  rw [h.lines, scan_stretches]
  rcases h.rest with rfl | hrest
  · rw [scan, List.append_nil]
  · rw [hrest.scan_eq, List.append_nil]

theorem FallsInto.cons (x : Stretch) (h : FallsInto ls ss rest) :
    FallsInto (x.lines ++ ls) (x :: ss) rest :=
  ⟨by rw [List.flatMap_cons, List.append_assoc, ← h.lines], h.rest⟩

/-- The two loops of the scanner leave no line out, and read none twice. -/
theorem exists_fallsInto (ls : List Text) : ∃ ss rest, FallsInto ls ss rest := by
  induction ls using scan.induct with
  | case1 => exact ⟨[], [], rfl, .inl rfl⟩
  | case2 line rest idle ih =>
    obtain ⟨ss, left, h⟩ := ih
    exact ⟨_, left, h.cons (.passed line idle)⟩
  | case3 line rest signature first opens hnone _ =>
    refine ⟨[], line :: rest, rfl, .inr ⟨opens, fun l hl hbrace => ?_⟩⟩
    obtain ⟨opened, last, after, hcloses⟩ := exists_closes ⟨l, hl, hbrace⟩
    have hsome : statements [] first rest = (some (Text.ofLines (kept opened) ++ last), after) :=
      statements_eq_some_iff.mpr ⟨opened, last, hcloses, rfl⟩
    rw [hsome] at hnone
    cases hnone
  | case4 line rest signature first opens body hbody ih =>
    obtain ⟨ss, left, h⟩ := ih
    obtain ⟨opened, last, hcloses, -⟩ :=
      statements_eq_some_iff.mp (Prod.ext hbody rfl : statements [] first rest = (some body, _))
    obtain ⟨more, hmore, hcut⟩ := hcloses.exists_cut
    have hcons := h.cons (.wrapper line signature first more opened last opens hcut)
    rw [Stretch.lines, List.cons_append, ← hmore] at hcons
    exact ⟨_, left, hcons⟩

theorem FallsInto.of_cons {x : Stretch} (h : FallsInto ls (x :: ss) rest) :
    ∃ more, ls = x.lines ++ more ∧ FallsInto more ss rest :=
  ⟨_, by rw [h.lines, List.flatMap_cons, List.append_assoc], rfl, h.rest⟩

/-- What is left of lines does not begin with a stretch. -/
theorem FallsInto.ne_stretch (h : FallsInto ls [] rest) (x : Stretch) (more : List Text) :
    ls ≠ x.lines ++ more := by
  obtain rfl : ls = rest := h.lines
  rintro rfl
  cases x with
  | passed line idle =>
    rcases h.rest with hnil | ⟨opens, -⟩
    · cases hnil
    · rw [idle] at opens
      cases opens
  | wrapper line signature first more' opened last opens closes =>
    rcases h.rest with hnil | ⟨opens', never⟩
    · cases hnil
    · rw [opens] at opens'
      cases opens'
      have hmem : last ++ ['}'] ∈ first :: (more' ++ more) := by
        rw [← List.cons_append, closes.lines]
        simp
      exact never _ hmem List.getLast?_concat

theorem Stretch.eq_of_append {x y : Stretch} (h : x.lines ++ ls = y.lines ++ rest) :
    x = y ∧ ls = rest := by
  cases x with
  | passed line idle =>
    cases y with
    | passed line' idle' =>
      obtain ⟨rfl, rfl⟩ := List.cons.inj h
      exact ⟨rfl, rfl⟩
    | wrapper line' signature first more opened last opens closes =>
      obtain ⟨rfl, -⟩ := List.cons.inj h
      rw [idle] at opens
      cases opens
  | wrapper line signature first more opened last opens closes =>
    cases y with
    | passed line' idle' =>
      obtain ⟨rfl, -⟩ := List.cons.inj h
      rw [idle'] at opens
      cases opens
    | wrapper line' signature' first' more' opened' last' opens' closes' =>
      obtain ⟨rfl, hmore⟩ : line = line' ∧ more ++ ls = more' ++ rest := List.cons.inj h
      obtain ⟨rfl, rfl⟩ : signature = signature' ∧ first = first' := by
        rw [opens] at opens'
        cases opens'
        exact ⟨rfl, rfl⟩
      have hcloses := closes.append ls
      rw [List.cons_append, hmore] at hcloses
      obtain ⟨rfl, rfl, rfl⟩ := hcloses.unique (closes'.append rest)
      obtain rfl := List.append_cancel_right hmore
      exact ⟨rfl, rfl⟩

/-- There is one way for lines to fall into stretches. -/
theorem FallsInto.unique (h : FallsInto ls ss rest) (h' : FallsInto ls ss' rest') :
    ss = ss' ∧ rest = rest' := by
  induction ss generalizing ls ss' with
  | nil =>
    cases ss' with
    | nil => exact ⟨rfl, h.lines.symm.trans h'.lines⟩
    | cons y ss' =>
      obtain ⟨more, hls, -⟩ := h'.of_cons
      exact absurd hls (h.ne_stretch y more)
  | cons x ss ih =>
    obtain ⟨more, hls, hmore⟩ := h.of_cons
    cases ss' with
    | nil => exact absurd hls (h'.ne_stretch x more)
    | cons y ss' =>
      obtain ⟨more', hls', hmore'⟩ := h'.of_cons
      obtain ⟨rfl, rfl⟩ := Stretch.eq_of_append (hls.symm.trans hls')
      obtain ⟨rfl, hrest⟩ := ih hmore hmore'
      exact ⟨rfl, hrest⟩

/-! ## Nothing is left -/

/-- The scan of some lines does not end inside of a body: they are stretches and nothing else. -/
def Settled (ls : List Text) : Prop := ∃ ss, FallsInto ls ss []

theorem Settled.scan_append (h : Settled ls) (more : List Text) :
    scan (ls ++ more) = scan ls ++ scan more := by
  obtain ⟨ss, hss⟩ := h
  rw [hss.scan_eq, hss.lines, List.append_nil, scan_stretches]

/-- A closing brace after a body that is not closed makes it one that is. -/
theorem Unclosed.scan_brace (h : Unclosed ls) : scan (ls ++ [['}']]) ≠ [] := by
  cases h with
  | @intro line first signature rest opens never =>
    have hcloses : Closes (first :: (rest ++ [['}']])) (first :: rest) [] [] := ⟨rfl, never⟩
    have hscan := (Stretch.wrapper line signature first _ _ _ opens hcloses).scan_append []
    rw [List.append_nil, Stretch.lines] at hscan
    rw [List.cons_append, hscan]
    simp [Stretch.proposal?]

/-- Behind a settled text a closing brace closes nothing. -/
theorem settled_iff_brace : Settled ls ↔ scan (ls ++ [['}']]) = scan ls := by
  constructor
  · intro h
    have hnone : scan [['}']] = [] := by decide +kernel
    rw [h.scan_append, hnone, List.append_nil]
  · intro h
    obtain ⟨ss, rest, hss⟩ := exists_fallsInto ls
    rcases hss.rest with rfl | hrest
    · exact ⟨ss, hss⟩
    · rw [hss.scan_eq, hss.lines, List.append_assoc, scan_stretches] at h
      exact absurd (List.append_right_eq_self.mp h) hrest.scan_brace

instance (ls : List Text) : Decidable (Settled ls) := decidable_of_iff _ settled_iff_brace.symm

/-- More lines add their own proposals, and change none, exactly behind a settled text. -/
theorem settled_iff : Settled ls ↔ ∀ more, scan (ls ++ more) = scan ls ++ scan more := by
  refine ⟨Settled.scan_append, fun h => settled_iff_brace.mpr ?_⟩
  have hnone : scan [['}']] = [] := by decide +kernel
  rw [h, hnone, List.append_nil]

/-! ## Lines without a trace -/

/-- A line without an opening brace, or with something in front of it that is no declaration. -/
def Idle (l : Text) : Prop :=
  '{' ∉ l ∨ ∃ head rest, l = head ++ '{' :: rest ∧ '{' ∉ head ∧
    Signature.parse? (trim head ++ [';']) = none

theorem opening?_eq_none_iff {l : Text} : opening? l = none ↔ Idle l := by
  unfold opening? Idle
  cases hcut : cutAtFirst ['{'] l with
  | none => exact iff_of_true rfl (.inl (cutAtFirst_eq_none_iff.mp hcut))
  | some cut =>
    obtain ⟨head, rest⟩ := cut
    obtain ⟨hl, hhead⟩ := cutAtFirst_eq_some_iff.mp hcut
    rw [Option.bind_some, Option.map_eq_none_iff]
    refine ⟨fun h => .inr ⟨head, rest, hl, hhead, h⟩, ?_⟩
    rintro (hbrace | ⟨head', rest', hl', hhead', hnone⟩)
    · exact absurd (by rw [hl]; simp) hbrace
    · rw [cutAtFirst_eq_some_iff.mpr ⟨hl', hhead'⟩] at hcut
      cases hcut
      exact hnone

instance (l : Text) : Decidable (Idle l) := decidable_of_iff _ opening?_eq_none_iff

theorem scan_idle {idle : List Text} (h : ∀ l ∈ idle, Idle l) (more : List Text) :
    scan (idle ++ more) = scan more := by
  induction idle with
  | nil => rfl
  | cons l idle ih =>
    obtain ⟨hl, hidle⟩ := List.forall_mem_cons.mp h
    rw [List.cons_append, scan, opening?_eq_none_iff.mpr hl]
    exact ih hidle

/-! ## Bodies -/

/-- A body as the scanner leaves it: lines without white space at their ends, none of them blank,
of which only the last may end in a closing brace. -/
structure Tidy (body : Text) : Prop where
  trimmed : Trimmed body
  whole : unlines (lines body) = body
  lines : ∀ l ∈ lines body, Trimmed l ∧ ¬ Blank l
  closing : ∀ l ∈ (Text.lines body).dropLast, l.getLast? ≠ some '}'

theorem BodyOf.tidy {body : Text} (h : BodyOf ls body) : Tidy body where
  trimmed := by
    rw [← h.text]
    exact trimmed_unlines fun l hl => ⟨(h.line l hl).1.trimmed, (h.line l hl).2⟩
  whole := h.text
  lines l hl := ⟨(h.line l hl).1.trimmed, (h.line l hl).1.trimmed.not_blank (h.line l hl).2⟩
  closing := h.unclosed

/-- **Scanning is compositional.**  Lines fall into stretches in one way, and the scanner finds what
these give, in order.  More lines add their own proposals exactly where no body is left open; there
lines without a trace can be put in and taken out.  Every body is tidy. -/
theorem scan_compositional (ls : List Text) :
    (∃ ss rest, FallsInto ls ss rest ∧ scan ls = ss.filterMap Stretch.proposal? ∧
      ∀ ss' rest', FallsInto ls ss' rest' → ss' = ss ∧ rest' = rest) ∧
    (Settled ls ↔ ∀ more, scan (ls ++ more) = scan ls ++ scan more) ∧
    (Settled ls → ∀ idle more, (∀ l ∈ idle, Idle l) →
      scan (ls ++ (idle ++ more)) = scan (ls ++ more)) ∧
    ((∀ l ∈ ls, Neat l) → ∀ p ∈ scan ls, Tidy p.body) := by
  refine ⟨?_, settled_iff, fun hsettled idle more hidle => ?_, fun hls p hp => ?_⟩
  · obtain ⟨ss, rest, h⟩ := exists_fallsInto ls
    exact ⟨ss, rest, h, h.scan_eq, fun ss' rest' h' => h'.unique h⟩
  · rw [hsettled.scan_append, hsettled.scan_append, scan_idle hidle]
  · exact (of_mem_scan hls hp).2.tidy

/-- Two wrappers, and prose between them that leaves no trace. -/
theorem scan_compositional_prose :
    let front : List Text := ["int foo_x(bool a)\x7b", "if (a) return foo(1, a);", "\x7d"]
    let prose : List Text := ["And one more:", "", "if (b) \x7b"]
    let back : List Text := ["int bar_y() \x7b return bar(2); \x7d"]
    let foo : Proposal :=
      ⟨⟨"int", "foo_x", [⟨"bool", some "a".toList⟩], []⟩, "if (a) return foo(1, a);"⟩
    let bar : Proposal := ⟨⟨"int", "bar_y", [], []⟩, "return bar(2);"⟩
    Settled front ∧ (∀ l ∈ prose, Idle l) ∧ (∀ l ∈ front ++ (prose ++ back), Neat l) ∧
      scan (front ++ (prose ++ back)) = scan (front ++ back) ∧
      scan (front ++ back) = [foo, bar] ∧
      ∀ p ∈ scan (front ++ (prose ++ back)), Tidy p.body := by
  intro front prose back foo bar
  obtain ⟨-, hadds, hidles, -⟩ := scan_compositional front
  obtain ⟨-, -, -, htidy⟩ := scan_compositional (front ++ (prose ++ back))
  have hsettled : Settled front := by decide +kernel
  have hprose : ∀ l ∈ prose, Idle l := by decide +kernel
  have hneat : ∀ l ∈ front ++ (prose ++ back), Neat l := by decide +kernel
  have hboth : scan front ++ scan back = [foo, bar] := by decide +kernel
  exact ⟨hsettled, hprose, hneat, hidles hsettled prose back hprose,
    (hadds.mp hsettled back).trans hboth, htidy hneat⟩

/-- Prose and a head that is no declaration between two wrappers, and a body that is left open. -/
example : scan (["int foo_x(bool a) \x7b return foo(1, a); \x7d", "Now bar:", "if (b) \x7b",
    "int bar_y() \x7b", "", "return bar(2);", "\x7d", "int baz_z() \x7b", "return"].map
      String.toList) =
    [⟨⟨"int", "foo_x", [⟨"bool", some "a"⟩], []⟩, "return foo(1, a);"⟩,
      ⟨⟨"int", "bar_y", [], []⟩, "return bar(2);"⟩] := by
  decide +kernel

end PrimitiveSearch.Proposal
