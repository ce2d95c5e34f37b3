import PrimitiveSearch.Proofs.Declaration.Key
import PrimitiveSearch.Proofs.Text.Lines
import PrimitiveSearch.Proposal.Scan

/-!
# Bodies of proposals

* `statements_eq_some_iff` — a body goes on to the first line that ends in a closing brace.
* `BodyOf` — a body that was read: its lines are trimmed, none is empty, and only the last one may
  end in a closing brace.
* `HeadOf` — a head that was read: its signature is read again from its written form.
* `of_mem_scan` — scanning finds nothing but such heads and bodies.
-/

set_option autoImplicit false

namespace PrimitiveSearch.Proposal

open Text

variable {sofar current body : Text} {ls after : List Text}

/-! ## The lines of a body -/

/-- The lines that are not empty. -/
def kept (ls : List Text) : List Text := ls.filter fun l => !l.isEmpty

theorem mem_kept {l : Text} : l ∈ kept ls ↔ l ∈ ls ∧ l ≠ [] := by
  simp [kept]

@[simp] theorem kept_cons_nil (ls : List Text) : kept ([] :: ls) = kept ls := rfl

theorem kept_cons {l : Text} (h : l ≠ []) (ls : List Text) : kept (l :: ls) = l :: kept ls :=
  List.filter_cons_of_pos (by simpa using h)

theorem beforeLast?_eq_none_iff {c : Char} {t : Text} :
    beforeLast? c t = none ↔ t.getLast? ≠ some c := by
  simp [beforeLast?]

/-- A line that ends in a closing brace ends the body; another one is kept unless it is empty. -/
@[simp] theorem statements_closed (sofar last : Text) (ls : List Text) :
    statements sofar (last ++ ['}']) ls = (some (sofar ++ last), ls) := by
  cases ls <;> rw [statements, beforeLast?_append]

theorem statements_open (h : current.getLast? ≠ some '}') (sofar next : Text) (ls : List Text) :
    statements sofar current (next :: ls) =
      statements (sofar ++ Text.ofLines (kept [current])) next ls := by
  rw [statements, beforeLast?_eq_none_iff.mpr h]
  by_cases hne : current = []
  · subst hne
    simp [kept]
  · simp [kept, hne]

theorem statements_end (h : current.getLast? ≠ some '}') (sofar : Text) :
    statements sofar current [] = (none, []) := by
  rw [statements, beforeLast?_eq_none_iff.mpr h]

/-- Some lines, cut at the first that ends in a closing brace. -/
structure Closes (ls opened : List Text) (last : Text) (after : List Text) : Prop where
  lines : ls = opened ++ (last ++ ['}']) :: after
  opened : ∀ l ∈ opened, l.getLast? ≠ some '}'

theorem closes_closed {opened : List Text} {last last' : Text} :
    Closes ((last ++ ['}']) :: ls) opened last' after ↔ opened = [] ∧ last' = last ∧ after = ls := by
  constructor
  · rintro ⟨h, ho⟩
    cases opened with
    | nil =>
      obtain ⟨hlast, rfl⟩ := List.cons.inj h
      exact ⟨rfl, (List.append_cancel_right hlast).symm, rfl⟩
    | cons l opened =>
      obtain ⟨rfl, -⟩ := List.cons.inj h
      exact absurd List.getLast?_concat (ho _ List.mem_cons_self)
  · rintro ⟨rfl, rfl, rfl⟩
    exact ⟨rfl, by simp⟩

theorem closes_open {opened : List Text} {last : Text} (h : current.getLast? ≠ some '}') :
    Closes (current :: ls) opened last after ↔
      ∃ more, opened = current :: more ∧ Closes ls more last after := by
  constructor
  · rintro ⟨hl, ho⟩
    cases opened with
    | nil =>
      obtain ⟨rfl, -⟩ := List.cons.inj hl
      exact absurd List.getLast?_concat h
    | cons l more =>
      obtain ⟨rfl, rfl⟩ := List.cons.inj hl
      exact ⟨more, rfl, rfl, fun m hm => ho m (List.mem_cons_of_mem _ hm)⟩
  · rintro ⟨more, rfl, rfl, ho⟩
    exact ⟨rfl, fun m hm => (List.mem_cons.mp hm).elim (fun hm => hm ▸ h) (ho m)⟩

theorem not_closes_nil {opened : List Text} {last : Text} : ¬ Closes [] opened last after := by
  rintro ⟨h, -⟩
  simp at h

/-- Some line is the first that ends in a closing brace. -/
theorem exists_closes (h : ∃ l ∈ ls, l.getLast? = some '}') :
    ∃ opened last after, Closes ls opened last after := by
  induction ls with
  | nil => simp at h
  | cons l ls ih =>
    by_cases hl : l.getLast? = some '}'
    · obtain ⟨last, rfl⟩ := List.getLast?_eq_some_iff.mp hl
      exact ⟨[], last, ls, closes_closed.mpr ⟨rfl, rfl, rfl⟩⟩
    · obtain ⟨m, hm, hlast⟩ := h
      rcases List.mem_cons.mp hm with rfl | hm
      · exact absurd hlast hl
      · obtain ⟨opened, last, after, hcloses⟩ := ih ⟨m, hm, hlast⟩
        exact ⟨l :: opened, last, after, (closes_open hl).mpr ⟨opened, rfl, hcloses⟩⟩

theorem Closes.append {opened : List Text} {last : Text} (h : Closes ls opened last after)
    (ms : List Text) : Closes (ls ++ ms) opened last (after ++ ms) :=
  ⟨by rw [h.lines, List.append_assoc, List.cons_append], h.opened⟩

theorem statements_closed_eq_some_iff {last : Text} :
    statements sofar (last ++ ['}']) ls = (some body, after) ↔
      ∃ opened last', Closes ((last ++ ['}']) :: ls) opened last' after ∧
        body = sofar ++ (Text.ofLines (kept opened) ++ last') := by
  simp only [statements_closed, closes_closed, Prod.mk.injEq, Option.some.injEq]
  constructor
  · rintro ⟨rfl, rfl⟩
    exact ⟨[], last, ⟨rfl, rfl, rfl⟩, rfl⟩
  · rintro ⟨opened, last', ⟨rfl, rfl, rfl⟩, rfl⟩
    exact ⟨rfl, rfl⟩

theorem ofLines_kept_cons (l : Text) (ls : List Text) :
    Text.ofLines (kept (l :: ls)) = Text.ofLines (kept [l]) ++ Text.ofLines (kept ls) := by
  rw [← List.singleton_append, kept, List.filter_append, Text.ofLines_append]
  rfl

/-- A body is what stands before the first line that ends in a closing brace, and on it. -/
theorem statements_eq_some_iff : statements sofar current ls = (some body, after) ↔
    ∃ opened last, Closes (current :: ls) opened last after ∧
      body = sofar ++ (Text.ofLines (kept opened) ++ last) := by
  induction ls generalizing sofar current with
  | nil =>
    by_cases hc : current.getLast? = some '}'
    · obtain ⟨last, rfl⟩ := List.getLast?_eq_some_iff.mp hc
      exact statements_closed_eq_some_iff
    · simp [statements_end hc, closes_open hc, not_closes_nil]
  | cons next ls ih =>
    by_cases hc : current.getLast? = some '}'
    · obtain ⟨last, rfl⟩ := List.getLast?_eq_some_iff.mp hc
      exact statements_closed_eq_some_iff
    · rw [statements_open hc, ih]
      simp only [closes_open hc, List.append_assoc]
      constructor
      · rintro ⟨opened, last, h, rfl⟩
        exact ⟨_, last, ⟨opened, rfl, h⟩, by rw [ofLines_kept_cons current opened, List.append_assoc]⟩
      · rintro ⟨_, last, ⟨opened, rfl, h⟩, rfl⟩
        exact ⟨opened, last, h, by rw [ofLines_kept_cons current opened, List.append_assoc]⟩

/-! ## Bodies that were read -/

/-- The lines of a body: what was kept of the lines before the closing brace, and what stands on
its line before it. -/
def bodyLines (opened : List Text) (last : Text) : List Text :=
  kept opened ++ kept [trimBack last]

theorem bodyLines_blank {last : Text} (h : trimBack last = []) (opened : List Text) :
    bodyLines opened last = kept opened := by
  rw [bodyLines, h, kept_cons_nil]
  exact List.append_nil _

theorem bodyLines_concat {last : Text} (h : trimBack last ≠ []) (opened : List Text) :
    bodyLines opened last = kept opened ++ [trimBack last] := by
  rw [bodyLines, kept_cons h]
  rfl

theorem mem_bodyLines {opened : List Text} {last l : Text} (h : l ∈ bodyLines opened last) :
    (l ∈ opened ∨ l = trimBack last) ∧ l ≠ [] := by
  simp only [bodyLines, List.mem_append, mem_kept, List.mem_singleton] at h
  rcases h with h | h
  · exact ⟨.inl h.1, h.2⟩
  · exact ⟨.inr h.1, h.2⟩

/-- The text of a body ends with the last line that is not empty. -/
theorem trimBack_statements {opened : List Text} {last : Text} (ho : ∀ l ∈ opened, Trimmed l)
    (hl : Trimmed (trimBack last)) :
    trimBack (Text.ofLines (kept opened) ++ last) = unlines (bodyLines opened last) := by
  obtain ⟨b, hb, hlast⟩ := exists_trimBack last
  have hlines : ∀ l ∈ bodyLines opened last, Trimmed l ∧ l ≠ [] := by
    intro l h
    obtain ⟨h | rfl, hne⟩ := mem_bodyLines h
    · exact ⟨ho l h, hne⟩
    · exact ⟨hl, hne⟩
  suffices h : ∃ e, Blank e ∧
      Text.ofLines (kept opened) ++ last = unlines (bodyLines opened last) ++ e by
    obtain ⟨e, he, h⟩ := h
    rw [h, trimBack_unlines he hlines]
  by_cases hblank : trimBack last = []
  · -- the line of the brace adds nothing, and takes the line feed before it along
    rw [bodyLines_blank hblank]
    rw [hblank, List.nil_append] at hlast
    by_cases hne : kept opened = []
    · exact ⟨b, hb, by rw [hne, hlast]; rfl⟩
    · refine ⟨'\n' :: b, fun c hc => ?_, by rw [ofLines_eq hne, hlast, List.append_assoc]; rfl⟩
      rcases List.mem_cons.mp hc with rfl | hc
      · rfl
      · exact hb c hc
  · rw [bodyLines_concat hblank, unlines_concat]
    exact ⟨b, hb, by rw [List.append_assoc, ← hlast]⟩

/-- What a body looks like that was read from lines `ls` and the rest of a line before them. -/
structure BodyOf (ls : List Text) (body : Text) : Prop where
  text : unlines (lines body) = body
  line : ∀ l ∈ lines body, Neat l ∧ l ≠ []
  unclosed : ∀ l ∈ (lines body).dropLast, l.getLast? ≠ some '}'
  continued : ∀ l ∈ (lines body).tail, ∃ m ∈ ls, l <+: m
  whole : ∀ l ∈ (lines body).tail.dropLast, l ∈ ls

theorem BodyOf.mono {ms : List Text} (h : BodyOf ls body) (hsub : ls ⊆ ms) : BodyOf ms body := by
  refine ⟨h.text, h.line, h.unclosed, fun l hl => ?_, fun l hl => hsub (h.whole l hl)⟩
  obtain ⟨m, hm, hpre⟩ := h.continued l hl
  exact ⟨m, hsub hm, hpre⟩

theorem dropLast_bodyLines (opened : List Text) (last : Text) :
    (bodyLines opened last).dropLast ⊆ kept opened := by
  by_cases hblank : trimBack last = []
  · rw [bodyLines_blank hblank]
    exact List.dropLast_subset _
  · rw [bodyLines_concat hblank, List.dropLast_concat]
    exact List.Subset.refl _

/-- The first line of a body may be the current one; all others stand after it. -/
theorem tail_bodyLines_subset (current : Text) (more : List Text) (last : Text) :
    (bodyLines (current :: more) last).tail ⊆ bodyLines more last ∧
      (bodyLines (current :: more) last).tail.dropLast ⊆ more := by
  have hmore : (bodyLines more last).dropLast ⊆ more := fun l hl =>
    (mem_kept.mp (dropLast_bodyLines more last hl)).1
  by_cases hne : current = []
  · rw [show bodyLines (current :: more) last = bodyLines more last by rw [hne]; rfl]
    refine ⟨fun l hl => List.mem_of_mem_tail hl, fun l hl => hmore ?_⟩
    rw [← List.tail_dropLast] at hl
    exact List.mem_of_mem_tail hl
  · rw [show bodyLines (current :: more) last = current :: bodyLines more last by
      rw [bodyLines, kept_cons hne]; rfl]
    exact ⟨List.Subset.refl _, hmore⟩

/-- Only the first line of a body can be the current one, and only the last can be cut short. -/
theorem Closes.tail_bodyLines {opened : List Text} {last : Text}
    (h : Closes (current :: ls) opened last after) :
    (∀ l ∈ (bodyLines opened last).tail, ∃ m ∈ ls, l <+: m) ∧
      ∀ l ∈ (bodyLines opened last).tail.dropLast, l ∈ ls := by
  cases opened with
  | nil =>
    have hnil : (bodyLines [] last).tail = [] := by
      by_cases hblank : trimBack last = []
      · rw [bodyLines_blank hblank]
        rfl
      · rw [bodyLines_concat hblank]
        rfl
    simp [hnil]
  | cons first more =>
    obtain ⟨rfl, rfl⟩ := List.cons.inj h.lines
    have hsub := tail_bodyLines_subset current more last
    refine ⟨fun l hl => ?_, fun l hl => List.mem_append_left _ (hsub.2 hl)⟩
    obtain ⟨hl | rfl, -⟩ := mem_bodyLines (hsub.1 hl)
    · exact ⟨l, List.mem_append_left _ hl, List.prefix_refl l⟩
    · exact ⟨last ++ ['}'], by simp, (trimBack_isPrefix last).trans (List.prefix_append _ _)⟩

theorem bodyOf_statements (hcurrent : Neat current) (hls : ∀ l ∈ ls, Neat l)
    (h : statements [] current ls = (some body, after)) : BodyOf ls (trimBack body) := by
  obtain ⟨opened, last, hcloses, rfl⟩ := statements_eq_some_iff.mp h
  have hall : ∀ l ∈ opened ++ (last ++ ['}']) :: after, Neat l := by
    rw [← hcloses.lines]
    exact fun l hl => (List.mem_cons.mp hl).elim (fun h => h ▸ hcurrent) (hls l)
  have hlast : Neat (trimBack last) := (hall (last ++ ['}']) (by simp)).front
  have hlines : ∀ l ∈ bodyLines opened last, Neat l ∧ l ≠ [] := by
    intro l hl
    obtain ⟨hl | rfl, hne⟩ := mem_bodyLines hl
    · exact ⟨hall l (by simp [hl]), hne⟩
    · exact ⟨hlast, hne⟩
  have hread : lines (unlines (bodyLines opened last)) = bodyLines opened last :=
    lines_unlines (fun l hl => (hlines l hl).1.isLine) fun h =>
      (hlines [] (List.mem_of_getLast? h)).2 rfl
  rw [List.nil_append, trimBack_statements (fun l hl => (hall l (by simp [hl])).trimmed)
    hlast.trimmed]
  have hunclosed : ∀ l ∈ (bodyLines opened last).dropLast, l.getLast? ≠ some '}' := fun l hl =>
    hcloses.opened l (mem_kept.mp (dropLast_bodyLines opened last hl)).1
  constructor <;> rw [hread]
  · exact hlines
  · exact hunclosed
  · exact hcloses.tail_bodyLines.1
  · exact hcloses.tail_bodyLines.2

/-! ## Heads that were read -/

/-- What a head looks like that was read from a line among `ls`. -/
structure HeadOf (ls : List Text) (s : Signature) : Prop where
  signature : Signature.parse? s.key = some s
  neat : Neat s.key.dropLast
  brace : '{' ∉ s.key
  returnType : ∃ l ∈ ls, s.returnType <+: l

theorem HeadOf.mono {ms : List Text} {s : Signature} (h : HeadOf ls s) (hsub : ls ⊆ ms) :
    HeadOf ms s := by
  obtain ⟨l, hl, hpre⟩ := h.returnType
  exact ⟨h.signature, h.neat, h.brace, l, hsub hl, hpre⟩

theorem headOf_opening {line first : Text} {s : Signature} (hline : Neat line)
    (h : opening? line = some (s, first)) : HeadOf [line] s ∧ Neat first := by
  obtain ⟨⟨head, rest⟩, hcut, hs⟩ := Option.bind_eq_some_iff.mp h
  obtain ⟨s', hparse, hs'⟩ := Option.map_eq_some_iff.mp hs
  obtain ⟨rfl, rfl⟩ := Prod.mk.inj hs'
  obtain ⟨rfl, hbrace⟩ := cutAtFirst_eq_some_iff.mp hcut
  have hfront : trim head <+: head := by
    refine trim_isPrefix fun c hc => hline.trimmed.front c ?_
    rwa [List.head?_append_of_ne_nil _ (by rintro rfl; cases hc)]
  have hflush : Declaration.Flush (trim head ++ [';']) := by
    refine ⟨fun hc => ?_, fun c hc => ?_⟩
    · rcases List.mem_append.mp hc with hc | hc
      · exact hline.inside (List.mem_append_left _ (mem_of_mem_trim hc))
      · exact absurd hc (by decide)
    · by_cases hne : trim head = []
      · rw [hne] at hc
        cases hc
        rfl
      · rw [List.head?_append_of_ne_nil _ hne] at hc
        exact (trimmed_trim head).front c hc
  have hkey : ∀ c ∈ s'.key, c ∈ head ∨ c ∈ " ,();".toList := by
    intro c hc
    rcases Signature.mem_key_imp hflush hparse hc with hc | hc
    · rcases List.mem_append.mp hc with hc | hc
      · exact .inl (mem_of_mem_trim hc)
      · exact .inr ((by decide : [';'] ⊆ " ,();".toList) hc)
    · exact .inr hc
  obtain ⟨arguments, hsplit, -, -⟩ := Signature.parse?_eq_some_iff.mp hparse
  refine ⟨⟨Signature.parse?_key hflush hparse, ⟨?_, Signature.trimmed_head hflush hparse⟩, ?_, _,
    List.mem_singleton_self _, ?_⟩, ?_⟩
  · intro hc
    rcases hkey _ (List.dropLast_subset _ hc) with hc | hc
    · exact hline.inside (List.mem_append_left _ hc)
    · exact absurd hc (by decide)
  · intro hc
    rcases hkey _ hc with hc | hc
    · exact hbrace hc
    · exact absurd hc (by decide)
  · exact ((hflush.returnType_isPrefix_of_concat hsplit).trans hfront).trans (List.prefix_append _ _)
  · refine ⟨fun hc => hline.inside ?_, trimmed_trim rest⟩
    exact List.mem_append_right _ (List.mem_cons_of_mem _ (mem_of_mem_trim hc))

/-! ## Scanned proposals -/

theorem statements_subset (sofar current : Text) (ls : List Text) :
    (statements sofar current ls).2 ⊆ ls := by
  induction ls generalizing sofar current with
  | nil => rw [statements]; split <;> exact List.Subset.refl _
  | cons next ls ih =>
    rw [statements]
    split
    · exact List.Subset.refl _
    · exact fun l hl => List.mem_cons_of_mem _ (ih _ _ hl)

theorem scan_opened {line first : Text} {s : Signature} (h : opening? line = some (s, first))
    (hbody : statements [] first ls = (some body, after)) :
    scan (line :: ls) = ⟨s, trimBack body⟩ :: scan after := by
  rw [scan, h]
  simp only [hbody]

/-- Head and body of a proposal come from the lines that were scanned. -/
theorem of_mem_scan (hls : ∀ l ∈ ls, Neat l) {p : Proposal} (hp : p ∈ scan ls) :
    HeadOf ls p.signature ∧ BodyOf ls p.body := by
  have hmono : ∀ {ms ls : List Text}, ms ⊆ ls → HeadOf ms p.signature ∧ BodyOf ms p.body →
      HeadOf ls p.signature ∧ BodyOf ls p.body := fun hsub h => ⟨h.1.mono hsub, h.2.mono hsub⟩
  induction ls using scan.induct with
  | case1 => rw [scan] at hp; cases hp
  | case2 line rest h ih =>
    rw [scan, h] at hp
    have hsub : rest ⊆ line :: rest := List.subset_cons_self line rest
    exact hmono hsub (ih (fun l hl => hls l (hsub hl)) hp)
  | case3 line rest signature first h hnone ih =>
    rw [scan, h] at hp
    simp only [hnone] at hp
    have hsub := List.Subset.trans (statements_subset [] first rest) (List.subset_cons_self line rest)
    exact hmono hsub (ih (fun l hl => hls l (hsub hl)) hp)
  | case4 line rest signature first h body hbody ih =>
    have hrun : statements [] first rest = (some body, (statements [] first rest).2) := by
      rw [← hbody]
    rw [scan_opened h hrun] at hp
    rcases List.mem_cons.mp hp with rfl | hp
    · obtain ⟨hhead, hfirst⟩ := headOf_opening (hls line List.mem_cons_self) h
      have htail : ∀ l ∈ rest, Neat l := fun l hl => hls l (List.mem_cons_of_mem _ hl)
      exact ⟨hhead.mono (by simp),
        (bodyOf_statements hfirst htail hrun).mono (List.subset_cons_self line rest)⟩
    · have hsub := List.Subset.trans (statements_subset [] first rest) (List.subset_cons_self line rest)
      exact hmono hsub (ih (fun l hl => hls l (hsub hl)) hp)

end PrimitiveSearch.Proposal
