import PrimitiveSearch.Proofs.Catalogue.Annotation
import PrimitiveSearch.Proofs.Declaration.Choice

/-!
# White space around a declaration

The cut of a declaration prefers long leading white space, but gives some of it back when there is
no return type behind it.  Then a blank is taken for the return type, and trimming the declaration
loses it.

* `split?_trim_eq_some_iff` — trimming loses exactly the cuts with a blank return type;
  `exists_split?_blank_iff` says when there is one, by the grammar alone.
* `parse?_ne_trim_iff` — when trimming changes what is read.
* `trimmed_key_iff` — a written form has white space in front of it exactly if the return type is
  blank.
* `Catalogue.declaration_spacing` — what white space changes for a declaration, and for a line of a
  source on which it stands.
* `Catalogue.blank_type_accepted` — a primitive without a return type is taken up.
-/

set_option autoImplicit false

namespace PrimitiveSearch.Declaration

open Text

variable {t u b name arguments : Text} {s : Split} {p q : Parts}

/-! ## Blank return types -/

theorem IsNamed.blank_append (hb : Blank b) (h : IsNamed u name arguments) :
    IsNamed (b ++ u) name arguments := by
  obtain ⟨gap, beforeOpen, hne, hgap, hname, hopen, harguments, rfl⟩ := h
  refine ⟨b ++ gap, beforeOpen, List.append_ne_nil_of_right_ne_nil b hne,
    List.forall_mem_append.mpr ⟨hb, hgap⟩, hname, hopen, harguments, ?_⟩
  rw [List.append_assoc]

/-- With a blank return type, all that stands in front of the name is one gap. -/
theorem Parts.Follows.isNamed_of_blank (hp : p.Follows) (hb : Blank p.returnType) :
    IsNamed (p.lead ++ (p.returnType ++ p.named)) p.name p.arguments :=
  (hp.isNamed.blank_append hb).blank_append hp.lead

/-- A text can be cut with a blank return type in several ways, but not with different
arguments. -/
theorem Parts.Follows.arguments_eq (hp : p.Follows) (hq : q.Follows) (htext : p.text = q.text)
    (hpb : Blank p.returnType) (hqb : Blank q.returnType) : p.arguments = q.arguments := by
  have hclose := hp.beforeClose?
  rw [htext, hq.beforeClose?, Option.some.injEq] at hclose
  exact ((hp.isNamed_of_blank hpb).unique (hclose ▸ hq.isNamed_of_blank hqb)).2

/-- A trimmed text leaves no white space to take for a return type. -/
theorem Parts.Follows.not_blank_returnType (hp : p.Follows) (htext : p.text = trim t) :
    ¬ Blank p.returnType := by
  intro hb
  obtain ⟨c, front, hfront⟩ := List.exists_cons_of_ne_nil
    (List.append_ne_nil_of_right_ne_nil p.lead hp.returnType_ne)
  have hc : isBlank c = true :=
    List.forall_mem_append.mpr ⟨hp.lead, hb⟩ c (hfront ▸ List.mem_cons_self)
  have hhead : (trim t).head? = some c := by
    rw [← htext, p.text_eq, ← List.append_assoc, hfront]
    rfl
  rw [(trimmed_trim t).front c hhead] at hc
  cases hc

/-- A chosen return type is blank or does not begin with white space. -/
theorem Parts.IsChosen.front_returnType (h : p.IsChosen t) (hb : ¬ Blank p.returnType) {c : Char}
    (hc : p.returnType.head? = some c) : isBlank c = false := by
  refine Bool.not_eq_true _ ▸ fun hblank => hb ?_
  rw [h.returnType_eq_singleton hc hblank]
  exact blank_singleton hblank

/-- **Trimming loses exactly the cuts with a blank return type.** -/
theorem split?_trim_eq_some_iff :
    split? (trim t) = some s ↔ split? t = some s ∧ ¬ Blank s.returnType := by
  constructor
  · intro h
    obtain ⟨p, hp, rfl⟩ := split?_eq_some_iff.mp h
    exact ⟨split?_of_trim h, hp.follows.not_blank_returnType hp.text⟩
  · rintro ⟨h, hb⟩
    obtain ⟨p, hp, rfl⟩ := split?_eq_some_iff.mp h
    exact split?_trim h fun c hc => hp.front_returnType hb hc

/-- When a cut has a blank return type, by the grammar alone.  The parts that follow the grammar
need not be the chosen ones, but they have the same arguments. -/
theorem exists_split?_blank_iff :
    (∃ s, split? t = some s ∧ Blank s.returnType ∧ s.arguments = arguments) ↔
      split? (trim t) = none ∧
        ∃ p : Parts, p.Follows ∧ p.text = t ∧ Blank p.returnType ∧ p.arguments = arguments := by
  constructor
  · rintro ⟨s, h, hb, rfl⟩
    obtain ⟨p, hp, rfl⟩ := split?_eq_some_iff.mp h
    refine ⟨Option.eq_none_iff_forall_ne_some.mpr fun s hs => ?_, p, hp.follows, hp.text, hb, rfl⟩
    obtain ⟨hs', hsb⟩ := split?_trim_eq_some_iff.mp hs
    rw [h, Option.some.injEq] at hs'
    exact hsb (hs' ▸ hb)
  · rintro ⟨hnone, p, hp, htext, hb, rfl⟩
    cases h : split? t with
    | none => exact absurd htext (split?_eq_none_iff.mp h p hp)
    | some s =>
      have hsb : Blank s.returnType := by
        by_contra hsb
        rw [split?_trim_eq_some_iff.mpr ⟨h, hsb⟩] at hnone
        cases hnone
      obtain ⟨q, hq, rfl⟩ := split?_eq_some_iff.mp h
      exact ⟨q.split, rfl, hsb, hq.follows.arguments_eq hp (hq.text.trans htext.symm) hsb hb⟩

end PrimitiveSearch.Declaration

namespace PrimitiveSearch.Signature

open Text Declaration

variable {t b : Text} {s : Signature} {p : Parts}

theorem parse?_trim_eq_some_iff :
    parse? (trim t) = some s ↔ parse? t = some s ∧ ¬ Blank s.returnType := by
  simp only [parse?_eq_some_iff, split?_trim_eq_some_iff]
  constructor
  · rintro ⟨arguments, ⟨hcut, hb⟩, hrest⟩
    exact ⟨⟨arguments, hcut, hrest⟩, hb⟩
  · rintro ⟨⟨arguments, hcut, hrest⟩, hb⟩
    exact ⟨arguments, ⟨hcut, hb⟩, hrest⟩

/-- Trimming changes what is read exactly if that has a blank return type. -/
theorem parse?_ne_trim_iff_blank :
    parse? t ≠ parse? (trim t) ↔ ∃ s, parse? t = some s ∧ Blank s.returnType := by
  constructor
  · intro hne
    by_contra hnone
    refine hne (Option.ext fun s => ?_)
    rw [parse?_trim_eq_some_iff]
    exact ⟨fun h => ⟨h, fun hb => hnone ⟨s, h, hb⟩⟩, And.left⟩
  · rintro ⟨s, hs, hb⟩ heq
    exact (parse?_trim_eq_some_iff.mp (heq ▸ hs)).2 hb

/-- **When trimming changes what is read**: without white space the text does not follow the
grammar, and with it some of this white space makes up a return type. -/
theorem parse?_ne_trim_iff : parse? t ≠ parse? (trim t) ↔
    (∀ q : Parts, q.Follows → q.text ≠ trim t) ∧
      ∃ p : Parts, p.Follows ∧ p.text = t ∧ Blank p.returnType ∧
        (Blank p.arguments ∨ [] ∉ segments p.arguments) := by
  rw [parse?_ne_trim_iff_blank, ← split?_eq_none_iff]
  constructor
  · rintro ⟨s, hs, hb⟩
    obtain ⟨arguments, hcut, hps, -⟩ := parse?_eq_some_iff.mp hs
    obtain ⟨hnone, p, hp, htext, hpb, rfl⟩ := exists_split?_blank_iff.mp ⟨_, hcut, hb, rfl⟩
    have harguments := nil_not_mem_argumentTexts_iff.mp (parameters?_eq_some_iff.mp hps).1
    exact ⟨hnone, p, hp, htext, hpb, harguments⟩
  · rintro ⟨hnone, p, hp, htext, hb, harguments⟩
    obtain ⟨cut, hcut, hcb, hsame⟩ := exists_split?_blank_iff.mpr ⟨hnone, p, hp, htext, hb, rfl⟩
    rw [← hsame, ← nil_not_mem_argumentTexts_iff] at harguments
    have hps := parameters?_eq_some_iff.mpr ⟨harguments, rfl⟩
    exact ⟨⟨cut.returnType, cut.name, _, []⟩,
      parse?_eq_some_iff.mpr ⟨cut.arguments, hcut, hps, rfl⟩, hcb⟩

/-- White space in front of a declaration that follows the grammar when trimmed does not matter. -/
theorem parse?_blank_append (hb : Blank b) (h : ∃ q : Parts, q.Follows ∧ q.text = trim t) :
    parse? (b ++ t) = parse? t := by
  obtain ⟨q, hq, hqt⟩ := h
  have htrim : trim (b ++ t) = trim t := by rw [trim, trimFront_append hb, ← trim]
  have hsame : ∀ u : Text, trim u = trim t → parse? u = parse? (trim t) := by
    intro u hu
    by_contra hne
    rw [← hu] at hne
    exact (parse?_ne_trim_iff.mp hne).1 q hq (hqt.trans hu.symm)
  rw [hsame _ htrim, hsame t rfl]

/-! ## Written forms -/

theorem trimmed_key_iff (hs : parse? t = some s) : Trimmed s.key ↔ ¬ Blank s.returnType := by
  obtain ⟨p, hp, hreturn, -⟩ := exists_chosen hs
  have hne : s.returnType ≠ [] := hreturn ▸ hp.follows.returnType_ne
  have hhead : s.key.head? = s.returnType.head? := by
    rw [key_eq, List.head?_append_of_ne_nil _ hne]
  constructor
  · intro htrim hb
    obtain ⟨c, rest, hc⟩ := List.exists_cons_of_ne_nil hne
    have hfront := htrim.front c (by rw [hhead, hc]; rfl)
    rw [hb c (hc ▸ List.mem_cons_self)] at hfront
    cases hfront
  · intro hb
    refine ⟨fun c hc => ?_, fun c hc => ?_⟩
    · rw [hhead, ← hreturn] at hc
      exact hp.front_returnType (hreturn ▸ hb) hc
    · rw [getLast?_key] at hc
      cases hc
      decide

end PrimitiveSearch.Signature

namespace PrimitiveSearch.Catalogue

open Text Declaration

variable {note declaration description b : Text}

/-! ## Notes -/

theorem mark_not_infix_blank_append (hb : Blank b) (h : ¬ descriptionMark <:+: note) :
    ¬ descriptionMark <:+: b ++ note := by
  induction b with
  | nil => exact h
  | cons c b ih =>
    rw [List.cons_append, List.infix_cons_iff, not_or]
    refine ⟨fun hprefix => ?_, ih fun x hx => hb x (List.mem_cons_of_mem c hx)⟩
    have hc := hb c List.mem_cons_self
    rw [← (List.cons_prefix_cons.mp hprefix).1] at hc
    exact absurd hc (by decide)

/-- White space in front of a note stands in front of its declaration. -/
theorem IsCut.blank_append (hb : Blank b) (h : IsCut note declaration description) :
    IsCut (b ++ note) (b ++ declaration) description := by
  cases h with
  | marked last =>
    rw [← List.append_assoc]
    exact .marked last
  | unmarked absent => exact .unmarked (mark_not_infix_blank_append hb absent)

/-- **White space around a declaration.**  Trimming changes what is read exactly if the trimmed
text does not follow the grammar, while the text itself does with some of its white space for the
return type and no argument is empty.  Nothing but such a reading is lost, and nothing is gained.

For a line of a source on which the declaration stands, an entry read from it can be asked for by a
trimmed line exactly if the trimmed declaration can be read.  When the trimmed declaration follows
the grammar, the line gives the same entry with any white space behind the sentinel. -/
theorem declaration_spacing (t : Text) :
    (Signature.parse? t ≠ Signature.parse? (trim t) ↔
      (∀ q : Parts, q.Follows → q.text ≠ trim t) ∧
        ∃ p : Parts, p.Follows ∧ p.text = t ∧ Blank p.returnType ∧
          (Blank p.arguments ∨ [] ∉ segments p.arguments)) ∧
    (∀ s, Signature.parse? (trim t) = some s ↔
      Signature.parse? t = some s ∧ ¬ Blank s.returnType) ∧
    ∀ line note description, trim line = sentinel ++ note → IsCut note t description →
      (∀ e, lineEntry? line = some e →
        ((∃ response, trim response = e.key) ↔ Signature.parse? (trim t) ≠ none)) ∧
      ((∃ q : Parts, q.Follows ∧ q.text = trim t) → ∀ b line', Blank b →
        trim line' = sentinel ++ (b ++ note) → lineEntry? line' = lineEntry? line) := by
  refine ⟨Signature.parse?_ne_trim_iff, fun s => Signature.parse?_trim_eq_some_iff,
    fun line note description hline hcut => ⟨fun e he => ?_, fun hq b line' hb hline' => ?_⟩⟩
  · rw [lineEntry?_of_trim hline, entry?_of_isCut hcut] at he
    obtain ⟨s, hs, rfl⟩ := Option.map_eq_some_iff.mp he
    have hkey : (∃ response, trim response = s.key) ↔ Trimmed s.key :=
      ⟨fun ⟨response, h⟩ => h ▸ trimmed_trim response, fun h => ⟨s.key, trim_eq_self h⟩⟩
    show (∃ response, trim response = s.key) ↔ _
    rw [hkey, Signature.trimmed_key_iff hs]
    constructor
    · intro hb hnone
      rw [Signature.parse?_trim_eq_some_iff.mpr ⟨hs, hb⟩] at hnone
      cases hnone
    · intro hsome
      obtain ⟨s', hs'⟩ := Option.ne_none_iff_exists'.mp hsome
      obtain ⟨hs'', hb⟩ := Signature.parse?_trim_eq_some_iff.mp hs'
      rw [hs, Option.some.injEq] at hs''
      exact hs'' ▸ hb
  · rw [lineEntry?_of_trim hline, lineEntry?_of_trim hline', entry?_of_isCut hcut,
      entry?_of_isCut (hcut.blank_append hb), Signature.parse?_blank_append hb hq,
      trim, trimFront_append hb, ← trim]

/-- Without a return type a declaration is refused; with two spaces in front of it, it is taken up
under a written form that no trimmed line equals. -/
theorem blank_type_accepted :
    let s : Signature := ⟨" ", "foo", [⟨"int", some "a".toList⟩], []⟩
    Signature.parse? "  foo(int a);" = some s ∧
    Signature.parse? (trim "  foo(int a);") = none ∧
    (parse "///  foo(int a); // Foo").entries =
      [⟨"foo(int a); // Foo", { s with description := "Foo" }⟩] ∧
    (parse "///foo(int a); // Foo").entries = [] ∧
    s.key = "  foo(int a);".toList ∧ trim s.key ≠ s.key := by
  decide +kernel

end PrimitiveSearch.Catalogue
