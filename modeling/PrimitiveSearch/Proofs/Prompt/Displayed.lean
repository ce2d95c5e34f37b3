import PrimitiveSearch.Prompt.Text
import PrimitiveSearch.Proofs.Answer.Selection
import PrimitiveSearch.Proofs.Catalogue.Reference

/-!
# Displayed declarations and the selection

The prompt displays a declaration as it was annotated; an answer selects it by its written form.

* `Entry.displayed` — the declaration that the prompt displays for an entry.
* `exists_declaration` — it is the declaration that the entry was read from, trimmed.
* `find?_displayed` — it leads to its entry if it is the written form, and nowhere otherwise.
* `displayed_selects` — hence when an answer that repeats it selects the entry.
-/

set_option autoImplicit false

namespace PrimitiveSearch

open Text

/-- The declaration that the prompt displays for an entry: its note up to the last mark, without
white space at its ends. -/
def Entry.displayed (e : Entry) : Text := trim (Catalogue.cutNote e.note).1

namespace Catalogue

variable {source note declaration description : Text} {e : Entry} {s : Signature}

/-! ## From the note to the declaration -/

theorem IsCut.of_trim (h : IsCut note declaration description) : ∃ declaration' description',
    IsCut (trim note) declaration' description' ∧ trim declaration' = trim declaration := by
  cases h with
  | @marked _ rest hlast =>
    have hmark : Trimmed descriptionMark := by decide
    refine ⟨trimFront declaration, trim (trimBack rest), ?_, trim_trimFront declaration⟩
    rw [trim_append_append declaration hmark descriptionMark_ne_nil rest]
    refine .marked fun h => hlast (h.trans ?_)
    exact (List.cons_prefix_cons.mpr ⟨rfl, trimBack_isPrefix rest⟩).isInfix
  | unmarked habsent =>
    obtain ⟨a, b, -, -, hnote⟩ := exists_trim note
    refine ⟨trim note, [], .unmarked fun h => habsent (h.trans ⟨a, b, ?_⟩), trim_eq_self ?_⟩
    · rw [List.append_assoc]
      exact hnote.symm
    · exact trimmed_trim note

theorem exists_declaration (he : e ∈ (parse source).entries) : ∃ declaration description s,
    '\n' ∉ declaration ∧ Signature.parse? declaration = some s ∧
      e.signature = { s with description := description } ∧ e.displayed = trim declaration := by
  obtain ⟨line, hline, note, declaration, description, s, htrim, hcut, hs, rfl⟩ := exists_line he
  obtain ⟨declaration', description', hcut', hsame⟩ := hcut.of_trim
  refine ⟨declaration, description, s, ?_, hs, rfl, ?_⟩
  · exact newline_not_mem_declaration (newline_not_mem_lines hline) htrim hcut
  · rw [Entry.displayed, cutNote_eq_iff.mpr hcut']
    exact hsame

/-! ## From the displayed declaration to the entry -/

/-- Two declarations with one written form of which one is that form, trimmed, are read alike. -/
theorem signature_of_displayed {declaration' : Text} {s' : Signature}
    (hs : Signature.parse? declaration = some s) (hnew : '\n' ∉ declaration')
    (hs' : Signature.parse? declaration' = some s') (hkey : s'.key = trim declaration) :
    s = s' := by
  have hfront : ∀ c, s'.returnType.head? = some c → isBlank c = false := by
    intro c hc
    have hne : s'.returnType ≠ [] := by
      rintro h
      rw [h] at hc
      cases hc
    apply (trimmed_trim declaration).front
    rwa [← hkey, Signature.key_eq, List.head?_append_of_ne_nil _ hne]
  have hread := Signature.parse?_key (Declaration.flush_trim hnew) (Signature.parse?_trim hs' hfront)
  rw [hkey] at hread
  have hread' := Signature.parse?_of_trim hread
  rw [hs] at hread'
  exact Option.some.inj hread'

/-- A displayed declaration leads to its entry if it is the written form, and nowhere otherwise. -/
theorem find?_displayed (he : e ∈ (parse source).entries) : (parse source).find? e.displayed =
    if e.displayed = e.key then some e.signature else none := by
  by_cases hsame : e.displayed = e.key
  · rw [if_pos hsame, hsame, find?_key he]
  · rw [if_neg hsame, Option.eq_none_iff_forall_ne_some]
    intro found hfound
    obtain ⟨e', he', hkey, rfl⟩ := find?_eq_some_iff.mp hfound
    obtain ⟨declaration, description, s, -, hs, hsignature, hdisplayed⟩ := exists_declaration he
    obtain ⟨declaration', description', s', hnew, hs', hsignature', -⟩ := exists_declaration he'
    have hkey' : e'.key = s'.key := by
      rw [Entry.key, hsignature']
      rfl
    have heq := signature_of_displayed hs hnew hs' (by rw [← hkey', hkey, hdisplayed])
    apply hsame
    rw [← hkey, hkey', ← heq, Entry.key, hsignature]
    rfl

theorem note_mem_opening {c : Catalogue} (he : e ∈ c.entries) (task : Task) :
    e.note ∈ Prompt.opening task c := by
  simp only [Prompt.opening, List.mem_append, List.mem_map]
  exact .inl (.inr ⟨e, he, rfl⟩)

/-- **A displayed declaration selects its entry exactly if it is spelled as the written form.**
The prompt displays every entry's declaration.  An answer that repeats it in the section that
selects has the entry selected if it is the written form.  In any other spelling it leads to no
entry, and only the written form on a line of its own selects the entry. -/
theorem displayed_selects (he : e ∈ (parse source).entries) :
    (∀ task, e.note ∈ Prompt.opening task (parse source)) ∧
    (∀ text a, Answer.parse (parse source) text = .ok a →
      (e.displayed = e.key → Answer.InSelection text e.displayed → e.signature ∈ a.selected) ∧
      (e.signature ∈ a.selected ↔ Answer.InSelection text e.key)) ∧
    (e.displayed ≠ e.key → (parse source).find? e.displayed = none) := by
  refine ⟨note_mem_opening he, fun text a ha => ?_, fun hne => ?_⟩
  · have hiff := Answer.mem_selected_iff ha he
    exact ⟨fun hsame hline => hiff.mpr (hsame ▸ hline), hiff⟩
  · rw [find?_displayed he, if_neg hne]

/-- Two displayed declarations in one answer, of which the second has a blank too many. -/
theorem displayed_selects_respaced :
    let c := parse "///int foo(int a); // Foo\n///int  bar(int a); // Bar"
    let t : Text := "SELECTED_PRIMITIVES:\nint foo(int a);\nint  bar(int a);\n" ++
      "PARTIAL_PARAMETERIZATIONS:\nDEPTH_LEVEL: 1"
    let foo : Signature := ⟨"int", "foo", [⟨"int", some "a".toList⟩], "Foo"⟩
    let bar : Signature := ⟨"int", "bar", [⟨"int", some "a".toList⟩], "Bar"⟩
    Answer.parse c t = .ok ⟨[foo], [], 1⟩ ∧ foo ∈ [foo] ∧
      c.find? "int  bar(int a);" = none ∧ ¬ Answer.InSelection t bar.key := by
  intro c t foo bar
  have hfoo : (⟨"int foo(int a); // Foo", foo⟩ : Entry) ∈ c.entries := by decide +kernel
  have hbar : (⟨"int  bar(int a); // Bar", bar⟩ : Entry) ∈ c.entries := by decide +kernel
  have ha : Answer.parse c t = .ok ⟨[foo], [], 1⟩ := Answer.eq_ok_of_toOption (by decide +kernel)
  have hline : Answer.InSelection t foo.key :=
    ⟨[], ["int foo(int a);".toList, "int  bar(int a);".toList], ["DEPTH_LEVEL: 1".toList],
      by decide +kernel, by decide +kernel, by decide +kernel, by decide +kernel⟩
  obtain ⟨-, hselects, -⟩ := displayed_selects hfoo
  obtain ⟨-, hother, hmiss⟩ := displayed_selects hbar
  refine ⟨ha, (hselects t _ ha).1 (by decide +kernel) hline, hmiss (by decide +kernel), ?_⟩
  exact fun h => absurd ((hother t _ ha).2.mpr h) (by decide +kernel)

/-- Not every displayed declaration selects its entry. -/
theorem displayed_not_selected :
    let c := parse "///int  foo(int a); // Foo"
    let t : Text := "SELECTED_PRIMITIVES:\nint  foo(int a);\n" ++
      "PARTIAL_PARAMETERIZATIONS:\nDEPTH_LEVEL: 1"
    ∃ e ∈ c.entries, ∃ a, Answer.parse c t = .ok a ∧ Answer.InSelection t e.displayed ∧
      e.signature ∉ a.selected := by
  intro c t
  refine ⟨⟨"int  foo(int a); // Foo", "int", "foo", [⟨"int", some "a".toList⟩], "Foo"⟩,
    by decide +kernel, ⟨[], [], 1⟩, Answer.eq_ok_of_toOption (by decide +kernel), ?_,
    List.not_mem_nil⟩
  exact ⟨[], ["int  foo(int a);".toList], ["DEPTH_LEVEL: 1".toList], by decide +kernel,
    by decide +kernel, by decide +kernel, by decide +kernel⟩

end Catalogue

end PrimitiveSearch
