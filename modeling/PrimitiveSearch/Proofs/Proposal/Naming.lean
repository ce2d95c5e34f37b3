import PrimitiveSearch.Proofs.Proposal.Issues

/-!
# Names and what they claim to specialise

A wrapper of `base` is named `base_suffix`, and its base is read back up to the first underscore.

* `baseName?_eq` — the base that is read from a name.
* `issues_of_single` — the issues of a proposal whose body calls one primitive once.
* `issues_of_conforming` — a proposal that keeps to the naming convention and calls its base only
  has no issues exactly if the name of the base has no underscore.
* `underscored_base_refused` — a conforming proposal that is found out of shape.
-/

set_option autoImplicit false

namespace PrimitiveSearch.Proposal

open Text

variable {p : Proposal} {c : Catalogue} {base suffix front rest other : Text} {place : Nat}

/-- The base in a name reaches up to the first underscore; there is none if nothing stands in front
of it. -/
theorem baseName?_eq (hname : p.signature.name = front ++ '_' :: rest) (hfront : '_' ∉ front)
    (hrest : rest ≠ []) : p.baseName? = if front = [] then none else some front := by
  rw [baseName?, cutAtFirst_eq_some_iff.mpr ⟨hname, hfront⟩, Option.bind_some]
  by_cases h : front = [] <;> simp [h, hrest]

theorem issues_of_single (h : p.primitiveCalls c = [other]) : p.issues c =
    match p.baseName? with
    | none => [.missingSuffix]
    | some base =>
      if c.hasName base then if other = base then [] else [.baseNotCalled base other]
      else [.unknownBase base] := by
  rw [issues, nameIssues, callIssues, h]
  cases p.baseName? with
  | none => rfl
  | some base => by_cases hname : c.hasName base = true <;> simp [Option.filter, hname]

/-- A body that calls one primitive once does so at some place. -/
theorem exists_place (h : p.primitiveCalls c = [other]) :
    ∃ place, Lists (p.PrimitiveCallAt c) [(place, other)] := by
  obtain ⟨sites, hsites, hcalls⟩ := exists_primitiveSites p c
  rw [h] at hcalls
  obtain ⟨⟨place, name⟩, rfl, rfl⟩ := List.map_eq_singleton_iff.mp hcalls
  exact ⟨place, hsites⟩

theorem primitiveCalls_of_lists (h : Lists (p.PrimitiveCallAt c) [(place, other)]) :
    p.primitiveCalls c = [other] := by
  obtain ⟨sites, hsites, hcalls⟩ := exists_primitiveSites p c
  rw [← hcalls, hsites.eq h]
  rfl

/-- **Conforming proposals.**  Let a proposal be named after a primitive and a suffix, and let its
body call this primitive at one place and no primitive anywhere else.  It has no issues exactly if
the name of the primitive has no underscore.  Otherwise only what stands in front of the first
underscore is taken for the base. -/
theorem issues_of_conforming (hname : p.signature.name = base ++ '_' :: suffix)
    (hsuffix : suffix ≠ []) (hcalls : Lists (p.PrimitiveCallAt c) [(place, base)]) :
    (p.issues c = [] ↔ '_' ∉ base) ∧
    ∀ front rest, base = front ++ '_' :: rest → '_' ∉ front → p.issues c =
      if front = [] then [.missingSuffix]
      else if c.hasName front then [.baseNotCalled front base] else [.unknownBase front] := by
  have hissues := issues_of_single (primitiveCalls_of_lists hcalls)
  obtain ⟨⟨_, _, _, _, _, _, hbase, _⟩, hoffers⟩ := (hcalls.exact place base).mp (by simp)
  have hcut : ∀ front rest, base = front ++ '_' :: rest → '_' ∉ front → p.issues c =
      if front = [] then [.missingSuffix]
      else if c.hasName front then [.baseNotCalled front base] else [.unknownBase front] := by
    rintro front rest rfl hfront
    rw [List.append_assoc, List.cons_append] at hname
    rw [hissues, baseName?_eq hname hfront (by simp)]
    by_cases hnil : front = [] <;> simp [hnil]
  refine ⟨⟨fun h hmem => ?_, fun h => ?_⟩, hcut⟩
  · obtain ⟨front, rest, hsplit, hfront⟩ := List.eq_append_cons_of_mem hmem
    rw [hcut front rest hsplit hfront] at h
    split at h
    · cases h
    · split at h <;> cases h
  · rw [hissues, baseName?_eq hname h hsuffix, if_neg hbase.ne_nil]
    simp [Catalogue.hasName_iff.mpr hoffers]

/-- A suffix with an underscore, and a call of the base behind a word that is no call. -/
theorem issues_of_conforming_suffixed :
    let c := Catalogue.parse "///int foo(int arg0, bool arg1); // Foo things\n"
    let p : Proposal :=
      ⟨⟨"int", "foo_i4_b", [⟨"bool", some "arg1".toList⟩], []⟩, "return foo (4, arg1);"⟩
    p.signature.name = "foo".toList ++ '_' :: "i4_b".toList ∧
      (∃ place, Lists (p.PrimitiveCallAt c) [(place, "foo".toList)]) ∧ p.issues c = [] := by
  intro c p
  have hname : p.signature.name = "foo".toList ++ '_' :: "i4_b".toList := by decide
  have hsingle : p.primitiveCalls c = ["foo".toList] := by decide +kernel
  obtain ⟨place, hcalls⟩ := exists_place hsingle
  have hconforming := issues_of_conforming hname (by decide) hcalls
  exact ⟨hname, ⟨place, hcalls⟩, hconforming.1.mpr (by decide)⟩

/-- A primitive whose own name has an underscore: its conforming wrapper is found to specialise
something unknown. -/
theorem underscored_base_refused :
    let c := Catalogue.parse "///int flip_ud(int a); // Flip\n"
    ∃ s, Signature.parse? "int flip_ud_x(int a);" = some s ∧
      s.name = "flip_ud".toList ++ '_' :: "x".toList ∧
      let p : Proposal := ⟨s, "return flip_ud(a);"⟩
      (∃ place, Lists (p.PrimitiveCallAt c) [(place, "flip_ud".toList)]) ∧
        p.issues c = [.unknownBase "flip"] := by
  intro c
  refine ⟨⟨"int", "flip_ud_x", [⟨"int", some "a".toList⟩], []⟩, by decide +kernel, by decide,
    exists_place (by decide +kernel), ?_⟩
  decide +kernel

end PrimitiveSearch.Proposal
