import PrimitiveSearch.Proofs.Declaration.Key

/-!
# The written form without names

A declaration that is written without the names of its parameters can be read again, but a type
that then ends an argument may be taken for a type and a name.

* `typeText_ofSegment_eq_self_iff` — when an argument is read as a type only.
* `StandsAlone` — a type that is read as itself when it is all there is of an argument.
* `parameters?_typeTexts` — the arguments that are left when the names are dropped.
* `bareKey_read` — what is read from the written form without names, and when the types are kept.
-/

set_option autoImplicit false

namespace PrimitiveSearch

open Text

/-! ## Types and names in an argument -/

namespace Text

theorem mem_identifier {name : Text} {c : Char} (h : isIdentifier name = true) (hc : c ∈ name) :
    (isLetter c || isNumeric c || c == '_') = true := by
  cases name with
  | nil => cases hc
  | cons d rest =>
    obtain ⟨hd, hrest⟩ := Bool.and_eq_true_iff.mp h
    rcases List.mem_cons.mp hc with rfl | hc
    · rcases Bool.or_eq_true_iff.mp hd with hd | hd <;> simp [hd]
    · exact List.all_eq_true.mp hrest c hc

theorem not_mem_identifier {name : Text} {c : Char} (h : isIdentifier name = true)
    (hc : (isLetter c || isNumeric c || c == '_') = false) : c ∉ name := fun hmem => by
  rw [mem_identifier h hmem] at hc
  cases hc

theorem space_not_mem_identifier {name : Text} (h : isIdentifier name = true) : ' ' ∉ name :=
  not_mem_identifier h (by decide +kernel)

/-- A name opens and closes no bracket. -/
theorem depthOf_identifier {name : Text} (h : isIdentifier name = true) :
    Declaration.depthOf name = 0 := by
  refine Declaration.depthOf_eq_zero fun c hc => ?_
  have hopen : c ≠ '<' := by
    rintro rfl
    exact not_mem_identifier h (by decide +kernel) hc
  have hclose : c ≠ '>' := by
    rintro rfl
    exact not_mem_identifier h (by decide +kernel) hc
  rw [Declaration.depthChange, if_neg hopen, if_neg hclose]

end Text

namespace Parameter

variable {segment ty : Text}

/-- An identifier behind a space is taken for a name. -/
theorem ofSegment_append {name : Text} (h : isIdentifier name = true) (typeText : Text) :
    ofSegment (typeText ++ ' ' :: name) = ⟨typeText, some name⟩ := by
  have hcut : cutAtLast [' '] (typeText ++ ' ' :: name) = some (typeText, name) :=
    cutAtLast_singleton_eq_some_iff.mpr ⟨rfl, space_not_mem_identifier h⟩
  rw [ofSegment, hcut]
  exact if_pos h

/-- An argument is read as a type only, unless it ends in a space and an identifier. -/
theorem typeText_ofSegment_eq_self_iff : (ofSegment segment).typeText = segment ↔
    ∀ front name, segment = front ++ ' ' :: name → isIdentifier name = false := by
  constructor
  · rintro h front name rfl
    by_contra hname
    rw [Bool.not_eq_false] at hname
    rw [ofSegment_append hname] at h
    have hlength := congrArg List.length h
    simp only [List.length_append, List.length_cons] at hlength
    omega
  · intro h
    rcases ofSegment_cases segment with hs | ⟨typeText, name, hname, -, hsegment⟩
    · rw [hs]
    · rw [h typeText name hsegment] at hname
      cases hname

theorem typeText_isPrefix (segment : Text) : (ofSegment segment).typeText <+: segment := by
  rcases ofSegment_cases segment with hs | ⟨typeText, name, -, hs, rfl⟩
  · rw [hs]
  · rw [hs]
    exact List.prefix_append _ _

/-- Without its name an argument has the same brackets, and no comma that would cut it. -/
theorem uncut_typeText (segment : Text) :
    Declaration.depthOf (ofSegment segment).typeText = Declaration.depthOf segment ∧
      ∀ d, Declaration.Uncut d segment → Declaration.Uncut d (ofSegment segment).typeText := by
  rcases ofSegment_cases segment with hs | ⟨typeText, name, hname, hs, rfl⟩
  · rw [hs]
    exact ⟨rfl, fun _ h => h⟩
  · rw [hs]
    refine ⟨?_, fun d h => ((Declaration.uncut_append _).mp h).1⟩
    rw [Declaration.depthOf_append, Declaration.depthOf_cons, depthOf_identifier hname]
    exact (Int.add_zero _).symm

/-- An argument has something else than white space in front of its name. -/
theorem front_typeText (h : Trimmed segment) (hne : segment ≠ []) :
    (ofSegment segment).typeText ≠ [] ∧
      ∀ c, (ofSegment segment).typeText.head? = some c → isBlank c = false := by
  rcases ofSegment_cases segment with hs | ⟨typeText, name, -, hs, rfl⟩
  · rw [hs]
    exact ⟨hne, h.front⟩
  · have htype : typeText ≠ [] := by
      rintro rfl
      exact absurd (h.front ' ' rfl) (by decide)
    rw [hs]
    refine ⟨htype, fun c hc => h.front c ?_⟩
    rwa [List.head?_append_of_ne_nil _ htype]

/-- A type that is read as itself when it is an argument without a name: it does not end in white
space, and not in a space and an identifier either. -/
structure StandsAlone (ty : Text) : Prop where
  back : ∀ c, ty.getLast? = some c → isBlank c = false
  whole : ∀ front name, ty = front ++ ' ' :: name → isIdentifier name = false

theorem standsAlone_iff (hfront : ∀ c, ty.head? = some c → isBlank c = false) :
    (ofSegment (trim ty)).typeText = ty ↔ StandsAlone ty := by
  constructor
  · intro h
    have hpre : ty <+: trim ty := by
      conv => lhs; rw [← h]
      exact typeText_isPrefix (trim ty)
    have htrim : trim ty = ty :=
      (trim_isPrefix hfront).eq_of_length_le hpre.length_le
    refine ⟨?_, ?_⟩
    · rw [← htrim]
      exact (trimmed_trim ty).back
    · rw [htrim] at h
      exact typeText_ofSegment_eq_self_iff.mp h
  · intro h
    rw [trim_eq_self ⟨hfront, h.back⟩]
    exact typeText_ofSegment_eq_self_iff.mpr h.whole

/-- A type without a name stood alone before. -/
theorem standsAlone_of_nameless (h : Trimmed segment) (hname : (ofSegment segment).name = none) :
    StandsAlone (ofSegment segment).typeText := by
  rcases ofSegment_cases segment with hs | ⟨typeText, name, -, hs, -⟩
  · have hself : (ofSegment segment).typeText = segment := by rw [hs]
    rw [hself]
    exact ⟨h.back, typeText_ofSegment_eq_self_iff.mp hself⟩
  · rw [hs] at hname
    cases hname

end Parameter

/-! ## Written forms -/

namespace Signature

open Declaration

variable {t arguments : Text} {s : Signature} {ps : List Parameter}

/-- The types of parameters that were read, by the arguments they were read from. -/
theorem map_typeText_parameters? (h : parameters? arguments = some ps) :
    ps.map Parameter.typeText =
      (argumentTexts arguments).map fun a => (Parameter.ofSegment a).typeText := by
  rw [(parameters?_eq_some_iff.mp h).2, List.map_map]
  rfl

theorem exists_argumentText (h : parameters? arguments = some ps) {p : Parameter} (hp : p ∈ ps) :
    ∃ a ∈ argumentTexts arguments, a ≠ [] ∧ Trimmed a ∧ p = Parameter.ofSegment a := by
  obtain ⟨hne, rfl⟩ := parameters?_eq_some_iff.mp h
  obtain ⟨a, ha, rfl⟩ := List.mem_map.mp hp
  exact ⟨a, ha, hne a ha, trimmed_argumentTexts ha, rfl⟩

theorem front_of_mem_typeTexts (h : parameters? arguments = some ps) {ty : Text}
    (hty : ty ∈ ps.map Parameter.typeText) :
    ty ≠ [] ∧ ∀ c, ty.head? = some c → isBlank c = false := by
  obtain ⟨p, hp, rfl⟩ := List.mem_map.mp hty
  obtain ⟨a, -, hne, htrim, rfl⟩ := exists_argumentText h hp
  exact Parameter.front_typeText htrim hne

/-- A cut could leave the types, as it left the arguments. -/
theorem wellCut_typeTexts (h : parameters? arguments = some ps)
    (hne : ps.map Parameter.typeText ≠ []) : WellCut 0 (ps.map Parameter.typeText) := by
  rw [map_typeText_parameters? h] at hne ⊢
  refine (wellCut_argumentTexts fun hnil => hne ?_).map fun a _ => Parameter.uncut_typeText a
  rw [hnil]
  rfl

/-- **Types are read back** from the text that joins them, each as an argument of its own. -/
theorem parameters?_typeTexts (h : parameters? arguments = some ps) :
    parameters? (List.intercalate ", ".toList (ps.map Parameter.typeText)) =
      some ((ps.map Parameter.typeText).map fun ty => Parameter.ofSegment (trim ty)) := by
  have hblank : ∀ ty ∈ ps.map Parameter.typeText, ¬ Blank ty := by
    intro ty hty hb
    obtain ⟨hne, hfront⟩ := front_of_mem_typeTexts h hty
    obtain ⟨c, rest, rfl⟩ := List.exists_cons_of_ne_nil hne
    have hc := hfront c rfl
    rw [hb c List.mem_cons_self] at hc
    cases hc
  rw [parameters?_eq_some_iff, argumentTexts_join (wellCut_typeTexts h) hblank,
    List.map_map (f := trim)]
  refine ⟨fun a ha hnil => ?_, rfl⟩
  obtain ⟨ty, hty, rfl⟩ := List.mem_map.mp ha
  exact hblank ty hty (trim_eq_nil_iff.mp hnil)

/-- What stands between the parentheses of a written form without names. -/
def bareArguments (s : Signature) : Text := List.intercalate ", ".toList s.parameterTypes

theorem bareKey_eq (s : Signature) : s.bareKey =
    s.returnType ++ (' ' :: (s.name ++ '(' :: (s.bareArguments ++ ");".toList))) := by
  simp [bareKey, written, bareArguments]

theorem newline_not_mem_bareArguments (ht : Flush t) (h : parse? t = some s) :
    '\n' ∉ s.bareArguments := by
  obtain ⟨arguments, hcut, hps, -⟩ := parse?_eq_some_iff.mp h
  intro hc
  rcases mem_of_mem_intercalate hc with hc | ⟨ty, hty, hc⟩
  · exact absurd hc (by decide)
  · obtain ⟨p, hp, rfl⟩ := List.mem_map.mp hty
    obtain ⟨a, ha, -, -, rfl⟩ := exists_argumentText hps hp
    have hmem := (Parameter.typeText_isPrefix a).subset hc
    exact ht.inside (mem_of_mem_arguments ht hcut (mem_of_mem_argumentTexts ha hmem))

/-- **The written form without names is read again.**  Return type and name are kept, and each slot
gets what its type is read as when it is an argument of its own.  So all types are kept exactly if
each of them stands alone, as those without a name always do. -/
theorem bareKey_read (ht : Flush t) (h : parse? t = some s) : ∃ s', parse? s.bareKey = some s' ∧
    s'.returnType = s.returnType ∧ s'.name = s.name ∧
    s'.parameters = s.parameterTypes.map (fun ty => Parameter.ofSegment (trim ty)) ∧
    (s'.parameterTypes = s.parameterTypes ↔
      ∀ ty ∈ s.parameterTypes, Parameter.StandsAlone ty) ∧
    ∀ p ∈ s.parameters, p.name = none → Parameter.StandsAlone p.typeText := by
  obtain ⟨arguments, hcut, hps, hd⟩ := parse?_eq_some_iff.mp h
  refine ⟨⟨s.returnType, s.name, _, []⟩, ?_, rfl, rfl, rfl, ?_, fun p hp hname => ?_⟩
  · rw [parse?_eq_some_iff, bareKey_eq]
    exact ⟨s.bareArguments, split?_respaced ht (newline_not_mem_bareArguments ht h) hcut,
      parameters?_typeTexts hps, rfl⟩
  · have hkept : ∀ ty ∈ s.parameterTypes,
        ((Parameter.ofSegment (trim ty)).typeText = ty ↔ Parameter.StandsAlone ty) :=
      fun ty hty => Parameter.standsAlone_iff (front_of_mem_typeTexts hps hty).2
    rw [parameterTypes, List.map_map]
    conv => lhs; rhs; rw [← List.map_id s.parameterTypes]
    rw [List.map_inj_left]
    exact forall₂_congr hkept
  · obtain ⟨a, -, -, htrim, rfl⟩ := exists_argumentText hps hp
    exact Parameter.standsAlone_of_nameless htrim hname

/-- A comma inside brackets, a second word that is taken for a name, and a name. -/
theorem bareKey_read_pair :
    let t : Text := "int foo(std::pair<int, int>, unsigned long, bool flag);"
    let s : Signature := ⟨"int", "foo", [⟨"std::pair<int, int>", none⟩,
      ⟨"unsigned", some "long".toList⟩, ⟨"bool", some "flag".toList⟩], []⟩
    Flush t ∧ parse? t = some s ∧
      ∃ s', parse? s.bareKey = some s' ∧ s'.parameterTypes = s.parameterTypes := by
  intro t s
  have ht : Flush t := ⟨by decide, not_blank_of_all (by decide)⟩
  have hs : parse? t = some s := by decide +kernel
  obtain ⟨s', hs', -, -, hps, -⟩ := bareKey_read ht hs
  refine ⟨ht, hs, s', hs', ?_⟩
  rw [parameterTypes, hps]
  decide +kernel

/-- A type of two words is taken for a type and a name when its own name is dropped. -/
theorem bareKey_takes_name :
    let t : Text := "int foo(unsigned long x);"
    ∃ s s', Flush t ∧ parse? t = some s ∧ parse? s.bareKey = some s' ∧
      s.parameterTypes = ["unsigned long".toList] ∧ s'.parameterTypes = ["unsigned".toList] := by
  refine ⟨⟨"int", "foo", [⟨"unsigned long", some "x".toList⟩], []⟩,
    ⟨"int", "foo", [⟨"unsigned", some "long".toList⟩], []⟩,
    ⟨by decide, not_blank_of_all (by decide)⟩, ?_⟩
  decide +kernel

end Signature

end PrimitiveSearch
