import PrimitiveSearch.EngineModule.Registration
import PrimitiveSearch.Proofs.Catalogue.Reference
import PrimitiveSearch.Proofs.Declaration.Bare
import PrimitiveSearch.Proofs.Declaration.Joining

/-!
# Registrations read back

The engine source has two lines for each registration.  The first declares a neuron for the
function that the header brings in under the name of the primitive, and tells the tags of its
slots; the second adds this neuron.

* `registeredName?` — the name that two lines register, if they agree on it.
* `registration?` — the tags as well.
* `Legible` — types that can be told apart where their tags are listed; those of a primitive on
  offer can unless one of them holds a brace (`legible_of_mem_signatures`).
* `registeredName?_lines`, `registration?_lines` — what the lines of a registration register.
-/

set_option autoImplicit false

namespace PrimitiveSearch.EngineModule

open Text Declaration

variable {r : Registration} {s : Signature} {types : List Text}

/-! ## Readers -/

/-- What stands before a mark at the end of a text. -/
def before? (mark t : Text) : Option Text := (after? mark.reverse t.reverse).map List.reverse

/-- The type that a tag tells of. -/
def tag? (t : Text) : Option TypeTag :=
  ((after? "typeid(" t).bind (beforeLast? ')')).map TypeTag.mk

/-- The name of the primitive whose neuron a line adds. -/
def addedName? (adding : Text) : Option Text :=
  (after? "    neurons.emplace_back(" adding).bind (before? "_neuron);")

/-- How a line begins that declares the neuron of a primitive.  The neuron, the name that the
engine is told and the function that is called all go by the name of the primitive. -/
def opening (name : Text) : Text :=
  "    Neuron " ++ name ++ "_neuron\x7b\"" ++ name ++ "\", fulls::" ++ name ++ ", \x7b"

/-- What a line that declares the neuron of a primitive tells of its slots. -/
def slots? (name declaring : Text) : Option Text := after? (opening name) declaring

/-- The name that two lines register. -/
def registeredName? (lines : Text × Text) : Option Text :=
  (addedName? lines.2).filter fun name => (slots? name lines.1).isSome

/-- The registration that two lines make. -/
def registration? (lines : Text × Text) : Option Registration := do
  let name ← addedName? lines.2
  let slots ← slots? name lines.1
  let (inputs, output) ← cutAtFirst ['\x7d'] slots
  let inputs ← (segments inputs).mapM tag?
  let output ← ((after? ", " output).bind (before? "\x7d;")).bind tag?
  return ⟨name, inputs, output⟩

@[simp] theorem before?_append (t mark : Text) : before? mark (t ++ mark) = some t := by
  rw [before?, List.reverse_append, after?_append, Option.map_some, List.reverse_reverse]

theorem expression_eq (tag : TypeTag) :
    tag.expression = "typeid(".toList ++ (tag.typeText ++ [')']) := List.append_assoc _ _ _

@[simp] theorem tag?_expression (tag : TypeTag) : tag? tag.expression = some tag := by
  rw [tag?, expression_eq, after?_append, Option.bind_some, beforeLast?_append, Option.map_some]

theorem mapM_tag? (tags : List TypeTag) :
    (tags.map TypeTag.expression).mapM tag? = some tags := by
  induction tags with
  | nil => rfl
  | cons tag tags ih => simp [ih]

/-! ## Lists of tags -/

/-- Types that can be told apart in a list of their tags. -/
structure Legible (types : List Text) : Prop where
  sheltered : ∀ ty ∈ types, Sheltered ty
  closed : ∀ ty ∈ types.dropLast, ty.count '<' = ty.count '>'
  /-- A brace would end the list. -/
  braceless : ∀ ty ∈ types, '\x7d' ∉ ty

theorem Legible.wellCut (h : Legible types) (hne : types ≠ []) : WellCut 0 types :=
  wellCut_zero_iff.mpr ⟨hne, fun ty hty => uncut_zero_iff.mpr (h.sheltered ty hty),
    fun ty hty => depthOf_eq_zero_iff.mpr (h.closed ty hty)⟩

theorem legible_of_parse? {t : Text} (h : Signature.parse? t = some s)
    (hbraceless : ∀ ty ∈ s.parameterTypes, '\x7d' ∉ ty) : Legible s.parameterTypes := by
  obtain ⟨arguments, -, hps, -⟩ := Signature.parse?_eq_some_iff.mp h
  by_cases hne : s.parameterTypes = []
  · rw [hne]
    exact ⟨by simp, by simp, by simp⟩
  · obtain ⟨-, huncut, hlevel⟩ := wellCut_zero_iff.mp (Signature.wellCut_typeTexts hps hne)
    exact ⟨fun ty hty => uncut_zero_iff.mp (huncut ty hty),
      fun ty hty => depthOf_eq_zero_iff.mp (hlevel ty hty), hbraceless⟩

theorem legible_of_mem_signatures {source : Text} (h : s ∈ (Catalogue.parse source).signatures)
    (hbraceless : ∀ ty ∈ s.parameterTypes, '\x7d' ∉ ty) : Legible s.parameterTypes := by
  obtain ⟨e, he, rfl⟩ := List.mem_map.mp h
  obtain ⟨line, -, note, declaration, description, s, -, -, hparse, rfl⟩ :=
    Catalogue.exists_line he
  exact legible_of_parse? (s := s) hparse hbraceless

/-- A tag is as deep as its type, and its type is sheltered in it. -/
theorem uncut_expression (tag : TypeTag) : depthOf tag.expression = depthOf tag.typeText ∧
    ∀ d, Uncut d tag.typeText → Uncut d tag.expression := by
  have hfront : depthOf "typeid(".toList = 0 := by decide
  have hback : depthOf [')'] = 0 := by decide
  constructor
  · rw [expression_eq, depthOf_append, depthOf_append, hfront, hback]
    omega
  · intro d h
    rw [expression_eq, uncut_append, uncut_append, hfront, Int.add_zero]
    exact ⟨by simp [Uncut], h, by simp [Uncut]⟩

theorem trimmed_expression (tag : TypeTag) : Trimmed tag.expression := by
  constructor
  · rw [expression_eq]
    rintro c ⟨⟩
    decide
  · rw [expression_eq, ← List.append_assoc, List.getLast?_concat]
    rintro c ⟨⟩
    decide

theorem segments_expressions {tags : List TypeTag} (h : Legible (tags.map TypeTag.typeText)) :
    segments (List.intercalate ", ".toList (tags.map TypeTag.expression)) =
      tags.map TypeTag.expression := by
  by_cases hnil : tags = []
  · subst hnil
    rfl
  · have htypes := h.wellCut (by simpa using hnil)
    have hcut : WellCut 0 (tags.map TypeTag.expression) := by
      have hmap : tags.map TypeTag.expression =
          (tags.map TypeTag.typeText).map fun ty => (TypeTag.mk ty).expression := by
        rw [List.map_map]
        rfl
      rw [hmap]
      exact htypes.map fun ty _ => uncut_expression ⟨ty⟩
    rw [segments_join hcut]
    · refine (List.map_congr_left fun e he => ?_).trans (List.map_id _)
      obtain ⟨tag, -, rfl⟩ := List.mem_map.mp he
      exact trim_eq_self (trimmed_expression tag)
    · intro e he
      obtain ⟨tag, -, rfl⟩ := List.mem_map.mp he
      simp [expression_eq]

theorem brace_not_mem_expressions {tags : List TypeTag}
    (h : Legible (tags.map TypeTag.typeText)) :
    '\x7d' ∉ List.intercalate ", ".toList (tags.map TypeTag.expression) := by
  intro hc
  rcases mem_of_mem_intercalate hc with hc | ⟨e, he, hc⟩
  · exact absurd hc (by decide)
  · obtain ⟨tag, htag, rfl⟩ := List.mem_map.mp he
    rw [expression_eq, List.mem_append, List.mem_append] at hc
    rcases hc with hc | hc | hc
    · exact absurd hc (by decide)
    · exact h.braceless _ (List.mem_map_of_mem htag) hc
    · exact absurd hc (by decide)

/-! ## The lines of registrations -/

/-- The lines of a registration. -/
def linesOf (r : Registration) : Text × Text := (r.declaration, r.addition)

@[simp] theorem addedName?_addition (r : Registration) : addedName? r.addition = some r.name := by
  have haddition : r.addition = "    neurons.emplace_back(".toList ++ (r.name ++ "_neuron);") :=
    List.append_assoc _ _ _
  rw [addedName?, haddition, after?_append, Option.bind_some, before?_append]

theorem slots?_declaration (r : Registration) : slots? r.name r.declaration =
    some (List.intercalate ", ".toList (r.inputs.map TypeTag.expression) ++
      '\x7d' :: (", " ++ (r.output.expression ++ "\x7d;"))) := by
  have hline : r.declaration = opening r.name ++
      List.intercalate ", ".toList (r.inputs.map TypeTag.expression) ++ "\x7d, ".toList ++
        r.output.expression ++ "\x7d;".toList := rfl
  rw [slots?, after?_eq_some_iff, hline]
  simp only [List.append_assoc]
  rfl

/-- Both lines of a registration agree on its name. -/
@[simp] theorem registeredName?_lines (r : Registration) :
    registeredName? (linesOf r) = some r.name := by
  rw [linesOf, registeredName?, addedName?_addition, Option.filter_some, slots?_declaration]
  rfl

/-- **A registration is read back** from its two lines. -/
theorem registration?_lines (h : Legible (r.inputs.map TypeTag.typeText)) :
    registration? (linesOf r) = some r := by
  have hcut := cutAtFirst_eq_some_iff.mpr
    ⟨(rfl : _ = List.intercalate ", ".toList (r.inputs.map TypeTag.expression) ++
      '\x7d' :: (", " ++ (r.output.expression ++ "\x7d;"))), brace_not_mem_expressions h⟩
  have houtput : ((after? ", " (", " ++ (r.output.expression ++ "\x7d;"))).bind
      (before? "\x7d;")).bind tag? = some r.output := by
    rw [after?_append, Option.bind_some, before?_append, Option.bind_some, tag?_expression]
  simp only [linesOf, registration?, addedName?_addition, slots?_declaration, hcut,
    segments_expressions h, mapM_tag?, houtput, Option.bind_eq_bind, Option.bind_some,
    Option.pure_def]

/-- Pairs of lines one after another. -/
def flat (pairs : List (Text × Text)) : List Text := pairs.flatMap fun p => [p.1, p.2]

/-- Two lines for each registration are the text of all of them. -/
theorem ofLines_registrations (registrations : List Registration) :
    ofLines (flat (registrations.map linesOf)) = registrations.flatMap Registration.text := by
  induction registrations with
  | nil => rfl
  | cons r rest ih =>
    have hflat : flat ((r :: rest).map linesOf) =
        [r.declaration, r.addition] ++ flat (rest.map linesOf) := rfl
    rw [hflat, ofLines_append, ih, List.flatMap_cons]
    simp [Registration.text]

end PrimitiveSearch.EngineModule
