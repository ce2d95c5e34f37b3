import PrimitiveSearch.EngineModule.Render
import PrimitiveSearch.Proofs.EngineModule.Registered
import PrimitiveSearch.Proofs.Text.Mention

/-!
# Header and engine source agree

The header brings in the selected primitives by name, and the engine source registers them.  Both
are written from the same list, in which overloads and repetitions may stand.

* `isFirsts_firstOfName` — of each name the first signature is taken.
* `importedName?`, `declaredHead?` — what a line of a header brings in, or declares.
* `lines_eq` — a header around its wrappers and the names that it brings in; `imported_lines` and
  `declared_lines` read both off again.
* `Coherent` — how the parts of a module hang together: the registrations are read back from the
  engine source, and their names from the header.  `render_coherent`.
-/

set_option autoImplicit false

namespace PrimitiveSearch.EngineModule

open Text

variable {f : Frame} {c : Catalogue} {offered signatures : List Signature} {selected : List Text}
  {s : Signature}

/-! ## The signatures that count -/

/-- One more signature is taken if its name is new. -/
theorem firstOfNameFrom_concat (taken : List Text) (signatures : List Signature) (s : Signature) :
    firstOfNameFrom taken (signatures ++ [s]) = firstOfNameFrom taken signatures ++
      if s.name ∈ taken ∨ s.name ∈ signatures.map Signature.name then [] else [s] := by
  induction signatures generalizing taken with
  | nil => by_cases h : s.name ∈ taken <;> simp [firstOfNameFrom, h]
  | cons x rest ih =>
    rw [List.cons_append, firstOfNameFrom, firstOfNameFrom]
    by_cases hx : x.name ∈ taken
    · have htaken : s.name = x.name → s.name ∈ taken := fun h => h ▸ hx
      have hmem : (s.name ∈ taken ∨ s.name ∈ rest.map Signature.name) ↔
          (s.name ∈ taken ∨ s.name ∈ (x :: rest).map Signature.name) := by
        rw [List.map_cons, List.mem_cons, ← or_assoc, or_iff_left_of_imp htaken]
      rw [if_pos hx, if_pos hx, ih, if_congr hmem rfl rfl]
    · have hmem : (s.name ∈ x.name :: taken ∨ s.name ∈ rest.map Signature.name) ↔
          (s.name ∈ taken ∨ s.name ∈ (x :: rest).map Signature.name) := by
        rw [List.map_cons, List.mem_cons, List.mem_cons, or_comm (a := s.name = x.name), or_assoc]
      rw [if_neg hx, if_neg hx, ih, if_congr hmem rfl rfl, List.cons_append]

theorem isFirsts_firstOfName (signatures : List Signature) :
    IsFirsts Signature.name signatures (firstOfName signatures) := by
  induction signatures using List.reverseRecOn with
  | nil => exact isFirsts_nil _
  | append_singleton signatures s ih =>
    rw [firstOfName, firstOfNameFrom_concat]
    by_cases hname : s.name ∈ signatures.map Signature.name
    · rw [if_pos (.inr hname), List.append_nil]
      exact ih.skip hname
    · rw [if_neg (by simpa using hname)]
      exact ih.keep hname

/-! ## The lines of a header -/

/-- What is read of a line that is indented like the content of an inner namespace. -/
def inside? (read : Text → Option Text) (line : Text) : Option Text :=
  (after? indent line).bind read

/-- The name that a line brings in. -/
def importedName? : Text → Option Text :=
  inside? fun t => (after? "using primitives::" t).bind (beforeLast? ';')

/-- What a line declares a boxed call with: its name and its parameters. -/
def declaredHead? : Text → Option Text := inside? (after? "inline std::any ")

/-- The name and the parameters of a wrapper. -/
def wrapperHead (s : Signature) : Text := s.name ++ '(' :: wrapperParameters s ++ [')']

theorem inside?_indent (read : Text → Option Text) (t : Text) :
    inside? read (indent ++ t) = read t := by
  rw [inside?, after?_append, Option.bind_some]

@[simp] theorem importedName?_usingLine (name : Text) :
    importedName? (usingLine name) = some name := by
  rw [importedName?, usingLine, List.append_assoc, List.append_assoc, inside?_indent,
    after?_append, Option.bind_some, beforeLast?_append]

theorem filterMap_imported_usings (selected : List Text) :
    (selected.map usingLine).filterMap importedName? = selected := by
  induction selected with
  | nil => rfl
  | cons name selected ih =>
    rw [List.map_cons, List.filterMap_cons_some (importedName?_usingLine name), ih]

theorem filterMap_imported_wrappers (offered : List Signature) :
    (offered.flatMap wrapper).filterMap importedName? = [] := by
  refine List.filterMap_eq_nil_iff.mpr fun line hline => ?_
  obtain ⟨s, -, hs⟩ := List.mem_flatMap.mp hline
  simp only [wrapper, List.mem_cons, List.not_mem_nil, or_false] at hs
  rcases hs with rfl | rfl | rfl | rfl | rfl <;> rfl

/-- Only the first line of a wrapper declares it. -/
theorem filterMap_declared_wrapper (s : Signature) :
    (wrapper s).filterMap declaredHead? = [wrapperHead s] := by
  have hhead : declaredHead?
      (indent ++ "inline std::any " ++ s.name ++ '(' :: wrapperParameters s ++ [')']) =
        some (wrapperHead s) := by
    simp only [List.append_assoc]
    rw [declaredHead?, inside?_indent]
    exact after?_eq_some_iff.mpr (by simp [wrapperHead])
  rw [wrapper, List.filterMap_cons_some hhead]
  rfl

theorem filterMap_declared_wrappers (offered : List Signature) :
    (offered.flatMap wrapper).filterMap declaredHead? = offered.map wrapperHead := by
  induction offered with
  | nil => rfl
  | cons s offered ih =>
    rw [List.flatMap_cons, List.filterMap_append, filterMap_declared_wrapper, ih]
    rfl

theorem filterMap_declared_usings (selected : List Text) :
    (selected.map usingLine).filterMap declaredHead? = [] := by
  rw [List.filterMap_map, List.filterMap_eq_nil_iff]
  exact fun name _ => rfl

/-! ## The header around its lists -/

/-- The lines above the wrappers. -/
def Frame.above (f : Frame) : List Text :=
  ["#ifndef ".toList ++ f.guard, "#define ".toList ++ f.guard, []] ++
  f.systemIncludes.map (fun name => "#include <".toList ++ name ++ ['>']) ++ [[]] ++
  f.localIncludes.map (fun name => "#include \"".toList ++ name ++ ['"']) ++
  [[], "namespace ".toList ++ f.scope, ['\x7b'],
    "    namespace ".toList ++ "specifics", "    \x7b".toList]

/-- The lines between the wrappers and the names that are brought in. -/
def between : List Text :=
  ["    \x7d".toList, [], "    namespace ".toList ++ "fulls", "    \x7b".toList]

/-- The lines below the names that are brought in. -/
def Frame.below (f : Frame) : List Text :=
  ["    \x7d".toList, [], "    namespace ".toList ++ "partials", "    \x7b".toList] ++
  [indent ++ "using namespace specifics;"] ++
  ["    \x7d".toList, ['\x7d'], [], "#endif // ".toList ++ f.guard]

theorem lines_eq (f : Frame) (offered : List Signature) (selected : List Text) :
    f.lines offered selected = f.above ++ (offered.flatMap wrapper ++ (between ++
      (selected.map usingLine ++ f.below))) := by
  simp only [Frame.lines, inner, Frame.above, between, Frame.below, List.append_assoc,
    List.cons_append, List.nil_append]

/-- Nothing in a header but its wrappers and the names that it brings in stands as deep, except
for the line that takes in the wrappers. -/
theorem filterMap_lines {read : Text → Option Text}
    (hread : read "using namespace specifics;" = none) (f : Frame) (offered : List Signature)
    (selected : List Text) : (f.lines offered selected).filterMap (inside? read) =
      (offered.flatMap wrapper).filterMap (inside? read) ++
        (selected.map usingLine).filterMap (inside? read) := by
  have habove : f.above.filterMap (inside? read) = [] := by
    have hsystem : ∀ name ∈ f.systemIncludes, (inside? read ∘
        fun name => "#include <".toList ++ name ++ ['>']) name = none := fun _ _ => rfl
    have hlocal : ∀ name ∈ f.localIncludes, (inside? read ∘
        fun name => "#include \"".toList ++ name ++ ['"']) name = none := fun _ _ => rfl
    simp only [Frame.above, List.filterMap_append, List.filterMap_map,
      List.filterMap_eq_nil_iff.mpr hsystem, List.filterMap_eq_nil_iff.mpr hlocal]
    rfl
  have hbetween : between.filterMap (inside? read) = [] := rfl
  have hbelow : f.below.filterMap (inside? read) = [] := by
    have hpartials : [indent ++ "using namespace specifics;"].filterMap (inside? read) = [] := by
      rw [List.filterMap_cons, inside?_indent, hread]
      rfl
    rw [Frame.below, List.filterMap_append, List.filterMap_append, hpartials]
    rfl
  rw [lines_eq]
  simp only [List.filterMap_append, habove, hbetween, hbelow, List.nil_append, List.append_nil]

/-- Every selected name is brought in once, in order. -/
theorem imported_lines (f : Frame) (offered : List Signature) (selected : List Text) :
    (f.lines offered selected).filterMap importedName? = selected := by
  rw [importedName?, filterMap_lines rfl, ← importedName?, filterMap_imported_wrappers,
    filterMap_imported_usings]
  rfl

/-- Every primitive is declared once, in order. -/
theorem declared_lines (f : Frame) (offered : List Signature) (selected : List Text) :
    (f.lines offered selected).filterMap declaredHead? = offered.map wrapperHead := by
  rw [declaredHead?, filterMap_lines rfl, ← declaredHead?, filterMap_declared_wrappers,
    filterMap_declared_usings, List.append_nil]

theorem wrappers_isInfix (f : Frame) (offered : List Signature) (selected : List Text) :
    offered.flatMap wrapper <:+: f.lines offered selected := by
  rw [lines_eq]
  exact (List.prefix_append _ _).isInfix.trans (List.suffix_append _ _).isInfix

/-! ## The module for an answer -/

/-- How the parts of a module hang together with the answer they are made for. -/
structure Coherent (c : Catalogue) (a : Answer) (t : Template) (m : EngineModule) : Prop where
  /-- Of each name the first selected signature is registered, in the order of the answer. -/
  registrations : ∃ counted, IsFirsts Signature.name a.selected counted ∧
    m.registrations = counted.map fun s =>
      { name := s.name, inputs := s.parameters.map fun p => ⟨p.typeText⟩, output := ⟨s.returnType⟩ }
  distinct : (m.registrations.map Registration.name).Nodup
  /-- The header brings in the registered names, and has one wrapper for each primitive. -/
  header : ∃ ls, m.header = ofLines ls ∧ ((∀ l ∈ ls, IsLine l) → lines m.header = ls) ∧
    ls.filterMap importedName? = m.registrations.map Registration.name ∧
    ls.filterMap declaredHead? = c.signatures.map wrapperHead ∧
    c.signatures.flatMap wrapper <:+: ls
  /-- The engine source has two lines for each registration, from which it is read back; its name
  always, and the tags of its slots where types can be told apart. -/
  engineSource : ∃ pairs, m.engineSource = t.prologue ++ ofLines (flat pairs) ++ t.epilogue ∧
    ((t.prologue = [] ∨ t.prologue.getLast? = some '\n') → (∀ l ∈ flat pairs, IsLine l) →
      lines m.engineSource = lines t.prologue ++ flat pairs ++ lines t.epilogue) ∧
    pairs.map registeredName? = m.registrations.map (fun r => some r.name) ∧
    ((∀ s ∈ a.selected, Legible s.parameterTypes) →
      pairs.map registration? = m.registrations.map some)
  /-- Proposals are checked and kept aside. -/
  deferred : m.deferred = a.proposals.map fun p => ⟨p, p.issues c⟩

theorem map_name_registrations (signatures : List Signature) :
    (signatures.map Registration.ofSignature).map Registration.name =
      signatures.map Signature.name := by
  rw [List.map_map]
  rfl

/-- What is registered can be read back if the types of all signatures can be told apart. -/
theorem legible_firstOfName (h : ∀ s ∈ signatures, Legible s.parameterTypes) :
    ∀ r ∈ (firstOfName signatures).map Registration.ofSignature,
      Legible (r.inputs.map TypeTag.typeText) := by
  intro r hr
  obtain ⟨s, hs, rfl⟩ := List.mem_map.mp hr
  have hinputs : (Registration.ofSignature s).inputs.map TypeTag.typeText = s.parameterTypes := by
    rw [Registration.ofSignature, Signature.inputTags, List.map_map]
    exact List.map_id _
  rw [hinputs]
  exact h s ((isFirsts_firstOfName signatures).subset hs)

/-- **Header and engine source agree.**  The names that the header brings in are those of the
registrations, each once, and what an answer proposes shows in neither text. -/
theorem render_coherent (f : Frame) (c : Catalogue) (a : Answer) (t : Template) :
    Coherent c a t (render f c a t) ∧ ∀ a', a'.selected = a.selected →
      (render f c a' t).header = (render f c a t).header ∧
      (render f c a' t).engineSource = (render f c a t).engineSource := by
  have hfirsts := isFirsts_firstOfName a.selected
  have hnames : (render f c a t).registrations.map Registration.name =
      (firstOfName a.selected).map Signature.name := map_name_registrations _
  have hheader : (render f c a t).header =
      ofLines (f.lines c.signatures ((firstOfName a.selected).map Signature.name)) := rfl
  have hsource : (render f c a t).engineSource = t.prologue ++
      ofLines (flat ((render f c a t).registrations.map linesOf)) ++ t.epilogue := by
    rw [ofLines_registrations]
    rfl
  constructor
  · refine ⟨⟨firstOfName a.selected, hfirsts, ?_⟩, ?_, ⟨_, hheader, hheader ▸ lines_ofLines, ?_⟩,
      ?_, rfl⟩
    · refine List.map_congr_left fun s _ => ?_
      rw [Registration.ofSignature, Signature.inputTags, Signature.parameterTypes, List.map_map]
      rfl
    · rw [hnames]
      exact hfirsts.order.nodup
    · rw [imported_lines, declared_lines, hnames]
      exact ⟨rfl, rfl, wrappers_isInfix f c.signatures _⟩
    · refine ⟨(render f c a t).registrations.map linesOf, hsource, fun hended hl => ?_, ?_,
        fun hlegible => ?_⟩
      · rw [hsource, List.append_assoc, lines_append_of_ended hended, lines_ofLines_append hl,
          List.append_assoc]
      · rw [List.map_map]
        exact List.map_congr_left fun r _ => registeredName?_lines r
      · rw [List.map_map]
        exact List.map_congr_left fun r hr =>
          registration?_lines (legible_firstOfName hlegible r hr)
  · intro a' hselected
    rw [render, render, hselected]
    exact ⟨rfl, rfl⟩

/-- Two overloads are selected with another primitive between them, and a proposal is added. -/
theorem render_coherent_overloaded :
    let c := Catalogue.parse
      "///int foo(std::pair<int, int> a, bool);\n///bool bar();\n///int foo(bool a);"
    let a : Answer := ⟨c.signatures, [], 1⟩
    let a' : Answer := ⟨c.signatures, [⟨⟨"int", "foo_1", [], []⟩, "return foo(1);"⟩], 2⟩
    let t : Template := ⟨"// prologue\n", "// epilogue\n"⟩
    let m := render .default c a t
    let engineSource : Text :=
      "// prologue\n" ++
      "    Neuron foo_neuron\x7b\"foo\", fulls::foo, " ++
      "\x7btypeid(std::pair<int, int>), typeid(bool)\x7d, typeid(int)\x7d;\n" ++
      "    neurons.emplace_back(foo_neuron);\n" ++
      "    Neuron bar_neuron\x7b\"bar\", fulls::bar, \x7b\x7d, typeid(bool)\x7d;\n" ++
      "    neurons.emplace_back(bar_neuron);\n" ++
      "// epilogue\n"
    m.registrations = [⟨"foo", [⟨"std::pair<int, int>"⟩, ⟨"bool"⟩], ⟨"int"⟩⟩,
      ⟨"bar", [], ⟨"bool"⟩⟩] ∧
      m.engineSource = engineSource ∧ Coherent c a t m ∧
      (∀ s ∈ a.selected, Legible s.parameterTypes) ∧ a'.selected = a.selected ∧
      (render .default c a' t).header = m.header ∧
      (render .default c a' t).engineSource = engineSource := by
  intro c a a' t m engineSource
  have hsource : m.engineSource = engineSource := by decide +kernel
  have hbraceless : ∀ s ∈ c.signatures, ∀ ty ∈ s.parameterTypes, '\x7d' ∉ ty := by
    decide +kernel
  obtain ⟨hcoherent, hsame⟩ := render_coherent .default c a t
  obtain ⟨hheader, hsource'⟩ := hsame a' rfl
  exact ⟨by decide +kernel, hsource, hcoherent,
    fun s hs => legible_of_mem_signatures hs (hbraceless s hs), rfl, hheader,
    hsource'.trans hsource⟩

end PrimitiveSearch.EngineModule
