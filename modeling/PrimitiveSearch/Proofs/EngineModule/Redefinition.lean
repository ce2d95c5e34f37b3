import PrimitiveSearch.Proofs.Catalogue.Reference
import PrimitiveSearch.Proofs.Declaration.Choice
import PrimitiveSearch.Proofs.EngineModule.Agreement

/-!
# Wrappers that redefine one another

Every primitive of a catalogue gets a wrapper.  Two functions with one name and the same parameter
types are one function, whatever they return and whatever their parameters are called; but the
written form by which a catalogue tells its entries apart holds all of that.

* `Signature.overload` — what tells functions apart; `wrapperHead_eq` finds it in a wrapper.
* `Annotates.key_eq_iff` — what tells annotated declarations apart.
* `overloads_nodup_iff` — when no wrapper of a header redefines another one.
* `wrappers_clash` — a source whose wrappers do.
-/

set_option autoImplicit false

namespace PrimitiveSearch

open Text

/-- What tells a function apart from others: its name and its parameter types. -/
def Signature.overload (s : Signature) : Text × List Text := (s.name, s.parameterTypes)

/-! ## Declarations in a source -/

namespace Catalogue

variable {source line line' : Text} {d e : Entry}

/-- Annotated declarations with one written form differ at most in their descriptions. -/
theorem Annotates.key_eq_iff (hd : Annotates line d) (he : Annotates line' e)
    (hline : line ∈ lines source) (hline' : line' ∈ lines source) : d.key = e.key ↔
      d.name = e.name ∧ d.signature.returnType = e.signature.returnType ∧
        d.signature.parameters = e.signature.parameters := by
  constructor
  · intro hkey
    obtain ⟨t, _, s, ht, hs, hsd⟩ := hd.exists_declaration (newline_not_mem_lines hline)
    obtain ⟨t', _, s', ht', hs', hse⟩ := he.exists_declaration (newline_not_mem_lines hline')
    rw [Entry.key, Entry.key, hsd, hse] at hkey
    obtain rfl : s = s' := Signature.eq_of_key_eq ht ht' hs hs' hkey
    rw [Entry.name, Entry.name, hsd, hse]
    exact ⟨rfl, rfl, rfl⟩
  · rintro ⟨hname, hreturn, hparameters⟩
    rw [Entry.name, Entry.name] at hname
    rw [Entry.key, Entry.key, Signature.key, Signature.key, Signature.written, Signature.written,
      hreturn, hname, hparameters]

/-- The signatures of a catalogue are pairwise different functions exactly if no two annotated
declarations of one function differ in what it returns or in what its parameters are called. -/
theorem nodup_overloads_iff (source : Text) :
    ((parse source).signatures.map Signature.overload).Nodup ↔
      ∀ line ∈ lines source, ∀ line' ∈ lines source, ∀ d e, Annotates line d → Annotates line' e →
        d.signature.overload = e.signature.overload →
          d.signature.returnType = e.signature.returnType ∧
            d.signature.parameters = e.signature.parameters := by
  have hdistinct := (parse source).distinct
  rw [signatures, List.map_map, List.nodup_map_iff_inj_on (hdistinct.of_map Entry.key)]
  constructor
  · intro h line hline line' hline' d e hd he hoverload
    -- the entries with these written forms are the same function, hence one entry
    have hentry : ∀ {line d}, line ∈ lines source → Annotates line d →
        ∃ x ∈ (parse source).entries, x.key = d.key ∧ x.signature.overload = d.signature.overload := by
      intro line d hline hd
      obtain ⟨x, hx, hkey⟩ := exists_entry hline hd
      obtain ⟨above, habove, hann⟩ := exists_line hx
      obtain ⟨hname, -, hparameters⟩ := (hann.key_eq_iff hd habove hline).mp hkey
      refine ⟨x, hx, hkey, Prod.ext hname ?_⟩
      exact congrArg (List.map Parameter.typeText) hparameters
    obtain ⟨x, hx, hkeyx, hox⟩ := hentry hline hd
    obtain ⟨y, hy, hkeyy, hoy⟩ := hentry hline' he
    have hxy : x = y := h x hx y hy (hox.trans (hoverload.trans hoy.symm))
    refine ((hd.key_eq_iff he hline hline').mp ?_).2
    rw [← hkeyx, hxy, hkeyy]
  · intro h d hd e he hoverload
    obtain ⟨line, hline, hann⟩ := exists_line hd
    obtain ⟨line', hline', hann'⟩ := exists_line he
    have hsame := h line hline line' hline' d e hann hann' hoverload
    refine List.inj_on_of_nodup_map hdistinct hd he ?_
    exact (hann.key_eq_iff hann' hline hline').mpr ⟨congrArg Prod.fst hoverload, hsame⟩

end Catalogue

/-! ## Declarations in a header -/

namespace EngineModule

/-- The name and the parameters of a function with named slots. -/
def headOf (overload : Text × List Text) (names : List Text) : Text :=
  overload.1 ++ '(' :: List.intercalate ", ".toList
    (List.zipWith (fun ty name => ty ++ " const& " ++ name) overload.2 names) ++ [')']

/-- A wrapper declares a function with the name and the parameter types of its primitive. -/
theorem wrapperHead_eq (s : Signature) : wrapperHead s = headOf s.overload s.argumentNames := by
  rw [wrapperHead, headOf, Signature.overload, Signature.parameterTypes, List.zipWith_map_left]
  rfl

/-- **Wrappers redefine one another** exactly if two declarations with one name and the same
parameter types are annotated that differ in what they return or in how they call their
parameters. -/
theorem overloads_nodup_iff (source : Text) (f : Frame) (a : Answer) (t : Template) :
    let c := Catalogue.parse source
    (∃ ls, (render f c a t).header = ofLines ls ∧ c.signatures.flatMap wrapper <:+: ls ∧
      ls.filterMap declaredHead? = c.signatures.map fun s => headOf s.overload s.argumentNames) ∧
    ((c.signatures.map Signature.overload).Nodup ↔
      ∀ line ∈ lines source, ∀ line' ∈ lines source, ∀ d e,
        Catalogue.Annotates line d → Catalogue.Annotates line' e →
          d.signature.overload = e.signature.overload →
            d.signature.returnType = e.signature.returnType ∧
              d.signature.parameters = e.signature.parameters) := by
  intro c
  refine ⟨⟨_, rfl, wrappers_isInfix f _ _, ?_⟩, Catalogue.nodup_overloads_iff source⟩
  rw [declared_lines]
  exact List.map_congr_left fun s _ => wrapperHead_eq s

/-- One name and the same parameter type with two return types: the header declares the function
twice. -/
theorem wrappers_clash :
    let c := Catalogue.parse "///int foo(int a); // A\n///bool foo(int a); // B\n"
    let m := render .default c ⟨[], [], 1⟩ ⟨[], []⟩
    c.signatures.map Signature.overload =
      [("foo".toList, ["int".toList]), ("foo".toList, ["int".toList])] ∧
      (lines m.header).filterMap declaredHead? = ["foo(int const& a)", "foo(int const& a)"] := by
  decide +kernel

end EngineModule

end PrimitiveSearch
