import Mathlib.Data.List.Sigma
import PrimitiveSearch.EngineModule.Header
import PrimitiveSearch.Proofs.Text.Numeral

/-!
# The names in a wrapper

A wrapper declares a parameter for every slot of its primitive, and forwards all of them.  A slot
is called by the name that the declaration gives it; a nameless slot gets an invented name.

* `givenNames`, `inventedNames` — the names that a declaration gives, and those that are invented.
* `argumentNames_perm` — together these are the names of all slots.
* `nodup_argumentNames_iff` — when the names of the slots are pairwise distinct.
* `wrapper_unambiguous_iff` — so it is with the parameters that a wrapper declares and forwards.
* `argumentNames_clash` — a declaration whose names are distinct, while those of its slots are not.
-/

set_option autoImplicit false

namespace PrimitiveSearch

/-! ## Slots -/

/-- A parameter in its place. -/
abbrev Slot := Parameter × Nat

/-- Whether the declaration gives a slot no name. -/
def Slot.isNameless (x : Slot) : Bool := x.1.name.isNone

/-- What a slot is called. -/
def Slot.calledBy (x : Slot) : Text := x.1.slotName x.2

/-- The name that is invented for the slot in a place. -/
def inventedName (i : Nat) : Text := "arg" ++ Numeral.ofNat i

theorem inventedName_injective : Function.Injective inventedName := by
  intro i j h
  have hnumeral : Numeral.ofNat i = Numeral.ofNat j := List.append_cancel_left h
  rw [← Numeral.value_ofNat i, hnumeral, Numeral.value_ofNat]

namespace Signature

variable (s : Signature)

/-- The names that a declaration gives, in slot order. -/
def givenNames : List Text := s.parameters.filterMap Parameter.name

/-- The slots of a declaration. -/
def slots : List Slot := s.parameters.zipIdx

/-- The names that are invented for the nameless slots, in slot order. -/
def inventedNames : List Text := (s.slots.filter Slot.isNameless).map fun x => inventedName x.2

theorem argumentNames_eq : s.argumentNames = s.slots.map Slot.calledBy := List.mapIdx_eq_zipIdx_map

theorem givenNames_eq :
    s.givenNames = (s.slots.filter fun x => !x.isNameless).map Slot.calledBy := by
  have hslots : s.givenNames = s.slots.filterMap fun x => x.1.name := by
    conv => lhs; rw [givenNames, ← List.zipIdx_map_fst 0 s.parameters, List.filterMap_map]
    rfl
  rw [hslots]
  induction s.slots with
  | nil => rfl
  | cons x slots ih =>
    cases hx : x.1.name <;> simp [Slot.isNameless, Slot.calledBy, Parameter.slotName, hx, ih]

theorem inventedNames_eq :
    s.inventedNames = (s.slots.filter Slot.isNameless).map Slot.calledBy := by
  refine List.map_congr_left fun x hx => ?_
  have hname : x.1.name = none := Option.isNone_iff_eq_none.mp (List.mem_filter.mp hx).2
  rw [Slot.calledBy, Parameter.slotName, hname]
  rfl

theorem mem_inventedNames_iff {n : Text} : n ∈ s.inventedNames ↔
    ∃ i p, s.parameters[i]? = some p ∧ p.name = none ∧ n = inventedName i := by
  constructor
  · intro h
    obtain ⟨⟨p, i⟩, hx, rfl⟩ := List.mem_map.mp h
    obtain ⟨hslot, hname⟩ := List.mem_filter.mp hx
    exact ⟨i, p, List.mk_mem_zipIdx_iff_getElem?.mp hslot, Option.isNone_iff_eq_none.mp hname, rfl⟩
  · rintro ⟨i, p, hslot, hname, rfl⟩
    have hnameless : Slot.isNameless (p, i) = true := Option.isNone_iff_eq_none.mpr hname
    have hx := List.mem_filter.mpr ⟨List.mk_mem_zipIdx_iff_getElem?.mpr hslot, hnameless⟩
    exact List.mem_map.mpr ⟨(p, i), hx, rfl⟩

/-- Different slots get different invented names. -/
theorem nodup_inventedNames : s.inventedNames.Nodup := by
  have hplaces : ((s.slots.filter Slot.isNameless).map Prod.snd).Nodup :=
    (List.nodup_zipIdx_map_snd s.parameters).sublist (List.filter_sublist.map Prod.snd)
  have hnames : s.inventedNames =
      ((s.slots.filter Slot.isNameless).map Prod.snd).map inventedName := by
    rw [List.map_map]
    rfl
  rw [hnames]
  exact hplaces.map inventedName_injective

/-- The names of the slots are the given and the invented ones. -/
theorem argumentNames_perm : s.argumentNames.Perm (s.givenNames ++ s.inventedNames) := by
  have hslots : ((s.slots.filter fun x => !x.isNameless) ++ s.slots.filter Slot.isNameless).Perm
      s.slots :=
    List.perm_append_comm.trans (List.filter_append_perm Slot.isNameless s.slots)
  rw [argumentNames_eq, givenNames_eq, inventedNames_eq, ← List.map_append]
  exact (hslots.map Slot.calledBy).symm

/-- The names of the slots are pairwise distinct if those that are given are, and none of them is
the name that is invented for a nameless slot. -/
theorem nodup_argumentNames_iff : s.argumentNames.Nodup ↔ s.givenNames.Nodup ∧
    ∀ i p, s.parameters[i]? = some p → p.name = none → inventedName i ∉ s.givenNames := by
  rw [s.argumentNames_perm.nodup_iff, List.nodup_append]
  constructor
  · rintro ⟨hgiven, -, hapart⟩
    refine ⟨hgiven, fun i p hslot hname hmem => ?_⟩
    exact hapart _ hmem _ (s.mem_inventedNames_iff.mpr ⟨i, p, hslot, hname, rfl⟩) rfl
  · rintro ⟨hgiven, hapart⟩
    refine ⟨hgiven, s.nodup_inventedNames, fun n hn m hm hnm => ?_⟩
    obtain ⟨i, p, hslot, hname, rfl⟩ := s.mem_inventedNames_iff.mp hm
    exact hapart i p hslot hname (hnm ▸ hn)

@[simp] theorem length_argumentNames : s.argumentNames.length = s.parameters.length :=
  List.length_mapIdx

end Signature

/-! ## Wrappers -/

namespace EngineModule

/-- A boxed call that declares some named parameters and forwards them in order, line by line. -/
def boxedCall (name : Text) (named : List (Parameter × Text)) : List Text :=
  [indent ++ "inline std::any " ++ name ++
     '(' :: List.intercalate ", ".toList (named.map fun x => wrapperParameter x.1 x.2) ++ [')'],
   indent ++ ['\x7b'],
   indent ++ "    return primitives::" ++ name ++ "(std::vector<std::any>\x7b" ++
     List.intercalate ", ".toList (named.map Prod.snd) ++ "\x7d);",
   indent ++ ['\x7d'],
   []]

/-- **A wrapper is unambiguous** exactly when the names that the declaration gives are pairwise
distinct and none of them is the name that is invented for a nameless slot.  It always declares all
slots in order, and forwards them by their names in the same order. -/
theorem wrapper_unambiguous_iff (s : Signature) : ∃ named : List (Parameter × Text),
    named.map Prod.fst = s.parameters ∧ named.map Prod.snd = s.argumentNames ∧
      wrapper s = boxedCall s.name named ∧
      ((named.map Prod.snd).Nodup ↔ s.givenNames.Nodup ∧
        ∀ i p, s.parameters[i]? = some p → p.name = none → inventedName i ∉ s.givenNames) := by
  have hlength := s.length_argumentNames
  have hnames : (s.parameters.zip s.argumentNames).map Prod.snd = s.argumentNames :=
    List.map_snd_zip (Nat.le_of_eq hlength)
  have hdeclared : (s.parameters.zip s.argumentNames).map (fun x => wrapperParameter x.1 x.2) =
      List.zipWith wrapperParameter s.parameters s.argumentNames := List.map_zip_eq_zipWith
  refine ⟨s.parameters.zip s.argumentNames, List.map_fst_zip (Nat.le_of_eq hlength.symm), hnames,
    ?_, ?_⟩
  · rw [boxedCall, hdeclared, hnames]
    rfl
  · rw [hnames]
    exact s.nodup_argumentNames_iff

/-- A nameless slot in front of one that is called `arg0`: the given names are distinct, but the
wrapper declares `arg0` twice. -/
theorem argumentNames_clash : ∃ s, Signature.parse? "int foo(int, int arg0);" = some s ∧
    s.givenNames.Nodup ∧ ¬ s.argumentNames.Nodup ∧
      wrapper s = ["        inline std::any foo(int const& arg0, int const& arg0)".toList,
        "        \x7b".toList,
        "            return primitives::foo(std::vector<std::any>\x7barg0, arg0\x7d);".toList,
        "        \x7d".toList, []] := by
  refine ⟨⟨"int", "foo", [⟨"int", none⟩, ⟨"int", some "arg0".toList⟩], []⟩, ?_⟩
  decide +kernel

end EngineModule

end PrimitiveSearch
