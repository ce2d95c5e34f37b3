import PrimitiveSearch.Proofs.Declaration.Arguments
import PrimitiveSearch.Proofs.Declaration.Grammar

/-!
# The written form of a signature

* `parse?_eq_some_iff` — a signature is read from a cut and the arguments in it.
* `parse?_key` — the signature of a declaration on one line is read back from its written form.
* `key_faithful` — hence two such declarations with one written form are the same.
* `mem_key_imp`, `trimmed_head` — which characters a written form consists of, and that its part
  before the semicolon has no white space at its ends.
-/

set_option autoImplicit false

namespace PrimitiveSearch.Signature

open Text Declaration

variable {t : Text} {s : Signature}

/-! ## Reading -/

theorem parse?_eq_some_iff : parse? t = some s ↔ ∃ arguments,
    split? t = some ⟨s.returnType, s.name, arguments⟩ ∧
      parameters? arguments = some s.parameters ∧ s.description = [] := by
  constructor
  · intro h
    obtain ⟨cut, hcut, h⟩ := Option.bind_eq_some_iff.mp h
    obtain ⟨ps, hps, rfl⟩ := Option.map_eq_some_iff.mp h
    exact ⟨cut.arguments, hcut, hps, rfl⟩
  · rintro ⟨arguments, hcut, hps, hd⟩
    rw [parse?, hcut]
    show (parameters? arguments).map _ = some s
    rw [hps, Option.map_some, ← hd]

theorem parse?_of_trim (h : parse? (trim t) = some s) : parse? t = some s := by
  obtain ⟨arguments, hcut, hrest⟩ := parse?_eq_some_iff.mp h
  exact parse?_eq_some_iff.mpr ⟨arguments, split?_of_trim hcut, hrest⟩

/-- A declaration may be trimmed unless its return type begins with white space. -/
theorem parse?_trim (h : parse? t = some s)
    (hfront : ∀ c, s.returnType.head? = some c → isBlank c = false) :
    parse? (trim t) = some s := by
  obtain ⟨arguments, hcut, hrest⟩ := parse?_eq_some_iff.mp h
  exact parse?_eq_some_iff.mpr ⟨arguments, split?_trim hcut hfront, hrest⟩

/-- What stands between the parentheses of a written form. -/
def argumentText (s : Signature) : Text :=
  List.intercalate ", ".toList (s.parameters.map Parameter.text)

theorem key_eq (s : Signature) : s.key =
    s.returnType ++ (' ' :: (s.name ++ '(' :: (s.argumentText ++ ");".toList))) := by
  simp [key, written, argumentText]

theorem mem_of_mem_arguments {c : Char} {cut : Split} (ht : Flush t) (h : split? t = some cut)
    (hc : c ∈ cut.arguments) : c ∈ t := by
  obtain ⟨u, rest, rfl, -, -, after, rfl, gap, beforeOpen, -, -, -, -, -, rfl⟩ := ht.isTyped h
  simp [hc]

theorem mem_of_mem_argumentText (ht : Flush t) (h : parse? t = some s) {c : Char}
    (hc : c ∈ s.argumentText) : c ∈ t ∨ c ∈ ", ".toList := by
  obtain ⟨arguments, hcut, hps, -⟩ := parse?_eq_some_iff.mp h
  rw [argumentText, map_text_parameters? hps] at hc
  rcases mem_of_mem_intercalate hc with hc | ⟨a, ha, hc⟩
  · exact .inr hc
  · exact .inl (mem_of_mem_arguments ht hcut (mem_of_mem_argumentTexts ha hc))

/-- **A signature is read back from its written form**, when its declaration stands on one line
and does not begin with white space. -/
theorem parse?_key (ht : Flush t) (h : parse? t = some s) : parse? s.key = some s := by
  obtain ⟨arguments, hcut, hps, hd⟩ := parse?_eq_some_iff.mp h
  have hnew : '\n' ∉ s.argumentText := by
    intro hc
    rcases mem_of_mem_argumentText ht h hc with hc | hc
    · exact ht.inside hc
    · exact absurd hc (by decide)
  rw [parse?_eq_some_iff, key_eq]
  exact ⟨s.argumentText, split?_respaced ht hnew hcut, parameters?_intercalate hps, hd⟩

/-- **Written forms are faithful.**  The signature of a declaration on one line is read back from
its written form, and any other such declaration with the same written form has the same
signature. -/
theorem key_faithful (ht : Flush t) (h : parse? t = some s) :
    parse? s.key = some s ∧
      ∀ t' s', Flush t' → parse? t' = some s' → s'.key = s.key → s' = s := by
  have hkey := parse?_key ht h
  refine ⟨hkey, fun t' s' ht' h' heq => ?_⟩
  have hkey' := parse?_key ht' h'
  rw [heq, hkey] at hkey'
  exact (Option.some.inj hkey').symm

/-- Two layouts of one declaration, with a nested list of types and a nameless argument. -/
theorem key_faithful_of_map :
    let t : Text := "std::map<int, int>  bar (std::pair<int,int> ,bool\t, int  a ) ; "
    let t' : Text := "std::map<int, int> bar(std::pair<int,int>, bool\t,int  a);"
    let s : Signature := ⟨"std::map<int, int>", "bar",
      [⟨"std::pair<int,int>", none⟩, ⟨"bool", none⟩, ⟨"int ", some "a".toList⟩], []⟩
    (Flush t ∧ parse? t = some s) ∧ (Flush t' ∧ parse? t' = some s) ∧ parse? s.key = some s ∧
      ∀ s', parse? t' = some s' → s'.key = s.key → s' = s := by
  intro t t' s
  have ht : Flush t := ⟨by decide, not_blank_of_all (by decide)⟩
  have ht' : Flush t' := ⟨by decide, not_blank_of_all (by decide)⟩
  have hs : parse? t = some s := by decide +kernel
  have hs' : parse? t' = some s := by decide +kernel
  have hkey := key_faithful ht hs
  exact ⟨⟨ht, hs⟩, ⟨ht', hs'⟩, hkey.1, fun s' h => hkey.2 t' s' ht' h⟩

/-! ## How written forms look -/

theorem mem_key_imp (ht : Flush t) (h : parse? t = some s) {c : Char} (hc : c ∈ s.key) :
    c ∈ t ∨ c ∈ " ,();".toList := by
  obtain ⟨arguments, hcut, -, -⟩ := parse?_eq_some_iff.mp h
  obtain ⟨u, rest, hu, -, -, after, rfl, gap, beforeOpen, -, -, -, -, -, rfl⟩ := ht.isTyped hcut
  rw [key_eq] at hc
  simp only [List.mem_append, List.mem_cons] at hc
  rcases hc with hc | rfl | hc | rfl | hc | hc
  · exact .inl (by simp [hu, hc])
  · exact .inr (by decide)
  · exact .inl (by simp [hu, hc])
  · exact .inr (by decide)
  · rcases mem_of_mem_argumentText ht h hc with hc | hc
    · exact .inl hc
    · exact .inr ((by decide : ", ".toList ⊆ " ,();".toList) hc)
  · exact .inr ((by decide : ");".toList ⊆ " ,();".toList) hc)

theorem key_eq_concat (s : Signature) : s.key =
    (s.returnType ++ (' ' :: (s.name ++ '(' :: (s.argumentText ++ [')'])))) ++ [';'] := by
  simp [key_eq]

theorem dropLast_key (s : Signature) : s.key.dropLast =
    s.returnType ++ (' ' :: (s.name ++ '(' :: (s.argumentText ++ [')']))) := by
  rw [key_eq_concat, List.dropLast_concat]

theorem dropLast_key_ne_nil (s : Signature) : s.key.dropLast ≠ [] := by
  simp [dropLast_key]

/-- A written form is a head and a semicolon. -/
@[simp] theorem dropLast_key_append (s : Signature) : s.key.dropLast ++ [';'] = s.key := by
  rw [dropLast_key, ← key_eq_concat]

@[simp] theorem getLast?_key (s : Signature) : s.key.getLast? = some ';' := by
  rw [← dropLast_key_append]
  exact List.getLast?_concat

theorem key_ne_nil (s : Signature) : s.key ≠ [] := by
  rw [key_eq_concat]
  exact List.concat_ne_nil _ _

/-- The head of a written form has no white space at its ends. -/
theorem trimmed_head (ht : Flush t) (h : parse? t = some s) : Trimmed s.key.dropLast := by
  obtain ⟨arguments, hcut, -, -⟩ := parse?_eq_some_iff.mp h
  obtain ⟨u, rest, -, hne, -⟩ := ht.isTyped hcut
  rw [dropLast_key]
  refine ⟨fun c hc => ?_, fun c hc => ?_⟩
  · rw [List.head?_append_of_ne_nil _ hne] at hc
    exact ht.front_returnType hcut hc
  · rw [show s.returnType ++ (' ' :: (s.name ++ '(' :: (s.argumentText ++ [')']))) =
      (s.returnType ++ (' ' :: (s.name ++ '(' :: s.argumentText))) ++ [')'] by simp,
      List.getLast?_concat] at hc
    cases hc
    decide

end PrimitiveSearch.Signature
