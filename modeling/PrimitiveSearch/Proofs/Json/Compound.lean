import PrimitiveSearch.Proofs.Json.Scalar

/-!
# Lists and records that are written and read

* `denotes_list` — a list of values, with any white space behind its commas.
* `Json.Fills` — the members of an object fill the fields of a record, one after the other.
* `denotes_record` — an object with a member for each field of a record, in the order of the
  fields.
-/

set_option autoImplicit false

namespace PrimitiveSearch.Json

/-! ## Texts between brackets -/

/-- What stands in a list behind its first element: a comma, white space and the next one, again
and again. -/
def followers (gap : Text) (items : List Text) : Text := items.flatMap fun t => ',' :: gap ++ t

theorem intercalate_cons (gap t : Text) (items : List Text) :
    List.intercalate (',' :: gap) (t :: items) = t ++ followers gap items := by
  induction items generalizing t with
  | nil => simp [followers]
  | cons u items ih =>
    rw [List.intercalate_cons_cons, ih]
    simp [followers]

theorem ends_followers (gap : Text) (items : List Text) {c : Char} (hc : c = ']' ∨ c = '}')
    (rest : Text) : Ends (followers gap items ++ c :: rest) := by
  cases items with
  | nil => exact ends_cons (.inr hc)
  | cons t items => exact ends_cons (.inl rfl)

/-! ## Lists -/

section Lists

variable {α : Type} {item : Reader α} {t gap rest : Text} {a : α}

theorem nextElement_first (h : Denotes item t a) :
    nextElement true (t ++ rest) = .ok (.element (t ++ rest)) := by
  obtain ⟨c, u, rfl, hspace, hc⟩ := h.starts
  simp [nextElement, hspace, hc]

theorem nextElement_later (hgap : ∀ c ∈ gap, isSpace c = true) (h : Denotes item t a) :
    nextElement false (',' :: gap ++ t ++ rest) = .ok (.element (t ++ rest)) := by
  obtain ⟨c, u, rfl, hspace, hc⟩ := h.starts
  have hskip : skipSpace (gap ++ (c :: u ++ rest)) = c :: (u ++ rest) :=
    (List.dropWhile_append_of_pos hgap).trans (skipSpace_cons hspace _)
  rw [List.cons_append, List.cons_append, List.append_assoc, nextElement,
    skipSpace_cons (by decide)]
  dsimp only
  rw [hskip]
  simp [hc]

@[simp] theorem elements_ended (fuel : Nat) (first : Bool) :
    elements item (fuel + 1) first (']' :: rest) = .ok ([], rest) := by
  have hskip : skipSpace (']' :: rest) = ']' :: rest := skipSpace_cons (by decide) _
  simp [elements, nextElement, hskip]

theorem elements_element {fuel : Nat} {first : Bool} {text : Text}
    (hnext : nextElement first text = .ok (.element (t ++ rest))) (h : Denotes item t a)
    (hrest : Ends rest) :
    elements item (fuel + 1) first text =
      (elements item fuel false rest).map fun (as, behind) => (a :: as, behind) := by
  simp only [elements, hnext, h.reads rest hrest]
  cases elements item fuel false rest <;> rfl

variable {write : α → Text} {as : List α}

theorem elements_followers (hgap : ∀ c ∈ gap, isSpace c = true)
    (h : ∀ a ∈ as, Denotes item (write a) a) {fuel : Nat}
    (hfuel : (followers gap (as.map write) ++ ']' :: rest).length ≤ fuel) :
    elements item fuel false (followers gap (as.map write) ++ ']' :: rest) = .ok (as, rest) := by
  induction as generalizing fuel with
  | nil =>
    obtain ⟨fuel, rfl⟩ := Nat.exists_eq_succ_of_ne_zero (Nat.ne_zero_of_lt hfuel)
    exact elements_ended fuel false
  | cons a as ih =>
    have htext : followers gap ((a :: as).map write) ++ ']' :: rest =
        ',' :: gap ++ write a ++ (followers gap (as.map write) ++ ']' :: rest) := by
      simp [followers]
    rw [htext] at hfuel ⊢
    obtain ⟨fuel, rfl⟩ := Nat.exists_eq_succ_of_ne_zero (Nat.ne_zero_of_lt hfuel)
    -- the comma alone pays for one step
    have hless : (followers gap (as.map write) ++ ']' :: rest).length ≤ fuel := by
      rw [List.length_append, List.cons_append, List.length_cons] at hfuel
      omega
    have ha := h a List.mem_cons_self
    rw [elements_element (nextElement_later hgap ha) ha (ends_followers gap _ (.inl rfl) rest),
      ih (fun b hb => h b (List.mem_cons_of_mem a hb)) hless]
    rfl

/-- A list is read from the texts of its elements, with any white space behind the commas. -/
theorem denotes_list (hgap : ∀ c ∈ gap, isSpace c = true)
    (h : ∀ a ∈ as, Denotes item (write a) a) :
    Denotes (list item) ('[' :: List.intercalate (',' :: gap) (as.map write) ++ [']']) as where
  starts := ⟨'[', _, rfl, by decide, by decide⟩
  reads rest hrest := by
    have hopen (u : Text) : skipSpace ('[' :: u) = '[' :: u := skipSpace_cons (by decide) u
    cases as with
    | nil => simp [list, hopen]
    | cons a as =>
      have ha := h a List.mem_cons_self
      have htail := ends_followers gap (as.map write) (.inl rfl) rest
      rw [List.map_cons, intercalate_cons, List.cons_append, List.cons_append, List.append_assoc,
        List.append_assoc, List.singleton_append]
      simp only [list, hopen]
      rw [elements_element (nextElement_first ha) ha htail,
        elements_followers hgap (fun b hb => h b (List.mem_cons_of_mem a hb)) (by simp)]
      rfl

end Lists

/-! ## Records -/

/-- Members fill the fields of a record in order: each has the name of its field and a text that
stands for a change of the record.  The record goes from one state to another. -/
inductive Fills {σ : Type} : List (Field σ) → List (Text × Text) → σ → σ → Prop
  | nil {state : σ} : Fills [] [] state state
  | cons {f : Field σ} {fields : List (Field σ)} {value : Text} {members : List (Text × Text)}
      {set : σ → σ} {state final : σ} (hvalue : Denotes f.read value set)
      (hrest : Fills fields members (set state) final) :
      Fills (f :: fields) ((f.name, value) :: members) state final

section Records

variable {σ : Type} {s : Shape σ} {key value rest : Text}

theorem Denotes.field {α : Type} {item : Reader α} {a : α} (name : Text) (required : Bool)
    (set : α → σ → σ) (h : Denotes item value a) :
    Denotes (Field.of name required item set).read value (set a) := h.mapped set

theorem memberText_append (key value rest : Text) :
    memberText key value ++ rest =
      '"' :: (key.flatMap stringChar ++ '"' :: ':' :: (value ++ rest)) := by
  simp [memberText, stringText]

theorem nextMember_first :
    nextMember true (memberText key value ++ rest) =
      .ok (.element (key.flatMap stringChar ++ '"' :: ':' :: (value ++ rest))) := by
  rw [memberText_append, nextMember, skipSpace_cons (by decide)]
  rfl

theorem nextMember_later :
    nextMember false (',' :: memberText key value ++ rest) =
      .ok (.element (key.flatMap stringChar ++ '"' :: ':' :: (value ++ rest))) := by
  rw [List.cons_append, memberText_append, nextMember, skipSpace_cons (by decide)]
  dsimp only
  rw [skipSpace_cons (by decide)]
  rfl

theorem name_not_mem {before fields : List (Field σ)} {f : Field σ}
    (hfields : s.fields = before ++ f :: fields) (hs : s.names.Nodup) :
    f.name ∉ before.map Field.name := by
  rw [Shape.names, hfields, List.map_append, List.map_cons] at hs
  exact fun hf => (List.nodup_append.mp hs).2.2 _ hf _ List.mem_cons_self rfl

theorem find?_field {before fields : List (Field σ)} {f : Field σ}
    (hfields : s.fields = before ++ f :: fields) (hs : s.names.Nodup) :
    (s.fields.find? fun g => g.name == f.name) = some f := by
  have hbefore : (before.find? fun g => g.name == f.name) = none := by
    rw [List.find?_eq_none]
    intro g hg hname
    exact name_not_mem hfields hs (beq_iff_eq.mp hname ▸ List.mem_map_of_mem hg)
  rw [hfields, List.find?_append, hbefore, Option.none_or, List.find?_cons, beq_self_eq_true]

theorem memberValue_field {f : Field σ} {seen : List Text} {set : σ → σ} (state : σ)
    (hfind : (s.fields.find? fun g => g.name == f.name) = some f) (hnew : f.name ∉ seen)
    (h : Denotes f.read value set) (hrest : Ends rest) :
    memberValue s seen f.name state (':' :: (value ++ rest)) = .ok ((set state, true), rest) := by
  have hcolon : colon (':' :: (value ++ rest)) = .ok (value ++ rest) := by
    rw [colon, skipSpace_cons (by decide)]
    rfl
  simp [memberValue, hfind, hnew, hcolon, h.reads rest hrest, Except.map]

theorem members_member {f : Field σ} {fuel : Nat} {first : Bool} {seen : List Text}
    {set : σ → σ} {state : σ} {text : Text}
    (hnext : nextMember first text =
      .ok (.element (f.name.flatMap stringChar ++ '"' :: ':' :: (value ++ rest))))
    (hfind : (s.fields.find? fun g => g.name == f.name) = some f) (hnew : f.name ∉ seen)
    (h : Denotes f.read value set) (hrest : Ends rest) :
    members s (fuel + 1) first seen state text =
      members s fuel false (f.name :: seen) (set state) rest := by
  simp only [members, hnext, stringBody_written, memberValue_field state hfind hnew h hrest,
    if_true]

theorem members_ended (fuel : Nat) (first : Bool) {seen : List Text} (state : σ)
    (hseen : ∀ f ∈ s.fields, f.name ∈ seen) :
    members s (fuel + 1) first seen state ('}' :: rest) = .ok (state, rest) := by
  have hskip : skipSpace ('}' :: rest) = '}' :: rest := skipSpace_cons (by decide) _
  have hcompleted : completed s seen state rest = .ok (state, rest) := by
    have hnone : (s.fields.find? fun f => f.required && !seen.contains f.name) = none := by
      simpa using fun f hf _ => hseen f hf
    rw [completed, hnone]
  simp [members, nextMember, hskip, hcompleted]

theorem members_fill (hs : s.names.Nodup) {fields : List (Field σ)} {ms : List (Text × Text)}
    {state final : σ} (h : Fills fields ms state final) {before : List (Field σ)}
    (hfields : s.fields = before ++ fields) {fuel : Nat}
    (hfuel : (followers [] (ms.map fun m => memberText m.1 m.2) ++ '}' :: rest).length ≤ fuel) :
    members s fuel false (before.map Field.name).reverse state
      (followers [] (ms.map fun m => memberText m.1 m.2) ++ '}' :: rest) = .ok (final, rest) := by
  -- the names that have been seen are always those of the fields before the ones that are left
  induction h generalizing before fuel with
  | nil =>
    obtain ⟨fuel, rfl⟩ := Nat.exists_eq_succ_of_ne_zero (Nat.ne_zero_of_lt hfuel)
    refine members_ended fuel false _ fun f hf => ?_
    rw [hfields, List.append_nil] at hf
    exact List.mem_reverse.mpr (List.mem_map_of_mem hf)
  | @cons f fields value ms set state final hvalue hrest ih =>
    have htext : followers [] (((f.name, value) :: ms).map fun m => memberText m.1 m.2) ++
        '}' :: rest = ',' :: memberText f.name value ++
          (followers [] (ms.map fun m => memberText m.1 m.2) ++ '}' :: rest) := by
      simp [followers]
    rw [htext] at hfuel ⊢
    obtain ⟨fuel, rfl⟩ := Nat.exists_eq_succ_of_ne_zero (Nat.ne_zero_of_lt hfuel)
    have hless : (followers [] (ms.map fun m => memberText m.1 m.2) ++ '}' :: rest).length ≤
        fuel := by
      rw [List.length_append, List.length_cons] at hfuel
      omega
    have hnew : f.name ∉ (before.map Field.name).reverse :=
      fun hf => name_not_mem hfields hs (List.mem_reverse.mp hf)
    rw [members_member nextMember_later (find?_field hfields hs) hnew hvalue
      (ends_followers [] _ (.inr rfl) rest)]
    have hseen : s.fields = (before ++ [f]) ++ fields := by simp [hfields]
    simpa using ih hseen hless

/-- A record is read from an object whose members fill all its fields. -/
theorem denotes_record (hs : s.names.Nodup) {ms : List (Text × Text)} {final : σ}
    (h : Fills s.fields ms s.initial final) : Denotes (record s) (objectText ms) final where
  starts := ⟨'{', _, rfl, by decide, by decide⟩
  reads rest hrest := by
    have hopen (u : Text) : skipSpace ('{' :: u) = '{' :: u := skipSpace_cons (by decide) u
    generalize hstate : s.initial = state at h
    generalize hfields : s.fields = fields at h
    cases h with
    | nil =>
      simp [record, objectText, hopen, hstate, members_ended, hfields]
    | @cons f fields value ms set _ _ hvalue htail =>
      have hfirst : s.fields = [] ++ f :: fields := hfields
      have hseen : s.fields = [f] ++ fields := hfields
      rw [objectText, List.map_cons, intercalate_cons, List.cons_append, List.cons_append,
        List.append_assoc, List.append_assoc, List.singleton_append]
      simp only [record, hopen, hstate]
      rw [members_member nextMember_first (find?_field hfirst hs) List.not_mem_nil hvalue
        (ends_followers [] _ (.inr rfl) rest)]
      exact members_fill hs htail hseen (by simp)

end Records

end PrimitiveSearch.Json
