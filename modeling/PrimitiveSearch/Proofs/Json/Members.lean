import PrimitiveSearch.Proofs.Json.Faithful

/-!
# Records against the grammar

* `Json.Fed` — the members of an object, put into a record one after the other.
* `Shape.Strict` — a record that refuses members without a field.
* `members_through`, `slots_follows` — a reader that goes through members or elements stops behind
  them.
* `faithful_record` — what such a record is read from is an object, whose members feed it and have
  different keys, or a list.
* `record_reaches` — no key that is reached in an object is without a field.
* `Fed.told` — a part of a record is what the one member that concerns it says, or as it was.
-/

set_option autoImplicit false

namespace PrimitiveSearch.Json

variable {σ α : Type} {s : Shape σ} {v : Value} {first : Bool} {t rest after gap sep : Text}

/-! ## What comes next in a list -/

theorem nextElement_closing (hgap : IsGap gap) (first : Bool) (rest : Text) :
    nextElement first (gap ++ ']' :: rest) = .ok (.ended rest) := by
  rw [nextElement, skipSpace_gap_cons hgap (by decide)]
  rfl

theorem Spells.ne_closing (h : Spells v t) : ∃ c u, t = c :: u ∧ isSpace c = false ∧
    c ≠ ']' ∧ c ≠ ',' := by
  obtain ⟨c, u, rfl, hc⟩ := h.starts
  refine ⟨c, u, rfl, hc.not_space, ?_⟩
  cases v with
  | boolean b => cases b <;> (obtain rfl : c = _ := hc; decide)
  | number =>
    rcases hc with rfl | hdigit
    · decide
    · constructor <;> (rintro rfl; cases hdigit)
  | null | string | list | object =>
    obtain rfl : c = _ := hc
    decide

theorem nextElement_separates (hsep : Separates first sep) (h : Spells v t) (rest : Text) :
    nextElement first (sep ++ (t ++ rest)) = .ok (.element (t ++ rest)) := by
  obtain ⟨c, u, rfl, hspace, hclosing, -⟩ := h.ne_closing
  cases first with
  | true =>
    have hskip : skipSpace (sep ++ (c :: u ++ rest)) = c :: (u ++ rest) :=
      skipSpace_gap_cons hsep hspace _
    rw [nextElement, hskip]
    dsimp only
    rw [if_neg hclosing, if_pos rfl]
    rfl
  | false =>
    obtain ⟨before, behind, hbefore, hbehind, rfl⟩ := hsep
    have hskip : skipSpace (before ++ ',' :: (behind ++ (c :: u ++ rest))) =
        ',' :: (behind ++ (c :: u ++ rest)) := skipSpace_gap_cons hbefore (by decide) _
    have hskip' : skipSpace (behind ++ (c :: u ++ rest)) = c :: (u ++ rest) :=
      skipSpace_gap_cons hbehind hspace _
    rw [List.append_assoc, List.cons_append, nextElement, hskip]
    dsimp only
    rw [hskip', if_neg (by decide), if_neg Bool.false_ne_true, if_pos rfl]
    split
    · rename_i heq
      cases heq
    · rename_i heq
      exact absurd (List.cons.inj heq).1 hclosing
    · rfl

theorem nextElement_eq_ended (h : nextElement first t = .ok (.ended rest)) :
    skipSpace t = ']' :: rest := by
  unfold nextElement at h
  split at h
  · cases h
  rename_i c u hskip
  split at h
  · rename_i hc
    cases h
    rw [hskip, hc]
  repeat' split at h
  all_goals cases h

theorem nextElement_eq_element (h : nextElement first t = .ok (.element rest)) :
    ∃ sep, Separates first sep ∧ t = sep ++ rest := by
  obtain ⟨gap, hgap, ht⟩ := exists_gap t
  unfold nextElement at h
  split at h
  · cases h
  rename_i c u hskip
  rw [hskip] at ht
  split at h
  · cases h
  split at h
  · rename_i hfirst
    cases h
    exact ⟨gap, by rw [hfirst]; exact hgap, ht⟩
  rename_i hfirst
  split at h
  · rename_i hc
    subst hc
    obtain ⟨gap', hgap', hu⟩ := exists_gap u
    split at h
    · cases h
    · cases h
    · cases h
      refine ⟨gap ++ ',' :: gap', ?_, ?_⟩
      · rw [Bool.eq_false_iff.mpr hfirst]
        exact ⟨gap, gap', hgap, hgap', rfl⟩
      · rw [List.append_assoc, List.cons_append, ← hu]
        exact ht
  · cases h

/-! ## What comes next in an object -/

theorem nextMember_closing (hgap : IsGap gap) (first : Bool) (rest : Text) :
    nextMember first (gap ++ '}' :: rest) = .ok (.ended rest) := by
  rw [nextMember, skipSpace_gap_cons hgap (by decide)]
  rfl

theorem nextMember_separates (hsep : Separates first sep) (body : Text) :
    nextMember first (sep ++ '"' :: body) = .ok (.element body) := by
  cases first with
  | true =>
    have hgap : IsGap sep := hsep
    rw [nextMember, skipSpace_gap_cons hgap (by decide)]
    rfl
  | false =>
    obtain ⟨before, behind, hbefore, hbehind, rfl⟩ := hsep
    rw [List.append_assoc, List.cons_append, nextMember, skipSpace_gap_cons hbefore (by decide)]
    dsimp only
    rw [skipSpace_gap_cons hbehind (by decide)]
    rfl

theorem nextMember_eq_ended (h : nextMember first t = .ok (.ended rest)) :
    skipSpace t = '}' :: rest := by
  unfold nextMember at h
  split at h
  · cases h
  rename_i c u hskip
  split at h
  · rename_i hc
    cases h
    rw [hskip, hc]
  repeat' split at h
  all_goals cases h

theorem nextMember_eq_element (h : nextMember first t = .ok (.element rest)) :
    ∃ sep, Separates first sep ∧ t = sep ++ '"' :: rest := by
  obtain ⟨gap, hgap, ht⟩ := exists_gap t
  unfold nextMember at h
  split at h
  · cases h
  rename_i c u hskip
  rw [hskip] at ht
  split at h
  · cases h
  split at h
  · rename_i hfirst
    split at h
    · rename_i hc
      cases h
      exact ⟨gap, by rw [hfirst]; exact hgap, by rw [ht, hc]⟩
    · cases h
  rename_i hfirst
  split at h
  · rename_i hc
    subst hc
    obtain ⟨gap', hgap', hu⟩ := exists_gap u
    split at h
    · cases h
    · rename_i body hbody
      cases h
      refine ⟨gap ++ ',' :: gap', ?_, ?_⟩
      · rw [Bool.eq_false_iff.mpr hfirst]
        exact ⟨gap, gap', hgap, hgap', rfl⟩
      · rw [hbody] at hu
        rw [List.append_assoc, List.cons_append, ← hu]
        exact ht
    · cases h
    · cases h
  · cases h

/-! ## Members -/

/-- A record refuses members without a field, and its fields are read faithfully. -/
structure Shape.Strict (s : Shape σ) : Prop where
  refused : s.unknown = .refused
  faithful : ∀ f ∈ s.fields, ∃ R, Faithful f.read R

/-- The members of an object feed a record: each is taken by the field of its name. -/
inductive Fed (s : Shape σ) : List (Text × Value) → σ → σ → Prop where
  | nil {state : σ} : Fed s [] state state
  | cons {f : Field σ} {v : Value} {ms : List (Text × Value)} {set : σ → σ} {state final : σ}
      (field : f ∈ s.fields) (takes : Takes f.read v set) (more : Fed s ms (set state) final) :
      Fed s ((f.name, v) :: ms) state final

theorem Fed.mem_names {ms : List (Text × Value)} {state final : σ} (h : Fed s ms state final)
    {key : Text} (hkey : key ∈ ms.map Prod.fst) : key ∈ s.names := by
  induction h with
  | nil => cases hkey
  | cons hfield _ _ ih =>
    rcases List.mem_cons.mp hkey with rfl | hkey
    · exact List.mem_map_of_mem hfield
    · exact ih hkey

theorem failBehindKey_ne_ok {cause : Cause} {a : α} : failBehindKey cause t ≠ .ok a := by
  unfold failBehindKey
  split <;> simp [failAt]

theorem colon_eq_ok (h : colon t = .ok rest) : ∃ gap, IsGap gap ∧ t = gap ++ ':' :: rest := by
  obtain ⟨gap, hgap, ht⟩ := exists_gap t
  unfold colon at h
  split at h
  · cases h
  · rename_i hskip
    cases h
    exact ⟨gap, hgap, by rw [← hskip]; exact ht⟩
  · cases h

theorem colon_gap (hgap : IsGap gap) (rest : Text) : colon (gap ++ ':' :: rest) = .ok rest := by
  rw [colon, skipSpace_gap_cons hgap (by decide)]
  rfl

/-- A member that is taken has a field, and its key is new. -/
theorem memberValue_eq_ok {seen : List Text} {key : Text} {state next : σ} {isField : Bool}
    (hs : s.Strict) (h : memberValue s seen key state t = .ok ((next, isField), after)) :
    isField = true ∧ key ∉ seen ∧ ∃ f ∈ s.fields, f.name = key ∧ ∃ body set,
      colon t = .ok body ∧ f.read body = .ok (set, after) ∧ next = set state := by
  unfold memberValue at h
  split at h
  · rename_i f hfind
    split at h
    · exact absurd h failBehindKey_ne_ok
    rename_i hnew
    split at h
    · cases h
    rename_i body hcolon
    obtain ⟨⟨set, u⟩, hread, heq⟩ := map_eq_ok_iff.mp h
    cases heq
    exact ⟨rfl, hnew, f, List.mem_of_find?_eq_some hfind,
      by simpa using List.find?_some hfind, body, set, hcolon, hread, rfl⟩
  · rw [hs.refused] at h
    exact absurd h failBehindKey_ne_ok

/-- What a reader does with a key that is reached. -/
theorem members_key {fuel : Nat} {seen : List Text} {state final : σ} {key body : Text}
    (hs : s.Strict) (hsep : Separates first sep) (hkey : SpellsString key body)
    (h : members s fuel first seen state (sep ++ '"' :: (body ++ '"' :: rest)) =
      .ok (final, after)) :
    key ∉ seen ∧ ∃ f ∈ s.fields, f.name = key ∧ ∃ fuel' value set behind,
      colon rest = .ok value ∧ f.read value = .ok (set, behind) ∧
        members s fuel' false (key :: seen) (set state) behind = .ok (final, after) := by
  have hbody : stringBody (body ++ '"' :: rest) = .ok (key, rest) :=
    stringBody_eq_ok_iff.mpr ⟨body, hkey, rfl⟩
  cases fuel with
  | zero => cases h
  | succ fuel =>
    rw [members, nextMember_separates hsep] at h
    simp only [hbody] at h
    split at h
    · cases h
    · rename_i next isField behind hmember
      obtain ⟨rfl, hnew, f, hf, hname, value, set, hcolon, hread, rfl⟩ :=
        memberValue_eq_ok hs hmember
      exact ⟨hnew, f, hf, hname, fuel, value, set, behind, hcolon, hread, h⟩

theorem delimited_members {ms : List (Text × Value)} (h : SpellsMembers false ms t)
    (hrest : Delimited rest) : Delimited (t ++ rest) := by
  cases h with
  | nil => exact hrest
  | cons hsep =>
    rw [List.append_assoc]
    exact delimited_separates hsep _

/-- A reader that is not stopped by members goes through them, and they feed the record. -/
theorem members_through {ms : List (Text × Value)} {fuel : Nat} {seen : List Text}
    {state final : σ} (hs : s.Strict) (hms : SpellsMembers first ms t)
    (hrest : ms ≠ [] → Delimited rest)
    (h : members s fuel first seen state (t ++ rest) = .ok (final, after)) :
    ∃ fuel' state', Fed s ms state state' ∧ (ms.map Prod.fst).Nodup ∧
      (∀ key ∈ ms.map Prod.fst, key ∉ seen) ∧
      members s fuel' (first && ms.isEmpty) ((ms.map Prod.fst).reverse ++ seen) state' rest =
        .ok (final, after) := by
  induction ms generalizing first t fuel seen state with
  | nil =>
    cases hms
    exact ⟨fuel, state, .nil, List.nodup_nil, by simp, by simpa using h⟩
  | cons m ms ih =>
    cases hms with
    | @cons _ key v _ sep body behind before value more hsep hkey hbehind hbefore hvalue hmore =>
      rw [List.append_assoc, List.cons_append, List.append_assoc, List.cons_append,
        List.append_assoc, List.cons_append, List.append_assoc, List.append_assoc] at h
      obtain ⟨hnew, f, hf, rfl, fuel', body', set, rest', hcolon, hread, hnext⟩ :=
        members_key hs hsep hkey h
      obtain rfl := Except.ok.inj (hcolon.symm.trans (colon_gap hbehind _))
      obtain ⟨R, hR⟩ := hs.faithful f hf
      rw [hR.gap hbefore] at hread
      -- the value ends where the next member or the end of the object begins
      have hends := delimited_members hmore (hrest (List.cons_ne_nil _ _))
      obtain ⟨rfl, htakes⟩ := hR.takes hvalue hends hread
      obtain ⟨fuel'', state', hfed, hnodup, hfresh, hdone⟩ :=
        ih hmore (fun _ => hrest (List.cons_ne_nil _ _)) hnext
      have hnotin : f.name ∉ ms.map Prod.fst := fun hmem =>
        hfresh f.name hmem List.mem_cons_self
      refine ⟨fuel'', state', .cons hf htakes hfed, List.nodup_cons.mpr ⟨hnotin, hnodup⟩, ?_, ?_⟩
      · intro key hmem
        rcases List.mem_cons.mp hmem with rfl | hmem
        · exact hnew
        · exact fun hseen => hfresh key hmem (List.mem_cons_of_mem _ hseen)
      · simpa using hdone

theorem completed_eq_ok {seen : List Text} {state final : σ}
    (h : completed s seen state rest = .ok (final, after)) : final = state ∧ after = rest := by
  unfold completed at h
  split at h
  · cases h
  · cases h
    exact ⟨rfl, rfl⟩

/-- What is read as members is spelt by members. -/
theorem members_spelt {fuel : Nat} {seen : List Text} {state final : σ} (hs : s.Strict)
    (h : members s fuel first seen state t = .ok (final, after)) :
    ∃ ms body gap, SpellsMembers first ms body ∧ IsGap gap ∧ t = body ++ (gap ++ '}' :: after) := by
  induction fuel generalizing first seen state t with
  | zero => cases h
  | succ fuel ih =>
    unfold members at h
    split at h
    · cases h
    · rename_i rest hnext
      obtain ⟨gap, hgap, ht⟩ := exists_gap t
      rw [nextMember_eq_ended hnext] at ht
      obtain ⟨-, rfl⟩ := completed_eq_ok h
      exact ⟨[], [], gap, .nil, hgap, ht⟩
    · rename_i u hnext
      obtain ⟨sep, hsep, rfl⟩ := nextMember_eq_element hnext
      split at h
      · cases h
      rename_i key rest hkey
      obtain ⟨body, hbody, rfl⟩ := stringBody_eq_ok_iff.mp hkey
      split at h
      · cases h
      rename_i next isField rest' hmember
      obtain ⟨rfl, -, f, hf, -, value, set, hcolon, hread, -⟩ := memberValue_eq_ok hs hmember
      obtain ⟨behind, hbehind, rfl⟩ := colon_eq_ok hcolon
      obtain ⟨R, hR⟩ := hs.faithful f hf
      obtain ⟨before, v, t', hbefore, hv, rfl⟩ := hR.spelt hread
      obtain ⟨ms, body', gap, hms, hgap, rfl⟩ := ih h
      exact ⟨(key, v) :: ms, _, gap, .cons hsep hbody hbehind hbefore hv hms, hgap, by simp⟩

/-! ## Elements -/

theorem listEnd_eq_ok {a b : α} (h : listEnd a t = .ok (b, after)) :
    skipSpace t = ']' :: after := by
  unfold listEnd at h
  split at h
  · cases h
  · rename_i hskip
    cases h
    exact hskip
  · split at h <;> cases h
  · cases h

theorem delimited_items {vs : List Value} (h : SpellsItems false vs t) (hrest : Delimited rest) :
    Delimited (t ++ rest) := by
  cases h with
  | nil => exact hrest
  | cons hsep =>
    rw [List.append_assoc]
    exact delimited_separates hsep _

/-- No list ends in front of an element. -/
theorem skipSpace_items {vs : List Value} (h : SpellsItems first vs t) (hgap : IsGap gap)
    (hskip : skipSpace (t ++ (gap ++ ']' :: rest)) = ']' :: after) : after = rest := by
  cases h with
  | nil =>
    rw [List.nil_append, skipSpace_gap_cons hgap (by decide)] at hskip
    exact (List.cons.inj hskip).2.symm
  | @cons _ v vs sep u more hsep hv hmore =>
    cases first with
    | true =>
      rw [List.append_assoc, skipSpace_append hsep, List.append_assoc, skipSpace_spelt hv] at hskip
      obtain ⟨c, w, rfl, -, hclosing, -⟩ := hv.ne_closing
      exact absurd (List.cons.inj hskip).1 hclosing
    | false =>
      obtain ⟨before, behind, hbefore, -, rfl⟩ := hsep
      rw [List.append_assoc, List.append_assoc, List.cons_append,
        skipSpace_gap_cons hbefore (by decide)] at hskip
      cases hskip

theorem slots_follows {fields : List (Field σ)} (hfields : ∀ f ∈ fields, ∃ R, Faithful f.read R)
    {vs : List Value} {index : Nat} {state final : σ} (hvs : SpellsItems (index == 0) vs t)
    (hgap : IsGap gap)
    (h : slots s index state fields (t ++ (gap ++ ']' :: rest)) = .ok (final, after)) :
    after = rest := by
  induction fields generalizing index vs t state with
  | nil =>
    unfold slots at h
    exact skipSpace_items hvs hgap (listEnd_eq_ok h)
  | cons f fields ih =>
    unfold slots at h
    split at h
    · cases h
    · rename_i u hnext
      have hu := skipSpace_items hvs hgap (nextElement_eq_ended hnext)
      split at h
      · cases h
      · cases h
        exact hu
    · rename_i u hnext
      cases hvs with
      | nil =>
        rw [List.nil_append, nextElement_closing hgap] at hnext
        cases hnext
      | @cons _ v vs sep value more hsep hv hmore =>
        rw [List.append_assoc, List.append_assoc, nextElement_separates hsep hv] at hnext
        obtain rfl := Next.element.inj (Except.ok.inj hnext)
        split at h
        · cases h
        rename_i set rest' hread
        obtain ⟨R, hR⟩ := hfields f List.mem_cons_self
        have hends := delimited_items hmore (delimited_gap hgap (.inr (.inl rfl)) rest)
        obtain ⟨rfl, -⟩ := hR.follows hv hends hread
        have hlater : SpellsItems (index + 1 == 0) vs more := hmore
        exact ih (fun g hg => hfields g (List.mem_cons_of_mem f hg)) hlater h

theorem Separates.append_gap (h : Separates first sep) (hgap : IsGap gap) :
    Separates first (sep ++ gap) := by
  cases first with
  | true => exact IsGap.append h hgap
  | false =>
    obtain ⟨before, behind, hbefore, hbehind, rfl⟩ := h
    exact ⟨before, behind ++ gap, hbefore, hbehind.append hgap, by simp⟩

theorem spelt_closing (h : skipSpace t = ']' :: rest) (first : Bool) :
    ∃ vs body gap, SpellsItems first vs body ∧ IsGap gap ∧ t = body ++ (gap ++ ']' :: rest) := by
  obtain ⟨gap, hgap, ht⟩ := exists_gap t
  rw [h] at ht
  exact ⟨[], [], gap, .nil, hgap, ht⟩

/-- What is read as the fields of a record in order is spelt by elements. -/
theorem slots_spelt {fields : List (Field σ)} (hfields : ∀ f ∈ fields, ∃ R, Faithful f.read R)
    {index : Nat} {state final : σ} (h : slots s index state fields t = .ok (final, after)) :
    ∃ vs body gap, SpellsItems (index == 0) vs body ∧ IsGap gap ∧
      t = body ++ (gap ++ ']' :: after) := by
  induction fields generalizing index t state with
  | nil =>
    unfold slots at h
    exact spelt_closing (listEnd_eq_ok h) _
  | cons f fields ih =>
    unfold slots at h
    split at h
    · cases h
    · rename_i u hnext
      split at h
      · cases h
      · cases h
        exact spelt_closing (nextElement_eq_ended hnext) _
    · rename_i u hnext
      obtain ⟨sep, hsep, rfl⟩ := nextElement_eq_element hnext
      split at h
      · cases h
      rename_i set rest' hread
      obtain ⟨R, hR⟩ := hfields f List.mem_cons_self
      obtain ⟨before, v, t', hbefore, hv, rfl⟩ := hR.spelt hread
      obtain ⟨vs, body, gap, hvs, hgap, rfl⟩ :=
        ih (fun g hg => hfields g (List.mem_cons_of_mem f hg)) h
      exact ⟨v :: vs, _, gap, .cons (hsep.append_gap hbefore) hv hvs, hgap, by simp⟩

/-! ## Records -/

theorem record_eq_ok {state : σ} (h : record s t = .ok (state, after)) :
    (∃ u, skipSpace t = '{' :: u ∧
      members s (u.length + 1) true [] s.initial u = .ok (state, after)) ∨
    ∃ u, skipSpace t = '[' :: u ∧ slots s 0 s.initial s.fields u = .ok (state, after) := by
  unfold record at h
  split at h
  · exact .inl ⟨_, ‹_›, h⟩
  · exact .inr ⟨_, ‹_›, h⟩
  · exact absurd h mismatch_ne_ok

/-- An object that is read is read to its end. -/
theorem members_object {ms : List (Text × Value)} {fuel : Nat} {seen : List Text}
    {state final : σ} (hs : s.Strict) (hms : SpellsMembers first ms t) (hgap : IsGap gap)
    (h : members s fuel first seen state (t ++ (gap ++ '}' :: rest)) = .ok (final, after)) :
    after = rest ∧ (ms.map Prod.fst).Nodup ∧ Fed s ms state final := by
  have hrest : Delimited (gap ++ '}' :: rest) := delimited_gap hgap (.inr (.inr rfl)) rest
  obtain ⟨fuel', state', hfed, hnodup, -, hdone⟩ := members_through hs hms (fun _ => hrest) h
  cases fuel' with
  | zero => cases hdone
  | succ fuel' =>
    rw [members, nextMember_closing hgap] at hdone
    obtain ⟨rfl, rfl⟩ := completed_eq_ok hdone
    exact ⟨rfl, hnodup, hfed⟩

/-- What a record is read from: if it is an object, its keys are different and its members feed the
record. -/
def FedBy (s : Shape σ) (v : Value) (state : σ) : Prop :=
  ∀ ms, v = .object ms → (ms.map Prod.fst).Nodup ∧ Fed s ms s.initial state

theorem exists_members {ms : List (Text × Value)} (h : Spells (.object ms) t) (rest : Text) :
    ∃ body gap, SpellsMembers true ms body ∧ IsGap gap ∧
      t ++ rest = '{' :: (body ++ (gap ++ '}' :: rest)) := by
  cases h with
  | object hms hgap => exact ⟨_, _, hms, hgap, by simp⟩

theorem exists_items {vs : List Value} (h : Spells (.list vs) t) (rest : Text) :
    ∃ body gap, SpellsItems true vs body ∧ IsGap gap ∧
      t ++ rest = '[' :: (body ++ (gap ++ ']' :: rest)) := by
  cases h with
  | list hvs hgap => exact ⟨_, _, hvs, hgap, by simp⟩

/-- What a record is read from is an object or a list. -/
theorem record_spelt {state : σ} (hs : s.Strict) (h : record s t = .ok (state, after)) :
    ∃ gap v body, IsGap gap ∧ Spells v body ∧ t = gap ++ (body ++ after) ∧
      ((∃ ms, v = .object ms) ∨ ∃ vs, v = .list vs) := by
  obtain ⟨gap, hgap, ht⟩ := exists_gap t
  rcases record_eq_ok h with ⟨u, hu, hmembers⟩ | ⟨u, hu, hslots⟩
  · obtain ⟨ms, body, gap', hms, hgap', rfl⟩ := members_spelt hs hmembers
    exact ⟨gap, .object ms, _, hgap, .object hms hgap', by rw [ht, hu]; simp, .inl ⟨ms, rfl⟩⟩
  · obtain ⟨vs, body, gap', hvs, hgap', rfl⟩ := slots_spelt hs.faithful hslots
    exact ⟨gap, .list vs, _, hgap, .list hvs hgap', by rw [ht, hu]; simp, .inr ⟨vs, rfl⟩⟩

/-- A strict record is read from nothing but an object whose members feed it and have different
keys, or a list. -/
theorem faithful_record (hs : s.Strict) : Faithful (record s) (FedBy s) where
  gap hgap t := by rw [record, record, skipSpace_append hgap]
  follows := by
    intro v t rest after state ht _ hread
    obtain ⟨c, w, hcons, hc⟩ := ht.starts
    rcases record_eq_ok hread with ⟨u, hu, hmembers⟩ | ⟨u, hu, hslots⟩
    · rw [skipSpace_spelt ht, hcons] at hu
      obtain ⟨rfl, -⟩ := List.cons.inj hu
      obtain ⟨ms, rfl⟩ := (hc.kind (by decide)).2.2.2 rfl
      obtain ⟨body, gap, hms, hgap, htext⟩ := exists_members ht rest
      rw [← hcons, htext] at hu
      obtain ⟨-, rfl⟩ := List.cons.inj hu
      obtain ⟨hafter, hnodup, hfed⟩ := members_object hs hms hgap hmembers
      refine ⟨hafter, fun ms' hms' => ?_⟩
      obtain rfl := Value.object.inj hms'
      exact ⟨hnodup, hfed⟩
    · rw [skipSpace_spelt ht, hcons] at hu
      obtain ⟨rfl, -⟩ := List.cons.inj hu
      obtain ⟨vs, rfl⟩ := (hc.kind (by decide)).2.2.1 rfl
      obtain ⟨body, gap, hvs, hgap, htext⟩ := exists_items ht rest
      rw [← hcons, htext] at hu
      obtain ⟨-, rfl⟩ := List.cons.inj hu
      have hitems : SpellsItems (0 == 0) vs body := hvs
      exact ⟨slots_follows hs.faithful hitems hgap hslots, fun ms hms => by cases hms⟩
  spelt hread := by
    obtain ⟨gap, v, body, hgap, hbody, ht, -⟩ := record_spelt hs hread
    exact ⟨gap, v, body, hgap, hbody, ht⟩

/-- An object from its front up to where the next key may stand. -/
def Opened (t : Text) : Prop :=
  ∃ gap ms body sep, IsGap gap ∧ SpellsMembers true ms body ∧ Separates ms.isEmpty sep ∧
    t = gap ++ '{' :: (body ++ sep)

/-- **Every key that is reached has a field**, and the reader goes on to read the value of that
field, whatever stands behind the key. -/
theorem record_reaches {key body : Text} {final : σ} (hs : s.Strict) (hopened : Opened t)
    (hkey : SpellsString key body)
    (h : record s (t ++ '"' :: (body ++ '"' :: rest)) = .ok (final, after)) :
    ∃ f ∈ s.fields, f.name = key ∧
      ∃ value read, colon rest = .ok value ∧ f.read value = .ok read := by
  obtain ⟨gap, ms, u, sep, hgap, hms, hsep, rfl⟩ := hopened
  rw [List.append_assoc, List.cons_append, List.append_assoc] at h
  have hopen := skipSpace_gap_cons hgap (show isSpace '{' = false by decide)
    (u ++ (sep ++ '"' :: (body ++ '"' :: rest)))
  rcases record_eq_ok h with ⟨w, hw, hmembers⟩ | ⟨w, hw, -⟩
  · obtain ⟨-, rfl⟩ := List.cons.inj (hopen.symm.trans hw)
    have hrest : ms ≠ [] → Delimited (sep ++ '"' :: (body ++ '"' :: rest)) := by
      intro hne
      rw [List.isEmpty_eq_false_iff.mpr hne] at hsep
      exact delimited_separates hsep _
    obtain ⟨fuel, state, -, -, -, hnext⟩ := members_through hs hms hrest hmembers
    obtain ⟨-, f, hf, hname, -, value, set, behind, hcolon, hread, -⟩ :=
      members_key hs hsep hkey hnext
    exact ⟨f, hf, hname, value, (set, behind), hcolon, hread⟩
  · rw [hopen] at hw
    cases hw

/-! ## Documents -/

theorem document_eq_ok {item : Reader α} {a : α} (h : document item t = .ok a) :
    ∃ rest, item t = .ok (a, rest) ∧ IsGap rest := by
  unfold document at h
  split at h
  · cases h
  · rename_i b rest hitem
    split at h
    · rename_i hskip
      cases h
      obtain ⟨gap, hgap, hrest⟩ := exists_gap rest
      rw [hskip, List.append_nil] at hrest
      exact ⟨rest, hitem, hrest ▸ hgap⟩
    · cases h

theorem read_eq_ok {item : Reader α} {a : α} (h : read item t = .ok a) :
    ∃ rest, item t = .ok (a, rest) ∧ IsGap rest := by
  unfold read at h
  split at h
  · cases h
  · rename_i b hdocument
    cases h
    exact document_eq_ok hdocument

/-- What is read from a document is what the value of the document gives. -/
theorem Faithful.of_read {item : Reader α} {R : Value → α → Prop} {a : α} (h : Faithful item R)
    (ht : IsDocument v t) (hread : read item t = .ok a) : R v a := by
  obtain ⟨before, body, behind, hbefore, hbody, hbehind, rfl⟩ := ht
  obtain ⟨rest, hitem, -⟩ := read_eq_ok hread
  rw [h.gap hbefore] at hitem
  refine (h.follows hbody (fun c hc => .inl ?_) hitem).2
  exact hbehind c (List.mem_of_head? hc)

/-! ## Parts of a record -/

/-- A field is the one that a part of the record comes from, or leaves that part as it is. -/
inductive Field.Concerns (name : Text) (item : Reader α) (get : σ → α) : Field σ → Prop where
  | own {required : Bool} {set : α → σ → σ} (sets : ∀ a state, get (set a state) = a) :
      Concerns name item get (Field.of name required item set)
  | other {β : Type} {name' : Text} {required : Bool} {item' : Reader β} {set : β → σ → σ}
      (another : name' ≠ name) (keeps : ∀ b state, get (set b state) = get state) :
      Concerns name item get (Field.of name' required item' set)

theorem Field.Concerns.read_eq {name : Text} {item : Reader α} {get : σ → α} {f : Field σ}
    (h : f.Concerns name item get) (hname : f.name = name) : ∃ set, f.read = mapped set item := by
  cases h with
  | own => exact ⟨_, rfl⟩
  | other hother => exact absurd hname hother

theorem takes_mapped {β : Type} {f : α → β} {item : Reader α} {b : β}
    (h : Takes (mapped f item) v b) : ∃ a, Takes item v a ∧ f a = b := by
  obtain ⟨t, rest, ht, hrest, hread⟩ := h
  obtain ⟨a, hitem, hb⟩ := mapped_eq_ok_iff.mp hread
  exact ⟨a, ⟨t, rest, ht, hrest, hitem⟩, hb⟩

/-- A part of a record is what the member of its name says, and as it was if there is none. -/
theorem Fed.told {name : Text} {item : Reader α} {get : σ → α} {ms : List (Text × Value)}
    {state final : σ} (hfields : ∀ f ∈ s.fields, f.Concerns name item get)
    (hnodup : (ms.map Prod.fst).Nodup) (h : Fed s ms state final) :
    (∀ v, (name, v) ∈ ms → Takes item v (get final)) ∧
      (name ∉ ms.map Prod.fst → get final = get state) := by
  induction h with
  | nil => exact ⟨fun _ hv => absurd hv List.not_mem_nil, fun _ => rfl⟩
  | @cons f v ms set state final hf htakes _ ih =>
    obtain ⟨hnew, hnodup⟩ := List.nodup_cons.mp hnodup
    obtain ⟨hpresent, habsent⟩ := ih hnodup
    cases hfields f hf with
    | own hsets =>
      obtain ⟨a, ha, rfl⟩ := takes_mapped htakes
      have hfinal : get final = a := (habsent hnew).trans (hsets a state)
      refine ⟨fun u hu => ?_, fun hmem => absurd List.mem_cons_self hmem⟩
      rcases List.mem_cons.mp hu with heq | hu
      · obtain ⟨-, rfl⟩ := Prod.mk.inj heq
        rw [hfinal]
        exact ha
      · exact absurd (List.mem_map_of_mem hu) hnew
    | other hother hkeeps =>
      obtain ⟨b, -, rfl⟩ := takes_mapped htakes
      refine ⟨fun u hu => ?_, fun hmem => ?_⟩
      · rcases List.mem_cons.mp hu with heq | hu
        · exact absurd (Prod.mk.inj heq).1.symm hother
        · exact hpresent u hu
      · rw [habsent fun hin => hmem (List.mem_cons_of_mem _ hin), hkeeps]

end PrimitiveSearch.Json
