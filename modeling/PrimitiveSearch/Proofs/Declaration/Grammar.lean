import PrimitiveSearch.Declaration.Split
import PrimitiveSearch.Proofs.Text.Trim

/-!
# The cut of a declaration

* `IsNamed`, `IsTyped` — what `named?` and `typed?` look for, as decompositions of a text.
* `named?_eq_some_iff`, `typed?_eq_some_iff` — they find exactly that; the return type is the
  shortest one there is.
* `beforeClose?_eq_some_iff` — the end of a declaration.
* `split?_respaced` — for a declaration on one line, the cut is kept when the gaps around the name
  are written as one space and as nothing, and the arguments are exchanged for any others.
-/

set_option autoImplicit false

namespace PrimitiveSearch.Declaration

open Text

variable {t u name arguments : Text} {s s' : Split}

/-! ## Names and what follows -/

/-- A text that starts with white space, a name, and an opening parenthesis. -/
def IsNamed (t name arguments : Text) : Prop :=
  ∃ gap beforeOpen, gap ≠ [] ∧ Blank gap ∧ IsName name ∧ Blank beforeOpen ∧ '\n' ∉ arguments ∧
    t = gap ++ (name ++ (beforeOpen ++ '(' :: arguments))

theorem IsName.isWord {c : Char} (h : IsName name) (hc : c ∈ name) : isWord c = true := by
  cases name with
  | nil => cases hc
  | cons d rest =>
    rcases List.mem_cons.mp hc with rfl | hc
    · exact isWord_of_isWordStart h.1
    · exact h.2 c hc

theorem IsName.ne_nil (h : IsName name) : name ≠ [] := by
  rintro rfl
  exact h

theorem isName_takeWhile {d : Char} (hd : isWordStart d = true) (rest : Text) :
    IsName ((d :: rest).takeWhile isWord) := by
  rw [List.takeWhile_cons, if_pos (isWord_of_isWordStart hd)]
  exact ⟨hd, fun c hc => List.all_eq_true.mp List.all_takeWhile c hc⟩

theorem paren_not_blank {b : Text} (h : Blank b) : '(' ∉ b := fun hc =>
  absurd (h _ hc) (by decide)

/-- A name ends before white space and before a parenthesis. -/
theorem head_beforeOpen {b : Text} (hb : Blank b) (arguments : Text) {c : Char}
    (hc : (b ++ '(' :: arguments).head? = some c) : isWord c = false := by
  cases hw : isWord c with
  | false => rfl
  | true =>
    cases b with
    | nil =>
      cases hc
      exact absurd hw (by decide)
    | cons d rest =>
      cases hc
      exact absurd (hb c List.mem_cons_self) (by simp [not_blank_of_isWord hw])

theorem named?_sound (h : named? t = some (name, arguments)) : IsNamed t name arguments := by
  cases t with
  | nil => cases h
  | cons c rest =>
    simp only [named?] at h
    split at h
    · cases h
    rename_i hc
    split at h
    · cases h
    rename_i d more hbody
    split at h
    · cases h
    rename_i hd
    split at h
    · rename_i args hopen
      split at h
      · cases h
      rename_i hargs
      obtain ⟨rfl, rfl⟩ : (d :: more).takeWhile isWord = name ∧ args = arguments := by
        rw [hbody] at h
        simpa using h
      obtain ⟨b, hb, hrest⟩ := exists_trimFront rest
      obtain ⟨o, ho, hafter⟩ := exists_trimFront ((d :: more).dropWhile isWord)
      rw [hbody] at hopen
      rw [hopen] at hafter
      refine ⟨c :: b, o, by simp, ?_, isName_takeWhile (by simpa using hd) more, ho,
        by simpa using hargs, ?_⟩
      · intro x hx
        rcases List.mem_cons.mp hx with rfl | hx
        · simpa using hc
        · exact hb x hx
      · rw [← hafter, List.takeWhile_append_dropWhile, ← hbody, List.cons_append, ← hrest]
    · cases h

theorem named?_complete (h : IsNamed t name arguments) : named? t = some (name, arguments) := by
  obtain ⟨gap, o, hne, hgap, hname, ho, hargs, rfl⟩ := h
  obtain ⟨c, g, rfl⟩ := List.exists_cons_of_ne_nil hne
  obtain ⟨d, more, rfl⟩ := List.exists_cons_of_ne_nil hname.ne_nil
  have hbody : trimFront (g ++ (d :: more ++ (o ++ '(' :: arguments))) =
      d :: more ++ (o ++ '(' :: arguments) := by
    rw [trimFront_append fun x hx => hgap x (List.mem_cons_of_mem _ hx)]
    refine trimFront_eq_self fun x hx => ?_
    cases hx
    exact not_blank_of_isWord (hname.isWord List.mem_cons_self)
  obtain ⟨htake, hdrop⟩ := takeWhile_append_stop (fun x hx => hname.isWord hx)
    fun x hx => head_beforeOpen ho arguments hx
  have hopen : trimFront (o ++ '(' :: arguments) = '(' :: arguments := by
    rw [trimFront_append ho]
    exact trimFront_eq_self fun x hx => by cases hx; decide
  rw [List.cons_append, named?, hbody, hgap c List.mem_cons_self]
  simp only [List.cons_append] at htake hdrop ⊢
  simp [hname.1, htake, hdrop, hopen, hargs]

theorem named?_eq_some_iff : named? t = some (name, arguments) ↔ IsNamed t name arguments :=
  ⟨named?_sound, named?_complete⟩

/-- How a text is read as a name and arguments leaves no choice. -/
theorem IsNamed.unique {name' arguments' : Text} (h : IsNamed t name arguments)
    (h' : IsNamed t name' arguments') : name = name' ∧ arguments = arguments' := by
  have := (named?_complete h).symm.trans (named?_complete h')
  simpa using this

/-! ## Return types -/

/-- A text that starts with a return type, followed by a name and arguments. -/
def IsTyped (t : Text) (s : Split) : Prop :=
  s.returnType ≠ [] ∧ '\n' ∉ s.returnType ∧
    ∃ rest, t = s.returnType ++ rest ∧ IsNamed rest s.name s.arguments

theorem IsTyped.unique (h : IsTyped t s) (h' : IsTyped t s')
    (hl : s.returnType.length = s'.returnType.length) : s = s' := by
  obtain ⟨_, _, rest, rfl, hn⟩ := h
  obtain ⟨_, _, rest', ht, hn'⟩ := h'
  obtain ⟨hr, rfl⟩ := List.append_inj ht hl
  obtain ⟨hname, hargs⟩ := hn.unique hn'
  cases s
  cases s'
  simp_all

/-- A return type of one character leaves a name; a longer one leaves a shorter return type. -/
theorem isTyped_cons {c : Char} : IsTyped (c :: t) s ↔ c ≠ '\n' ∧
    ((s.returnType = [c] ∧ IsNamed t s.name s.arguments) ∨
      ∃ r, s.returnType = c :: r ∧ IsTyped t { s with returnType := r }) := by
  constructor
  · rintro ⟨hne, hnl, rest, ht, hn⟩
    obtain ⟨d, r, hr⟩ := List.exists_cons_of_ne_nil hne
    rw [hr] at ht hnl
    obtain ⟨rfl, rfl⟩ := List.cons.inj ht
    rw [List.mem_cons, not_or] at hnl
    refine ⟨Ne.symm hnl.1, ?_⟩
    by_cases hr0 : r = []
    · subst hr0
      exact .inl ⟨hr, hn⟩
    · exact .inr ⟨r, hr, hr0, hnl.2, rest, rfl, hn⟩
  · rintro ⟨hc, ⟨hr, hn⟩ | ⟨r, hr, _, hnl, rest, rfl, hn⟩⟩
    · exact ⟨by simp [hr], by simpa [hr] using Ne.symm hc, t, by simp [hr], hn⟩
    · refine ⟨by simp [hr], ?_, rest, by simp [hr], hn⟩
      rw [hr, List.mem_cons, not_or]
      exact ⟨Ne.symm hc, hnl⟩

/-- `typed?` answers with the shortest return type, and answers whenever there is one. -/
theorem typed?_spec (t : Text) :
    match typed? t with
    | some s => IsTyped t s ∧ ∀ s', IsTyped t s' → s.returnType.length ≤ s'.returnType.length
    | none => ∀ s', ¬ IsTyped t s' := by
  induction t with
  | nil =>
    rintro s ⟨hne, _, rest, ht, _⟩
    exact hne (List.append_eq_nil_iff.mp ht.symm).1
  | cons c rest ih =>
    rw [typed?]
    by_cases hc : c = '\n'
    · rw [if_pos hc]
      intro s h
      exact (isTyped_cons.mp h).1 hc
    · rw [if_neg hc]
      cases hn : named? rest with
      | some found =>
        obtain ⟨name, arguments⟩ := found
        refine ⟨isTyped_cons.mpr ⟨hc, .inl ⟨rfl, named?_sound hn⟩⟩, fun s' h => ?_⟩
        exact List.length_pos_iff.mpr h.1
      | none =>
        -- a single character is no return type, so every one goes on in the rest
        have hlonger : ∀ s', IsTyped (c :: rest) s' →
            ∃ r, s'.returnType = c :: r ∧ IsTyped rest { s' with returnType := r } := by
          intro s' h
          rcases (isTyped_cons.mp h).2 with ⟨_, hn'⟩ | h
          · rw [named?_complete hn'] at hn
            cases hn
          · exact h
        cases hr : typed? rest with
        | none =>
          rw [hr] at ih
          intro s' h
          obtain ⟨r, _, h'⟩ := hlonger s' h
          exact ih _ h'
        | some s =>
          rw [hr] at ih
          refine ⟨isTyped_cons.mpr ⟨hc, .inr ⟨s.returnType, rfl, ih.1⟩⟩, fun s' h => ?_⟩
          obtain ⟨r, hr', h'⟩ := hlonger s' h
          have := ih.2 _ h'
          simp only [hr', List.length_cons] at this ⊢
          omega

theorem typed?_eq_some_iff : typed? t = some s ↔
    IsTyped t s ∧ ∀ s', IsTyped t s' → s.returnType.length ≤ s'.returnType.length := by
  have hspec := typed?_spec t
  constructor
  · intro h
    rwa [h] at hspec
  · rintro ⟨h, hmin⟩
    cases ht : typed? t with
    | none =>
      rw [ht] at hspec
      exact absurd h (hspec s)
    | some s' =>
      rw [ht] at hspec
      rw [hspec.1.unique h (Nat.le_antisymm (hspec.2 s h) (hmin s' hspec.1))]

/-! ## The end of a declaration -/

theorem beforeClose?_eq_some_iff : beforeClose? t = some u ↔
    ∃ beforeEnd trail, Blank beforeEnd ∧ Blank trail ∧
      t = u ++ ')' :: (beforeEnd ++ ';' :: trail) := by
  constructor
  · intro h
    obtain ⟨v, hv, hu⟩ := Option.bind_eq_some_iff.mp h
    obtain ⟨trail, htrail, ht⟩ := exists_trimBack t
    obtain ⟨beforeEnd, hend, hv'⟩ := exists_trimBack v
    rw [beforeLast?_eq_some_iff.mp hv] at ht
    rw [beforeLast?_eq_some_iff.mp hu] at hv'
    refine ⟨beforeEnd, trail, hend, htrail, ?_⟩
    rw [ht, hv']
    simp
  · rintro ⟨beforeEnd, trail, hend, htrail, rfl⟩
    have hfront : trimBack (u ++ ')' :: (beforeEnd ++ ';' :: trail)) =
        (u ++ ')' :: beforeEnd) ++ [';'] := by
      rw [show u ++ ')' :: (beforeEnd ++ ';' :: trail) =
        ((u ++ ')' :: beforeEnd) ++ [';']) ++ trail by simp, trimBack_append _ htrail]
      refine trimBack_eq_self fun c hc => ?_
      rw [List.getLast?_append_of_ne_nil _ (by simp)] at hc
      cases hc
      decide
    have hclose : trimBack (u ++ ')' :: beforeEnd) = u ++ [')'] := by
      rw [show u ++ ')' :: beforeEnd = (u ++ [')']) ++ beforeEnd by simp, trimBack_append _ hend]
      refine trimBack_eq_self fun c hc => ?_
      rw [List.getLast?_append_of_ne_nil _ (by simp)] at hc
      cases hc
      decide
    rw [beforeClose?, hfront, beforeLast?_append]
    show beforeLast? ')' (trimBack (u ++ ')' :: beforeEnd)) = some u
    rw [hclose, beforeLast?_append]

/-- White space in front of a text is taken off whenever that leaves a cut. -/
theorem led?_append {b : Text} (hb : Blank b) (h : led? t = some s) : led? (b ++ t) = some s := by
  induction b with
  | nil => exact h
  | cons c b ih =>
    rw [List.cons_append, led?, if_pos (hb c List.mem_cons_self),
      ih fun d hd => hb d (List.mem_cons_of_mem c hd)]

/-- Where the return type does not begin with white space, all of it was taken off. -/
theorem led?_of_append {b : Text} (hb : Blank b) (h : led? (b ++ t) = some s)
    (hfront : ∀ c, s.returnType.head? = some c → isBlank c = false) : led? t = some s := by
  induction b with
  | nil => exact h
  | cons c b ih =>
    have hc : isBlank c = true := hb c List.mem_cons_self
    rw [List.cons_append, led?, if_pos hc] at h
    split at h
    · rename_i s' hs'
      cases h
      exact ih (fun d hd => hb d (List.mem_cons_of_mem c hd)) hs'
    · have hhead : s.returnType.head? = some c := by
        rcases (isTyped_cons.mp (typed?_eq_some_iff.mp h).1).2 with ⟨hr, -⟩ | ⟨r, hr, -⟩ <;>
          rw [hr] <;> rfl
      rw [hfront c hhead] at hc
      cases hc

/-- No white space is taken off a text that begins with none. -/
theorem led?_eq_typed? (h : ∀ c, t.head? = some c → isBlank c = false) : led? t = typed? t := by
  cases t with
  | nil => rfl
  | cons c rest => rw [led?, h c rfl]; rfl

/-! ## Other gaps and other arguments -/

/-- White space, a name and more white space that end in ` name` have only white space before
it. -/
theorem blank_of_ends_in_name {r gap beforeOpen name' : Text} (hgap : Blank gap)
    (hopen : Blank beforeOpen) (hname : IsName name) (hname' : IsName name')
    (h : r ++ ' ' :: name = gap ++ (name' ++ beforeOpen)) : Blank r := by
  obtain ⟨d, more, rfl⟩ := List.exists_cons_of_ne_nil hname.ne_nil
  have hd : d ∉ beforeOpen := fun hc => by
    have := not_blank_of_isWord (hname.isWord (List.mem_cons_self (a := d)))
    rw [hopen d hc] at this
    cases this
  rcases List.append_eq_append_iff.mp h with ⟨back, rfl, -⟩ | ⟨back, rfl, hback⟩
  · exact fun c hc => hgap c (List.mem_append_left _ hc)
  · -- the space before the name would stand in `name'`, or the name in `beforeOpen`
    exfalso
    rcases List.append_eq_append_iff.mp hback.symm with ⟨cs, rfl, ho⟩ | ⟨cs, rfl, ho⟩
    · cases cs with
      | nil =>
        rw [List.nil_append] at ho
        exact hd (ho ▸ by simp)
      | cons c cs =>
        obtain ⟨rfl, -⟩ := List.cons.inj ho
        exact absurd (hname'.isWord (c := ' ') (by simp)) (by decide)
    · exact hd (ho ▸ by simp)

/-- Writing the gaps anew cannot make a name appear earlier: if one appears after a part `r` of
the return type, then one does with the old gaps too. -/
theorem IsNamed.of_respaced {r gap beforeOpen new name' new' : Text} (hgap_ne : gap ≠ [])
    (hgap : Blank gap) (hname : IsName name) (hopen : Blank beforeOpen)
    (hnl : '\n' ∉ r ++ (gap ++ (name ++ (beforeOpen ++ '(' :: arguments))))
    (h : IsNamed (r ++ (' ' :: (name ++ '(' :: new))) name' new') :
    ∃ name'' arguments'', IsNamed (r ++ (gap ++ (name ++ (beforeOpen ++ '(' :: arguments))))
      name'' arguments'' := by
  obtain ⟨gap', open', hgap_ne', hgap', hname', hopen', hnew', heq⟩ := h
  have hparen : '(' ∉ gap' ++ (name' ++ open') := by
    simp only [List.mem_append, not_or]
    exact ⟨paren_not_blank hgap', fun hc => absurd (hname'.isWord hc) (by decide),
      paren_not_blank hopen'⟩
  have hcut := cutAtFirst_eq_some_iff.mpr
    ⟨heq.trans (by simp : _ = (gap' ++ (name' ++ open')) ++ '(' :: new'), hparen⟩
  by_cases hin : '(' ∈ r
  · -- the parenthesis stands within the return type: everything up to it is unchanged
    obtain ⟨front, back, rfl, hfront⟩ := List.eq_append_cons_of_mem hin
    rw [List.append_assoc, List.cons_append, cutAtFirst_eq_some_iff.mpr ⟨rfl, hfront⟩] at hcut
    simp only [Option.some.injEq, Prod.mk.injEq] at hcut
    obtain ⟨rfl, -⟩ := hcut
    rw [List.append_assoc, List.cons_append] at hnl
    exact ⟨name', back ++ (gap ++ (name ++ (beforeOpen ++ '(' :: arguments))), gap', open',
      hgap_ne', hgap', hname', hopen',
      fun hc => hnl (List.mem_append_right _ (List.mem_cons_of_mem _ hc)), by simp⟩
  · -- the parenthesis is the one after the name, so `r` is nothing but white space
    have hfront : '(' ∉ r ++ ' ' :: name := by
      simp only [List.mem_append, List.mem_cons, not_or]
      exact ⟨hin, by decide, fun hc => absurd (hname.isWord hc) (by decide)⟩
    rw [show r ++ ' ' :: (name ++ '(' :: new) = (r ++ ' ' :: name) ++ '(' :: new by simp,
      cutAtFirst_eq_some_iff.mpr ⟨rfl, hfront⟩] at hcut
    simp only [Option.some.injEq, Prod.mk.injEq] at hcut
    have hr := blank_of_ends_in_name hgap' hopen' hname hname' hcut.1
    refine ⟨name, arguments, r ++ gap, beforeOpen, by simp [hgap_ne], ?_, hname, hopen,
      fun hc => hnl (by simp [hc]), by simp⟩
    intro c hc
    exact (List.mem_append.mp hc).elim (hr c) (hgap c)

/-- With one space before the name, none after it and other arguments, the cut gives the same
return type and the same name. -/
theorem typed?_respaced {new : Text} (hnl : '\n' ∉ t) (hnew : '\n' ∉ new)
    (h : typed? t = some s) :
    typed? (s.returnType ++ (' ' :: (s.name ++ '(' :: new))) =
      some ⟨s.returnType, s.name, new⟩ := by
  obtain ⟨⟨hne, hret, rest, rfl, gap, beforeOpen, hgap_ne, hgap, hname, hopen, hargs, rfl⟩, hmin⟩ :=
    typed?_eq_some_iff.mp h
  rw [typed?_eq_some_iff]
  refine ⟨⟨hne, hret, _, rfl, [' '], [], by simp, blank_singleton rfl, hname, blank_nil, hnew,
    by simp⟩, fun s' h' => ?_⟩
  obtain ⟨hne', hret', rest', ht', hn'⟩ := h'
  rcases List.append_eq_append_iff.mp ht' with ⟨r, hr, -⟩ | ⟨r, hr, rfl⟩
  · simp [hr]
  · rw [hr, List.append_assoc] at hnl
    obtain ⟨name'', arguments'', hnamed⟩ := hn'.of_respaced hgap_ne hgap hname hopen
      fun hc => hnl (List.mem_append_right _ hc)
    refine hmin ⟨s'.returnType, name'', arguments''⟩ ⟨hne', hret', _, ?_, hnamed⟩
    rw [hr, List.append_assoc]

/-! ## White space around a declaration -/

theorem split?_of_trim (h : split? (trim t) = some s) : split? t = some s := by
  obtain ⟨v, hclose, hled⟩ := Option.bind_eq_some_iff.mp h
  obtain ⟨beforeEnd, trail, hend, htrail, hv⟩ := beforeClose?_eq_some_iff.mp hclose
  obtain ⟨a, b, ha, hb, ht⟩ := exists_trim t
  have hclose' : beforeClose? t = some (a ++ v) := by
    refine beforeClose?_eq_some_iff.mpr ⟨beforeEnd, trail ++ b, hend, ?_, ?_⟩
    · exact fun c hc => (List.mem_append.mp hc).elim (htrail c) (hb c)
    · rw [ht, hv]
      simp
  rw [split?, hclose']
  exact led?_append ha hled

/-- Trimming takes nothing off a return type that does not begin with white space. -/
theorem split?_trim (h : split? t = some s)
    (hfront : ∀ c, s.returnType.head? = some c → isBlank c = false) :
    split? (trim t) = some s := by
  obtain ⟨u, hclose, hled⟩ := Option.bind_eq_some_iff.mp h
  obtain ⟨beforeEnd, trail, hend, htrail, rfl⟩ := beforeClose?_eq_some_iff.mp hclose
  obtain ⟨b, hb, hu⟩ := exists_trimFront u
  have hclosing : Trimmed (')' :: (beforeEnd ++ [';'])) := by
    refine ⟨fun c hc => ?_, fun c hc => ?_⟩
    · cases hc
      decide
    · rw [← List.cons_append, List.getLast?_concat] at hc
      cases hc
      decide
  have htrim : trim (u ++ ')' :: (beforeEnd ++ ';' :: trail)) =
      trimFront u ++ ')' :: (beforeEnd ++ [';']) := by
    have := trim_append_append u hclosing (List.cons_ne_nil _ _) trail
    rw [trimBack_eq_nil_of_blank htrail, List.append_nil] at this
    rw [← this]
    simp
  rw [hu] at hled
  rw [htrim, split?, beforeClose?_eq_some_iff.mpr ⟨beforeEnd, [], hend, blank_nil, rfl⟩]
  exact led?_of_append hb hled hfront

/-! ## Declarations on one line -/

/-- A text on one line that does not begin with white space. -/
structure Flush (t : Text) : Prop where
  inside : '\n' ∉ t
  front : ∀ c, t.head? = some c → isBlank c = false

theorem flush_trim (h : '\n' ∉ t) : Flush (trim t) :=
  ⟨fun hc => h (mem_of_mem_trim hc), (trimmed_trim t).front⟩

/-- Such a declaration begins with its return type. -/
theorem Flush.typed (ht : Flush t) (h : split? t = some s) :
    ∃ u rest, t = u ++ rest ∧ typed? u = some s := by
  obtain ⟨u, hclose, hled⟩ := Option.bind_eq_some_iff.mp h
  obtain ⟨beforeEnd, trail, -, -, rfl⟩ := beforeClose?_eq_some_iff.mp hclose
  refine ⟨u, _, rfl, ?_⟩
  have hu : u ≠ [] := by
    rintro rfl
    cases hled
  rwa [← led?_eq_typed? fun c hc => ht.front c (by rwa [List.head?_append_of_ne_nil _ hu])]

theorem Flush.isTyped (ht : Flush t) (h : split? t = some s) :
    ∃ u rest, t = u ++ rest ∧ IsTyped u s := by
  obtain ⟨u, rest, rfl, hu⟩ := ht.typed h
  exact ⟨u, rest, rfl, (typed?_eq_some_iff.mp hu).1⟩

theorem Flush.returnType_isPrefix (ht : Flush t) (h : split? t = some s) : s.returnType <+: t := by
  obtain ⟨u, rest, rfl, -, -, after, rfl, -⟩ := ht.isTyped h
  exact ⟨after ++ rest, by simp⟩

/-- Something stands after the return type. -/
theorem Flush.returnType_isPrefix_of_concat {c : Char} (ht : Flush (t ++ [c]))
    (h : split? (t ++ [c]) = some s) : s.returnType <+: t := by
  rcases List.prefix_concat_iff.mp (ht.returnType_isPrefix h) with heq | hpre
  · obtain ⟨u, rest, hu, -, -, after, rfl, gap, beforeOpen, -, -, -, -, -, rfl⟩ := ht.isTyped h
    rw [← heq] at hu
    have := congrArg List.length hu
    simp only [List.length_append, List.length_cons] at this
    omega
  · exact hpre

/-- The return type begins as the declaration does, so not with white space. -/
theorem Flush.front_returnType (ht : Flush t) (h : split? t = some s) {c : Char}
    (hc : s.returnType.head? = some c) : isBlank c = false := by
  obtain ⟨u, rest, rfl, hne, -⟩ := ht.isTyped h
  obtain ⟨after, hafter⟩ := ht.returnType_isPrefix h
  apply ht.front c
  rw [← hafter, List.head?_append_of_ne_nil _ hne, hc]

/-- **The cut survives new gaps and new arguments**: with one space before the name and none
elsewhere, the same return type and the same name are found. -/
theorem split?_respaced {new : Text} (ht : Flush t) (hnew : '\n' ∉ new)
    (h : split? t = some s) :
    split? (s.returnType ++ (' ' :: (s.name ++ '(' :: (new ++ ");".toList)))) =
      some ⟨s.returnType, s.name, new⟩ := by
  obtain ⟨u, rest, rfl, hu⟩ := ht.typed h
  have hclose : beforeClose? (s.returnType ++ (' ' :: (s.name ++ '(' :: (new ++ ");".toList)))) =
      some (s.returnType ++ (' ' :: (s.name ++ '(' :: new))) :=
    beforeClose?_eq_some_iff.mpr ⟨[], [], blank_nil, blank_nil, by simp⟩
  have hfront : ∀ c, (s.returnType ++ (' ' :: (s.name ++ '(' :: new))).head? = some c →
      isBlank c = false := by
    intro c hc
    rw [List.head?_append_of_ne_nil _ (typed?_eq_some_iff.mp hu).1.1] at hc
    exact ht.front_returnType h hc
  rw [split?, hclose]
  show led? _ = _
  rw [led?_eq_typed? hfront]
  exact typed?_respaced (fun hc => ht.inside (List.mem_append_left _ hc)) hnew hu

end PrimitiveSearch.Declaration
