import PrimitiveSearch.Proofs.Declaration.Key

/-!
# The cut that is chosen

A text can follow the declaration grammar in several ways.  The one that counts has the longest
leading white space and, among those, the shortest return type.

* `Parts.IsChosen` — this choice, among all parts that follow the grammar and make up the text.
* `Parts.Follows.eq` — the two lengths determine all parts.
* `split?_eq_some_iff`, `split?_eq_none_iff` — the cut finds the chosen parts, whenever there are
  any.
* `Parts.IsChosen.returnType_eq_singleton` — a chosen return type that begins with white space.
* `eq_of_key_eq` — hence no two declarations of one line each share their written form.
* `parse?_chosen` — a declaration is read from its chosen parts.
-/

set_option autoImplicit false

namespace PrimitiveSearch.Declaration

open Text

variable {t u v : Text} {s : Split} {p q : Parts}

/-! ## Parts and what the cut looks for -/

/-- The parts that carry meaning. -/
def Parts.split (p : Parts) : Split := ⟨p.returnType, p.name, p.arguments⟩

/-- What stands between the name and the arguments, and around them. -/
def Parts.named (p : Parts) : Text := p.gap ++ (p.name ++ (p.beforeOpen ++ '(' :: p.arguments))

/-- What stands behind the arguments. -/
def Parts.closing (p : Parts) : Text := ')' :: (p.beforeEnd ++ ';' :: p.trail)

theorem Parts.text_eq (p : Parts) :
    p.text = (p.lead ++ (p.returnType ++ p.named)) ++ p.closing := by
  simp [Parts.text, Parts.named, Parts.closing]

theorem Parts.Follows.isNamed (h : p.Follows) : IsNamed p.named p.name p.arguments :=
  ⟨p.gap, p.beforeOpen, h.gap_ne, h.gap, h.name, h.beforeOpen, h.arguments, rfl⟩

theorem Parts.Follows.isTyped (h : p.Follows) : IsTyped (p.returnType ++ p.named) p.split :=
  ⟨h.returnType_ne, h.returnType, p.named, rfl, h.isNamed⟩

theorem Parts.Follows.beforeClose? (h : p.Follows) :
    beforeClose? p.text = some (p.lead ++ (p.returnType ++ p.named)) :=
  beforeClose?_eq_some_iff.mpr ⟨p.beforeEnd, p.trail, h.beforeEnd, h.trail, p.text_eq⟩

/-- What the cut finds are parts that follow the grammar. -/
theorem exists_parts {lead : Text} (hclose : beforeClose? t = some (lead ++ v)) (hlead : Blank lead)
    (hv : IsTyped v s) : ∃ p : Parts, p.Follows ∧ p.text = t ∧ p.lead = lead ∧ p.split = s := by
  obtain ⟨beforeEnd, trail, hend, htrail, rfl⟩ := beforeClose?_eq_some_iff.mp hclose
  obtain ⟨hne, hret, rest, rfl, gap, beforeOpen, hgap_ne, hgap, hname, hopen, hargs, rfl⟩ := hv
  refine ⟨⟨lead, s.returnType, gap, s.name, beforeOpen, s.arguments, beforeEnd, trail⟩,
    ⟨hlead, hne, hret, hgap_ne, hgap, hname, hopen, hargs, hend, htrail⟩, ?_, rfl, rfl⟩
  rw [Parts.text_eq]
  rfl

/-! ## Two lengths determine all parts -/

/-- White space in front of something else is found again. -/
theorem blank_append_inj {a b x y : Text} (ha : Blank a) (hb : Blank b)
    (hx : ∀ c, x.head? = some c → isBlank c = false)
    (hy : ∀ c, y.head? = some c → isBlank c = false) (h : a ++ x = b ++ y) : a = b ∧ x = y := by
  obtain ⟨hta, hda⟩ := takeWhile_append_stop ha hx
  obtain ⟨htb, hdb⟩ := takeWhile_append_stop hb hy
  rw [h] at hta hda
  exact ⟨hta.symm.trans htb, hda.symm.trans hdb⟩

theorem IsName.front {name : Text} (h : IsName name) (rest : Text) {c : Char}
    (hc : (name ++ rest).head? = some c) : isBlank c = false := by
  rw [List.head?_append_of_ne_nil _ h.ne_nil] at hc
  exact not_blank_of_isWord (h.isWord (List.mem_of_head? hc))

theorem front_of_cons {c : Char} (hc : isBlank c = false) (rest : Text) {d : Char}
    (hd : (c :: rest).head? = some d) : isBlank d = false := by
  cases hd
  exact hc

theorem Parts.Follows.eq (hp : p.Follows) (hq : q.Follows) (htext : p.text = q.text)
    (hlead : p.lead.length = q.lead.length)
    (hreturn : p.returnType.length = q.returnType.length) : p = q := by
  have hclose := hp.beforeClose?
  rw [htext, hq.beforeClose?, Option.some.injEq] at hclose
  rw [p.text_eq, q.text_eq, hclose] at htext
  -- behind the arguments
  obtain ⟨hend, htrail⟩ : p.beforeEnd = q.beforeEnd ∧ p.trail = q.trail := by
    obtain ⟨-, htail⟩ := List.cons.inj (List.append_cancel_left htext)
    obtain ⟨hend, htrail⟩ := blank_append_inj hp.beforeEnd hq.beforeEnd
      (fun c => front_of_cons (by decide) _) (fun c => front_of_cons (by decide) _) htail
    exact ⟨hend, (List.cons.inj htrail).2⟩
  -- in front of them
  obtain ⟨hleads, hrest⟩ := List.append_inj hclose hlead.symm
  obtain ⟨hreturns, hnamed⟩ := List.append_inj hrest hreturn.symm
  obtain ⟨hname, harguments⟩ := hp.isNamed.unique (hnamed ▸ hq.isNamed)
  obtain ⟨hgap, hafter⟩ := blank_append_inj hq.gap hp.gap (fun c => hq.name.front _)
    (fun c => hp.name.front _) hnamed
  rw [← hname] at hafter
  obtain ⟨hopen, -⟩ := blank_append_inj hq.beforeOpen hp.beforeOpen
    (fun c => front_of_cons (by decide) _) (fun c => front_of_cons (by decide) _)
    (List.append_cancel_left hafter)
  cases p
  cases q
  simp_all

/-! ## The choice -/

/-- The parts that are chosen for a text: the longest leading white space, and then the shortest
return type. -/
structure Parts.IsChosen (p : Parts) (t : Text) : Prop where
  follows : p.Follows
  text : p.text = t
  lead : ∀ q : Parts, q.Follows → q.text = t → q.lead.length ≤ p.lead.length
  returnType : ∀ q : Parts, q.Follows → q.text = t → q.lead.length = p.lead.length →
    p.returnType.length ≤ q.returnType.length

theorem Parts.IsChosen.unique (hp : p.IsChosen t) (hq : q.IsChosen t) : p = q := by
  have hlead := Nat.le_antisymm (hq.lead p hp.follows hp.text) (hp.lead q hq.follows hq.text)
  have hreturn := Nat.le_antisymm (hp.returnType q hq.follows hq.text hlead.symm)
    (hq.returnType p hp.follows hp.text hlead)
  exact hp.follows.eq hq.follows (hp.text.trans hq.text.symm) hlead hreturn

/-- A text that starts with some white space, followed by a return type, a name and arguments. -/
def IsLed (u lead : Text) (s : Split) : Prop := Blank lead ∧ ∃ v, u = lead ++ v ∧ IsTyped v s

theorem isLed_nil : IsLed u [] s ↔ IsTyped u s :=
  ⟨fun ⟨_, _, hu, h⟩ => hu ▸ h, fun h => ⟨blank_nil, u, rfl, h⟩⟩

theorem isLed_cons {c d : Char} {lead : Text} :
    IsLed (c :: u) (d :: lead) s ↔ d = c ∧ isBlank c = true ∧ IsLed u lead s := by
  constructor
  · rintro ⟨hlead, v, hu, hv⟩
    obtain ⟨rfl, rfl⟩ := List.cons.inj hu
    exact ⟨rfl, hlead c List.mem_cons_self,
      fun x hx => hlead x (List.mem_cons_of_mem _ hx), v, rfl, hv⟩
  · rintro ⟨rfl, hd, hlead, v, rfl, hv⟩
    exact ⟨fun x hx => (List.mem_cons.mp hx).elim (fun h => h ▸ hd) (hlead x), v, rfl, hv⟩

/-- What a search answers that prefers long white space and then short return types, and answers
whenever there is something to find. -/
def Prefers (u : Text) : Option Split → Prop
  | some s => ∃ lead, IsLed u lead s ∧ ∀ lead' s', IsLed u lead' s' →
      lead'.length ≤ lead.length ∧
        (lead'.length = lead.length → s.returnType.length ≤ s'.returnType.length)
  | none => ∀ lead s, ¬ IsLed u lead s

/-- Where no white space can be taken off, the shortest return type is preferred. -/
theorem prefers_typed? (h : ∀ lead s, IsLed u lead s → lead = []) : Prefers u (typed? u) := by
  have hspec := typed?_spec u
  cases htyped : typed? u with
  | none =>
    rw [htyped] at hspec
    intro lead s hs
    obtain rfl := h lead s hs
    exact hspec s (isLed_nil.mp hs)
  | some s =>
    rw [htyped] at hspec
    refine ⟨[], isLed_nil.mpr hspec.1, fun lead' s' hs' => ?_⟩
    obtain rfl := h lead' s' hs'
    exact ⟨Nat.le_refl _, fun _ => hspec.2 s' (isLed_nil.mp hs')⟩

theorem prefers_led? (u : Text) : Prefers u (led? u) := by
  induction u with
  | nil => exact prefers_typed? fun lead s ⟨_, v, hu, _⟩ => (List.append_eq_nil_iff.mp hu.symm).1
  | cons c rest ih =>
    rw [led?]
    by_cases hc : isBlank c = true
    · rw [if_pos hc]
      -- what is found behind one more blank is preferred to anything found in front of it
      cases hrest : led? rest with
      | some s =>
        rw [hrest] at ih
        obtain ⟨lead, hs, hmax⟩ := ih
        refine ⟨c :: lead, isLed_cons.mpr ⟨rfl, hc, hs⟩, fun lead' s' hs' => ?_⟩
        cases lead' with
        | nil => exact ⟨Nat.zero_le _, fun h => by cases h⟩
        | cons d lead' =>
          have hle := hmax lead' s' (isLed_cons.mp hs').2.2
          simpa only [List.length_cons, Nat.add_le_add_iff_right, Nat.add_right_cancel_iff] using hle
      | none =>
        rw [hrest] at ih
        refine prefers_typed? fun lead s hs => ?_
        cases lead with
        | nil => rfl
        | cons d lead => exact absurd (isLed_cons.mp hs).2.2 (ih lead s)
    · rw [if_neg hc]
      refine prefers_typed? fun lead s hs => ?_
      cases lead with
      | nil => rfl
      | cons d lead => exact absurd (isLed_cons.mp hs).2.1 hc

/-! ## The whole cut -/

theorem Parts.Follows.isLed (h : p.Follows) :
    IsLed (p.lead ++ (p.returnType ++ p.named)) p.lead p.split :=
  ⟨h.lead, _, rfl, h.isTyped⟩

/-- The cut finds parts that are chosen, and answers whenever the grammar can be followed. -/
theorem split?_spec (t : Text) :
    match split? t with
    | some s => ∃ p : Parts, p.IsChosen t ∧ p.split = s
    | none => ∀ p : Parts, p.Follows → p.text ≠ t := by
  cases hclose : beforeClose? t with
  | none =>
    rw [split?, hclose]
    rintro p hp rfl
    rw [hp.beforeClose?] at hclose
    cases hclose
  | some u =>
    have hled := prefers_led? u
    have hparts : ∀ q : Parts, q.Follows → q.text = t → IsLed u q.lead q.split := by
      rintro q hq rfl
      rw [hq.beforeClose?, Option.some.injEq] at hclose
      exact hclose ▸ hq.isLed
    rw [split?, hclose, Option.bind_some]
    cases hu : led? u with
    | none =>
      rw [hu] at hled
      exact fun p hp htext => hled _ _ (hparts p hp htext)
    | some s =>
      rw [hu] at hled
      obtain ⟨lead, ⟨hlead, v, rfl, hv⟩, hmax⟩ := hled
      obtain ⟨p, hp, htext, rfl, rfl⟩ := exists_parts hclose hlead hv
      exact ⟨p, ⟨hp, htext, fun q hq hqt => (hmax _ _ (hparts q hq hqt)).1,
        fun q hq hqt => (hmax _ _ (hparts q hq hqt)).2⟩, rfl⟩

theorem split?_eq_some_iff : split? t = some s ↔ ∃ p : Parts, p.IsChosen t ∧ p.split = s := by
  have hspec := split?_spec t
  constructor
  · intro h
    rwa [h] at hspec
  · rintro ⟨p, hp, rfl⟩
    cases h : split? t with
    | none =>
      rw [h] at hspec
      exact absurd hp.text (hspec p hp.follows)
    | some s =>
      rw [h] at hspec
      obtain ⟨q, hq, rfl⟩ := hspec
      rw [hq.unique hp]

theorem split?_eq_none_iff : split? t = none ↔ ∀ p : Parts, p.Follows → p.text ≠ t := by
  have hspec := split?_spec t
  constructor
  · intro h
    rwa [h] at hspec
  · intro h
    cases hs : split? t with
    | none => rfl
    | some s =>
      rw [hs] at hspec
      obtain ⟨p, hp, -⟩ := hspec
      exact absurd hp.text (h p hp.follows)

/-- A return type that begins with white space is a single blank: any more of it would have been
taken for white space in front of a shorter return type. -/
theorem Parts.IsChosen.returnType_eq_singleton {b : Char} (h : p.IsChosen t)
    (hhead : p.returnType.head? = some b) (hb : isBlank b = true) : p.returnType = [b] := by
  obtain ⟨rest, hreturn⟩ := List.head?_eq_some_iff.mp hhead
  have hp := h.follows
  by_contra hne
  have hrest : rest ≠ [] := by
    rintro rfl
    exact hne hreturn
  -- the same text with the blank in front of the return type
  let q : Parts := { p with lead := p.lead ++ [b], returnType := rest }
  have hlead : Blank q.lead := fun c hc =>
    (List.mem_append.mp hc).elim (hp.lead c) fun hc => List.mem_singleton.mp hc ▸ hb
  have hnewline : '\n' ∉ q.returnType := fun hc =>
    hp.returnType (hreturn ▸ List.mem_cons_of_mem b hc)
  have hq : q.Follows := { hp with lead := hlead, returnType_ne := hrest, returnType := hnewline }
  have htext : q.text = t := by
    rw [← h.text, Parts.text, Parts.text, hreturn]
    simp [q]
  have hlength := h.lead q hq htext
  simp only [q, List.length_append, List.length_singleton] at hlength
  omega

end PrimitiveSearch.Declaration

namespace PrimitiveSearch.Signature

open Text Declaration

/-! ## Signatures -/

variable {arguments t t' : Text} {s s' : Signature}

theorem exists_chosen (h : parse? t = some s) : ∃ p : Parts, p.IsChosen t ∧
    p.returnType = s.returnType ∧ p.name = s.name := by
  obtain ⟨arguments, hcut, -⟩ := parse?_eq_some_iff.mp h
  obtain ⟨p, hp, hsplit⟩ := split?_eq_some_iff.mp hcut
  exact ⟨p, hp, congrArg Split.returnType hsplit, congrArg Split.name hsplit⟩

theorem paren_not_mem_name (h : parse? t = some s) : '(' ∉ s.name := by
  obtain ⟨p, hp, -, hname⟩ := exists_chosen h
  rw [← hname]
  exact fun hc => absurd (hp.follows.name.isWord hc) (by decide)

/-- What stands behind the return type of a written form is read back. -/
theorem eq_of_key_tail (hs : parse? t = some s) (hs' : parse? t' = some s')
    (hreturn : s.returnType = s'.returnType) (hkey : s.key = s'.key) : s = s' := by
  rw [key_eq, key_eq, hreturn] at hkey
  have htail := (List.cons.inj (List.append_cancel_left hkey)).2
  have hcut := cutAtFirst_eq_some_iff.mpr ⟨htail, paren_not_mem_name hs'⟩
  rw [cutAtFirst_eq_some_iff.mpr ⟨rfl, paren_not_mem_name hs⟩] at hcut
  obtain ⟨hname, hjoined⟩ := Prod.mk.inj (Option.some.inj hcut)
  have harguments : s.argumentText = s'.argumentText := List.append_cancel_right hjoined
  obtain ⟨arguments, -, hps, hd⟩ := parse?_eq_some_iff.mp hs
  obtain ⟨arguments', -, hps', hd'⟩ := parse?_eq_some_iff.mp hs'
  have hread : parameters? s.argumentText = some s.parameters := parameters?_intercalate hps
  have hread' : parameters? s'.argumentText = some s'.parameters := parameters?_intercalate hps'
  rw [harguments, hread', Option.some.injEq] at hread
  cases s
  cases s'
  simp_all

/-- **Written forms tell declarations apart**, also those that begin with white space. -/
theorem eq_of_key_eq (ht : '\n' ∉ t) (ht' : '\n' ∉ t') (hs : parse? t = some s)
    (hs' : parse? t' = some s') (hkey : s.key = s'.key) : s = s' := by
  obtain ⟨p, hp, hreturn, -⟩ := exists_chosen hs
  obtain ⟨p', hp', hreturn', -⟩ := exists_chosen hs'
  have hne : s.returnType ≠ [] := hreturn ▸ hp.follows.returnType_ne
  have hne' : s'.returnType ≠ [] := hreturn' ▸ hp'.follows.returnType_ne
  have hhead : s.returnType.head? = s'.returnType.head? := by
    rw [← List.head?_append_of_ne_nil _ hne, ← key_eq, hkey, key_eq,
      List.head?_append_of_ne_nil _ hne']
  obtain ⟨b, rest, hb⟩ := List.exists_cons_of_ne_nil hne
  have hbhead : s.returnType.head? = some b := by rw [hb]; rfl
  by_cases hblank : isBlank b = true
  · refine eq_of_key_tail hs hs' ?_ hkey
    rw [← hreturn, ← hreturn', hp.returnType_eq_singleton (hreturn ▸ hbhead) hblank,
      hp'.returnType_eq_singleton (hreturn' ▸ hhead ▸ hbhead) hblank]
  · -- otherwise both are read back from their written form
    have hfront : ∀ c, s.returnType.head? = some c → isBlank c = false := by
      rintro c hc
      rw [hbhead] at hc
      cases hc
      exact Bool.not_eq_true _ ▸ hblank
    have hread := parse?_key (flush_trim ht) (parse?_trim hs hfront)
    have hread' := parse?_key (flush_trim ht') (parse?_trim hs' (hhead ▸ hfront))
    rw [hkey, hread'] at hread
    exact (Option.some.inj hread).symm

theorem nil_not_mem_argumentTexts_iff : (∀ a ∈ argumentTexts arguments, a ≠ []) ↔
    Blank arguments ∨ [] ∉ segments arguments := by
  rw [← isBlankText_iff, argumentTexts]
  by_cases hblank : isBlankText arguments = true
  · simp [hblank]
  · simp only [hblank, Bool.false_eq_true, ↓reduceIte, false_or]
    exact ⟨fun h hmem => h [] hmem rfl, fun h a ha hnil => h (hnil ▸ ha)⟩

theorem parameters?_eq_none_iff :
    parameters? arguments = none ↔ ¬ Blank arguments ∧ [] ∈ segments arguments := by
  have hsome : (∃ ps, parameters? arguments = some ps) ↔
      Blank arguments ∨ [] ∉ segments arguments := by
    rw [← nil_not_mem_argumentTexts_iff]
    simp only [parameters?_eq_some_iff, exists_and_left, exists_eq, and_true]
  rw [Option.eq_none_iff_forall_ne_some, ← not_exists, hsome, not_or, Classical.not_not]

/-- **A declaration is read from its chosen parts.**  Either the grammar cannot be followed, and
there is no signature; or exactly one choice of parts is there, and it gives the signature, unless
one of the arguments is empty. -/
theorem parse?_chosen (t : Text) :
    ((∀ p : Parts, p.Follows → p.text ≠ t) ∧ parse? t = none) ∨
    ∃ p : Parts, p.IsChosen t ∧ (∀ q : Parts, q.IsChosen t → q = p) ∧
      (parse? t = none ↔ ¬ Blank p.arguments ∧ [] ∈ segments p.arguments) ∧
      ∀ s, parse? t = some s ↔ (Blank p.arguments ∨ [] ∉ segments p.arguments) ∧
        s = ⟨p.returnType, p.name, if isBlankText p.arguments then []
          else (segments p.arguments).map Parameter.ofSegment, []⟩ := by
  cases hsplit : split? t with
  | none => exact .inl ⟨split?_eq_none_iff.mp hsplit, by rw [parse?, hsplit]; rfl⟩
  | some cut =>
    obtain ⟨p, hp, rfl⟩ := split?_eq_some_iff.mp hsplit
    have hparse : parse? t =
        (parameters? p.arguments).map fun ps => ⟨p.returnType, p.name, ps, []⟩ := by
      rw [parse?, hsplit]
      rfl
    have hnone : parse? t = none ↔ ¬ Blank p.arguments ∧ [] ∈ segments p.arguments := by
      rw [hparse, Option.map_eq_none_iff, parameters?_eq_none_iff]
    refine .inr ⟨p, hp, fun q hq => hq.unique hp, hnone, fun s => ?_⟩
    rw [hparse, Option.map_eq_some_iff, ← nil_not_mem_argumentTexts_iff]
    constructor
    · rintro ⟨ps, hps, rfl⟩
      obtain ⟨hne, rfl⟩ := parameters?_eq_some_iff.mp hps
      refine ⟨hne, ?_⟩
      rw [argumentTexts]
      split <;> rfl
    · rintro ⟨hne, rfl⟩
      refine ⟨_, parameters?_eq_some_iff.mpr ⟨hne, rfl⟩, ?_⟩
      rw [argumentTexts]
      split <;> rfl

/-- With nothing else in front of the name, one blank is the return type. -/
example : parse? "  foo();" = some ⟨" ", "foo", [], []⟩ := by decide +kernel

end PrimitiveSearch.Signature
