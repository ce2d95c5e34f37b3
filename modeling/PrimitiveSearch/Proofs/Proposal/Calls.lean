import PrimitiveSearch.Proofs.Declaration.Grammar
import PrimitiveSearch.Proposal.Check

/-!
# The calls in a text

A call is a name in front of an opening parenthesis, white space aside, that is not the end of a
longer word.  Calls may be nested, so they are told apart by the places of their parentheses.

* `CallAt` — a call, by the place of its parenthesis and the name in front of it.
* `callAt_cons`, `callAt_append` — the calls of a text by those behind its first character or word.
* `Lists` — a list of all places and names with a property, in text order; `Lists.eq` says that
  there is only one.
* `exists_lists_calls` — `calls` names every call of a text once, in text order.
-/

set_option autoImplicit false

namespace PrimitiveSearch.Proposal

open Text Declaration

variable {t u run name : Text} {place : Nat}

/-! ## Places -/

/-- A call: a name that no word character stands in front of, and an opening parenthesis at a
place, with nothing but white space between them. -/
def CallAt (t : Text) (place : Nat) (name : Text) : Prop :=
  ∃ front gap back, t = front ++ (name ++ (gap ++ '(' :: back)) ∧
    place = front.length + (name.length + gap.length) ∧
    (∀ c, front.getLast? = some c → isWord c = false) ∧ IsName name ∧ Blank gap

/-- No call begins with a character that words are not made of. -/
theorem callAt_cons {c : Char} (hc : isWord c = false) :
    CallAt (c :: t) place name ↔ ∃ i, place = 1 + i ∧ CallAt t i name := by
  constructor
  · rintro ⟨front, gap, back, ht, rfl, hfront, hname, hgap⟩
    cases front with
    | nil =>
      obtain ⟨d, more, rfl⟩ := List.exists_cons_of_ne_nil hname.ne_nil
      obtain ⟨rfl, -⟩ := List.cons.inj ht
      rw [hname.isWord List.mem_cons_self] at hc
      cases hc
    | cons d front =>
      obtain ⟨rfl, rfl⟩ := List.cons.inj ht
      refine ⟨front.length + (name.length + gap.length), ?_, front, gap, back, rfl, rfl, ?_, hname,
        hgap⟩
      · rw [List.length_cons]
        omega
      · intro x hx
        apply hfront x
        rw [List.getLast?_cons, hx]
        rfl
  · rintro ⟨i, rfl, front, gap, back, rfl, rfl, hfront, hname, hgap⟩
    refine ⟨c :: front, gap, back, rfl, ?_, fun x hx => ?_, hname, hgap⟩
    · rw [List.length_cons]
      omega
    · rw [List.getLast?_cons, Option.some.injEq] at hx
      cases hlast : front.getLast? with
      | none =>
        rw [hlast] at hx
        exact hx ▸ hc
      | some y =>
        rw [hlast] at hx
        exact hx ▸ hfront y hlast

/-- A parenthesis that opens the arguments of a word at the front of a text, white space aside. -/
def OpensAt (u : Text) (place : Nat) : Prop :=
  ∃ gap back, u = gap ++ '(' :: back ∧ Blank gap ∧ place = gap.length

/-- A whole word at the front of a text is called by the parenthesis behind it, or not at all. -/
theorem callAt_append (hne : run ≠ []) (hrun : ∀ c ∈ run, isWord c = true)
    (hu : ∀ c, u.head? = some c → isWord c = false) : CallAt (run ++ u) place name ↔
      (∃ i, OpensAt u i ∧ IsName run ∧ place = run.length + i ∧ name = run) ∨
        ∃ i, place = run.length + i ∧ CallAt u i name := by
  constructor
  · rintro ⟨front, gap, back, ht, rfl, hfront, hname, hgap⟩
    rcases List.append_eq_append_iff.mp ht with ⟨more, rfl, rfl⟩ | ⟨more, rfl, hmore⟩
    · -- the name stands behind the word, and not directly
      refine .inr ⟨more.length + (name.length + gap.length), ?_, more, gap, back, rfl, rfl,
        fun c hc => hfront c ?_, hname, hgap⟩
      · rw [List.length_append]
        omega
      · have hmore : more ≠ [] := by
          rintro rfl
          cases hc
        rwa [List.getLast?_append_of_ne_nil _ hmore]
    · -- the name begins within the word, hence with it
      obtain rfl : front = [] := by
        by_contra hfront_ne
        have hlast := List.getLast?_eq_some_getLast hfront_ne
        have hword := hrun _ (List.mem_append_left more (List.getLast_mem hfront_ne))
        rw [hfront _ hlast] at hword
        cases hword
      obtain ⟨hname_eq, hrest⟩ := takeWhile_append_stop (fun c hc => hname.isWord hc)
        fun c hc => head_beforeOpen hgap back hc
      obtain ⟨hrun_eq, hu_eq⟩ := takeWhile_append_stop hrun hu
      rw [ht] at hrun_eq hu_eq
      obtain rfl : name = more := hname_eq.symm.trans hrun_eq
      refine .inl ⟨gap.length, ⟨gap, back, hu_eq.symm.trans hrest, hgap, rfl⟩, hname, ?_, rfl⟩
      rw [List.length_nil, Nat.zero_add]
      rfl
  · rintro (⟨_, ⟨gap, back, rfl, hgap, rfl⟩, hname, rfl, rfl⟩ | ⟨i, rfl, h⟩)
    · exact ⟨[], gap, back, rfl, (Nat.zero_add _).symm, (fun _ hc => by cases hc), hname, hgap⟩
    · obtain ⟨front, gap, back, rfl, rfl, hfront, hname, hgap⟩ := h
      have hfront_ne : front ≠ [] := by
        rintro rfl
        obtain ⟨d, more, rfl⟩ := List.exists_cons_of_ne_nil hname.ne_nil
        have hd := hname.isWord (List.mem_cons_self (a := d))
        rw [hu d rfl] at hd
        cases hd
      refine ⟨run ++ front, gap, back, (List.append_assoc ..).symm, ?_, fun c hc => ?_, hname, hgap⟩
      · rw [List.length_append]
        omega
      · rw [List.getLast?_append_of_ne_nil _ hfront_ne] at hc
        exact hfront c hc

theorem not_callAt_nil : ¬ CallAt [] place name := by
  rintro ⟨front, gap, back, ht, -⟩
  simp at ht

/-- A word character stands in front of the parenthesis of a call. -/
theorem CallAt.exists_word (h : CallAt t place name) : ∃ c ∈ t.take place, isWord c = true := by
  obtain ⟨front, gap, back, rfl, rfl, -, hname, -⟩ := h
  obtain ⟨d, more, rfl⟩ := List.exists_cons_of_ne_nil hname.ne_nil
  refine ⟨d, ?_, hname.isWord List.mem_cons_self⟩
  have ht : front ++ (d :: more ++ (gap ++ '(' :: back)) =
      (front ++ (d :: more ++ gap)) ++ '(' :: back := by simp
  have hplace : front.length + ((d :: more).length + gap.length) =
      (front ++ (d :: more ++ gap)).length := by simp only [List.length_append]
  rw [ht, hplace, List.take_left]
  simp

theorem OpensAt.unique {i j : Nat} (hi : OpensAt u i) (hj : OpensAt u j) : i = j := by
  obtain ⟨gap, back, rfl, hgap, rfl⟩ := hi
  obtain ⟨gap', back', h, hgap', rfl⟩ := hj
  have hopen : ∀ (back : Text) c, ('(' :: back).head? = some c → isBlank c = false := by
    rintro back c ⟨⟩
    decide
  obtain ⟨hfront, -⟩ := takeWhile_append_stop hgap (hopen back)
  obtain ⟨hfront', -⟩ := takeWhile_append_stop hgap' (hopen back')
  rw [h, hfront'] at hfront
  rw [hfront]

/-- The parenthesis that opens a text, white space aside, comes before those of its calls. -/
theorem OpensAt.lt_of_callAt {i : Nat} (hi : OpensAt u i) (h : CallAt u place name) :
    i < place := by
  obtain ⟨gap, back, rfl, hgap, rfl⟩ := hi
  by_contra hle
  obtain ⟨c, hc, hword⟩ := h.exists_word
  rw [List.take_append_of_le_length (Nat.le_of_not_lt hle)] at hc
  have hblank := hgap c (List.mem_of_mem_take hc)
  rw [not_blank_of_isWord hword] at hblank
  cases hblank

/-! ## All calls in order -/

/-- A list of all places and names that have a property, by increasing places. -/
structure Lists (P : Nat → Text → Prop) (sites : List (Nat × Text)) : Prop where
  ordered : sites.Pairwise fun a b => a.1 < b.1
  exact : ∀ place name, (place, name) ∈ sites ↔ P place name

variable {P Q : Nat → Text → Prop} {sites sites' : List (Nat × Text)}

theorem Lists.nodup (h : Lists P sites) : sites.Nodup := by
  refine h.ordered.imp ?_
  rintro a b hlt rfl
  exact Nat.lt_irrefl _ hlt

/-- There is only one such list. -/
theorem Lists.eq (h : Lists P sites) (h' : Lists P sites') : sites = sites' := by
  have hperm : sites.Perm sites' := (List.perm_ext_iff_of_nodup h.nodup h'.nodup).mpr
    fun ⟨place, name⟩ => (h.exact place name).trans (h'.exact place name).symm
  exact hperm.eq_of_pairwise (fun a b _ _ hab hba => absurd hba (Nat.lt_asymm hab))
    h.ordered h'.ordered

theorem Lists.filter {keep : Text → Bool} (h : Lists P sites)
    (hQ : ∀ place name, Q place name ↔ P place name ∧ keep name = true) :
    Lists Q (sites.filter fun x => keep x.2) := by
  refine ⟨h.ordered.sublist List.filter_sublist, fun place name => ?_⟩
  rw [List.mem_filter, h.exact, hQ]

theorem Lists.cons (first : Nat) (word : Text) (h : Lists P sites)
    (hfirst : ∀ place name, P place name → first < place)
    (hQ : ∀ place name, Q place name ↔ (place = first ∧ name = word) ∨ P place name) :
    Lists Q ((first, word) :: sites) := by
  refine ⟨List.pairwise_cons.mpr ⟨fun x hx => ?_, h.ordered⟩, fun place name => ?_⟩
  · exact hfirst x.1 x.2 ((h.exact x.1 x.2).mp hx)
  · rw [List.mem_cons, Prod.mk.injEq, h.exact, hQ]

/-- A place further back by a given distance. -/
def moved (k : Nat) (site : Nat × Text) : Nat × Text := (k + site.1, site.2)

theorem Lists.moved {k : Nat} (h : Lists P sites)
    (hQ : ∀ place name, Q place name ↔ ∃ i, place = k + i ∧ P i name) :
    Lists Q (sites.map (moved k)) := by
  refine ⟨List.pairwise_map.mpr (h.ordered.imp fun hlt => Nat.add_lt_add_left hlt k), ?_⟩
  intro place name
  rw [hQ, List.mem_map]
  constructor
  · rintro ⟨⟨i, w⟩, hi, heq⟩
    obtain ⟨rfl, rfl⟩ := Prod.mk.inj heq
    exact ⟨i, rfl, (h.exact i w).mp hi⟩
  · rintro ⟨i, rfl, hi⟩
    exact ⟨(i, name), (h.exact i name).mpr hi, rfl⟩

theorem map_snd_moved (k : Nat) (sites : List (Nat × Text)) :
    (sites.map (moved k)).map Prod.snd = sites.map Prod.snd := by
  rw [List.map_map]
  rfl

/-! ## The scan -/

theorem opensCall_iff : opensCall u = true ↔ ∃ i, OpensAt u i := by
  unfold opensCall
  rw [beq_iff_eq, List.head?_eq_some_iff]
  constructor
  · rintro ⟨back, hback⟩
    obtain ⟨gap, hgap, hu⟩ := exists_trimFront u
    exact ⟨gap.length, gap, back, hback ▸ hu, hgap, rfl⟩
  · rintro ⟨_, gap, back, rfl, hgap, -⟩
    refine ⟨back, ?_⟩
    rw [trimFront_append hgap]
    exact trimFront_eq_self fun c hc => by cases hc; decide

/-- A text that begins with a word character begins with a whole word. -/
theorem exists_word {c : Char} (hc : isWord c = true) (rest : Text) :
    c :: rest = (c :: rest.takeWhile isWord) ++ rest.dropWhile isWord ∧
      (∀ d ∈ c :: rest.takeWhile isWord, isWord d = true) ∧
      ∀ d, (rest.dropWhile isWord).head? = some d → isWord d = false := by
  refine ⟨by rw [List.cons_append, List.takeWhile_append_dropWhile], fun d hd => ?_, fun d hd => ?_⟩
  · rcases List.mem_cons.mp hd with rfl | hd
    · exact hc
    · exact List.all_eq_true.mp List.all_takeWhile d hd
  · have hstop := List.head?_dropWhile_not isWord rest
    rw [hd] at hstop
    simpa using hstop

/-- **Every call of a text is found once, in text order.** -/
theorem exists_lists_calls (t : Text) :
    ∃ sites, Lists (CallAt t) sites ∧ sites.map Prod.snd = calls t := by
  fun_induction calls t with
  | case1 => exact ⟨[], ⟨.nil, fun _ _ => by simp [not_callAt_nil]⟩, rfl⟩
  | case2 c rest hc after hcall ih =>
    obtain ⟨sites, hsites, hcalls⟩ := ih
    obtain ⟨hsplit, hrun, hafter⟩ := exists_word hc rest
    obtain ⟨hstart, hopens⟩ := Bool.and_eq_true_iff.mp hcall
    obtain ⟨i, hi⟩ := opensCall_iff.mp hopens
    have hname : IsName (c :: rest.takeWhile isWord) :=
      ⟨hstart, fun d hd => hrun d (List.mem_cons_of_mem c hd)⟩
    have hmoved := hsites.moved (k := (c :: rest.takeWhile isWord).length) fun _ _ => Iff.rfl
    refine ⟨_, hmoved.cons ((c :: rest.takeWhile isWord).length + i) (c :: rest.takeWhile isWord)
      ?_ ?_, ?_⟩
    · rintro place name ⟨j, rfl, hj⟩
      exact Nat.add_lt_add_left (hi.lt_of_callAt hj) _
    · intro place name
      rw [hsplit, callAt_append (List.cons_ne_nil _ _) hrun hafter]
      refine or_congr_left ⟨?_, ?_⟩
      · rintro ⟨j, hj, -, rfl, rfl⟩
        exact ⟨congrArg _ (hj.unique hi), rfl⟩
      · rintro ⟨rfl, rfl⟩
        exact ⟨i, hi, hname, rfl, rfl⟩
    · rw [List.map_cons, map_snd_moved, hcalls]
  | case3 c rest hc after hcall ih =>
    obtain ⟨sites, hsites, hcalls⟩ := ih
    obtain ⟨hsplit, hrun, hafter⟩ := exists_word hc rest
    refine ⟨_, hsites.moved (k := (c :: rest.takeWhile isWord).length) fun place name => ?_, ?_⟩
    · rw [hsplit, callAt_append (List.cons_ne_nil _ _) hrun hafter]
      refine or_iff_right ?_
      rintro ⟨i, hi, hname, -⟩
      exact hcall (Bool.and_eq_true_iff.mpr ⟨hname.1, opensCall_iff.mpr ⟨i, hi⟩⟩)
    · rw [map_snd_moved, hcalls]
  | case4 c rest hc ih =>
    obtain ⟨sites, hsites, hcalls⟩ := ih
    have hcons : isWord c = false := Bool.not_eq_true _ ▸ hc
    refine ⟨_, hsites.moved fun place name => callAt_cons hcons, ?_⟩
    rw [map_snd_moved, hcalls]

/-- A call in the arguments of another one, a word that begins with a digit, and a parenthesis on
the next line. -/
example : calls "return foo(bar (1), 9bar(2), bar\n(3));" =
    ["foo".toList, "bar".toList, "bar".toList] := by decide +kernel

end PrimitiveSearch.Proposal
