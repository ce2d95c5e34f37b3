import PrimitiveSearch.EngineModule.Render
import PrimitiveSearch.Proofs.Catalogue.Lookup
import PrimitiveSearch.Proofs.Proposal.Calls

/-!
# When a proposal is out of shape

* `Proposal.PrimitiveCallAt` — a call of a primitive in the body; `exists_primitiveSites` lists
  them.
* `Proposal.OutOfShape` — when an issue is one of a proposal; `mem_nameIssues_iff` and
  `mem_callIssues_iff` for those about the name and those about the body.
* `issues_exact` — the issues of a proposal are those, each once, in the order of their kinds.
-/

set_option autoImplicit false

namespace PrimitiveSearch

/-- Whether an entry of a catalogue has a given name. -/
def Catalogue.Offers (c : Catalogue) (name : Text) : Prop := ∃ e ∈ c.entries, e.name = name

namespace Proposal

variable {p : Proposal} {c : Catalogue} {called : List Text} {issue : Issue} {name : Text}

/-! ## Calls of primitives -/

/-- A call in the body of a proposal whose name is that of a primitive. -/
def PrimitiveCallAt (p : Proposal) (c : Catalogue) (place : Nat) (name : Text) : Prop :=
  CallAt p.body place name ∧ c.Offers name

/-- The calls of primitives are counted by their places. -/
theorem exists_primitiveSites (p : Proposal) (c : Catalogue) :
    ∃ sites, Lists (p.PrimitiveCallAt c) sites ∧ sites.map Prod.snd = p.primitiveCalls c := by
  obtain ⟨sites, hsites, hcalls⟩ := exists_lists_calls p.body
  refine ⟨sites.filter fun x => c.hasName x.2, hsites.filter fun place name => ?_, ?_⟩
  · exact and_congr_right fun _ => Catalogue.hasName_iff.symm
  · rw [primitiveCalls, ← hcalls, List.filter_map]
    rfl

/-! ## Issues -/

/-- When an issue is one of a proposal whose body calls the given primitives. -/
inductive OutOfShape (p : Proposal) (c : Catalogue) (called : List Text) : Issue → Prop where
  | missingSuffix (base : p.baseName? = none) : OutOfShape p c called .missingSuffix
  | unknownBase {base : Text} (claimed : p.baseName? = some base) (unknown : ¬ c.Offers base) :
    OutOfShape p c called (.unknownBase base)
  | primitiveCalls (several : called.length ≠ 1) :
    OutOfShape p c called (.primitiveCalls called.length)
  | baseNotCalled {base other : Text} (claimed : p.baseName? = some base) (known : c.Offers base)
    (single : called = [other]) (differs : other ≠ base) :
    OutOfShape p c called (.baseNotCalled base other)

/-- The order in which issues of different kinds are told. -/
def Issue.rank : Issue → Nat
  | .missingSuffix => 0
  | .unknownBase _ => 1
  | .primitiveCalls _ => 2
  | .baseNotCalled _ _ => 3

/-- The issues about the name are those of the first two kinds. -/
theorem mem_nameIssues_iff (called : List Text) :
    issue ∈ p.nameIssues c ↔ OutOfShape p c called issue ∧ issue.rank < 2 := by
  constructor
  · intro h
    unfold nameIssues at h
    split at h
    · rename_i hbase
      rw [List.mem_singleton.mp h]
      exact ⟨.missingSuffix hbase, Nat.zero_lt_two⟩
    · rename_i base hbase
      split at h
      · cases h
      · rename_i hname
        have hunknown : ¬ c.Offers base := fun hoffers => hname (Catalogue.hasName_iff.mpr hoffers)
        rw [List.mem_singleton.mp h]
        exact ⟨.unknownBase hbase hunknown, Nat.one_lt_two⟩
  · rintro ⟨h, hrank⟩
    cases h with
    | missingSuffix hbase =>
      rw [nameIssues, hbase]
      exact List.mem_singleton_self _
    | unknownBase hbase hunknown =>
      rw [nameIssues, hbase]
      show _ ∈ if c.hasName _ = true then _ else _
      rw [if_neg fun hname => hunknown (Catalogue.hasName_iff.mp hname)]
      exact List.mem_singleton_self _
    | primitiveCalls => simp [Issue.rank] at hrank
    | baseNotCalled => simp [Issue.rank] at hrank

/-- The issues about the body are those of the other two kinds. -/
theorem mem_callIssues_iff : issue ∈ p.callIssues c ↔
    OutOfShape p c (p.primitiveCalls c) issue ∧ 2 ≤ issue.rank := by
  constructor
  · intro h
    unfold callIssues at h
    split at h
    · rename_i other hcalls
      split at h
      · rename_i base hfilter
        obtain ⟨hbase, hname⟩ := Option.filter_eq_some_iff.mp hfilter
        split at h
        · cases h
        · rename_i hdiffers
          have hknown : c.Offers base := Catalogue.hasName_iff.mp hname
          rw [List.mem_singleton.mp h]
          exact ⟨.baseNotCalled hbase hknown hcalls hdiffers, Nat.le_succ 2⟩
      · cases h
    · rename_i hcalls
      have hseveral : (p.primitiveCalls c).length ≠ 1 := by
        intro hlength
        obtain ⟨other, hother⟩ := List.length_eq_one_iff.mp hlength
        exact hcalls other hother
      rw [List.mem_singleton.mp h]
      exact ⟨.primitiveCalls hseveral, Nat.le_refl 2⟩
  · rintro ⟨h, hrank⟩
    cases h with
    | missingSuffix => simp [Issue.rank] at hrank
    | unknownBase => simp [Issue.rank] at hrank
    | primitiveCalls hseveral =>
      unfold callIssues
      split
      · rename_i other hcalls
        rw [hcalls] at hseveral
        exact absurd rfl hseveral
      · exact List.mem_singleton_self _
    | baseNotCalled hbase hknown hsingle hdiffers =>
      have hfilter := Option.filter_eq_some_iff.mpr ⟨hbase, Catalogue.hasName_iff.mpr hknown⟩
      rw [callIssues, hsingle, hfilter]
      show _ ∈ if _ = _ then _ else _
      rw [if_neg hdiffers]
      exact List.mem_singleton_self _

theorem mem_issues_iff :
    issue ∈ p.issues c ↔ OutOfShape p c (p.primitiveCalls c) issue := by
  rw [issues, List.mem_append, mem_nameIssues_iff (p.primitiveCalls c), mem_callIssues_iff,
    ← and_or_left]
  exact and_iff_left (Nat.lt_or_ge issue.rank 2)

/-- There is at most one issue about the name. -/
theorem pairwise_nameIssues (p : Proposal) (c : Catalogue) (R : Issue → Issue → Prop) :
    (p.nameIssues c).Pairwise R := by
  unfold nameIssues
  split
  · exact List.pairwise_singleton R _
  · split
    · exact .nil
    · exact List.pairwise_singleton R _

/-- There is at most one issue about the body. -/
theorem pairwise_callIssues (p : Proposal) (c : Catalogue) (R : Issue → Issue → Prop) :
    (p.callIssues c).Pairwise R := by
  unfold callIssues
  split
  · split
    · split
      · exact .nil
      · exact List.pairwise_singleton R _
    · exact .nil
  · exact List.pairwise_singleton R _

/-- Issues about the name are told before those about the body. -/
theorem pairwise_issues (p : Proposal) (c : Catalogue) :
    (p.issues c).Pairwise fun a b => a.rank < b.rank := by
  rw [issues, List.pairwise_append]
  refine ⟨pairwise_nameIssues p c _, pairwise_callIssues p c _, fun a ha b hb => ?_⟩
  have hfirst : a.rank < 2 := ((mem_nameIssues_iff []).mp ha).2
  exact Nat.lt_of_lt_of_le hfirst (mem_callIssues_iff.mp hb).2

/-- **The issues of a proposal are exactly those that its name and the calls in its body give rise
to**, each once, in the order of their kinds.  Every place where the body calls a primitive counts
as a call. -/
theorem issues_exact (p : Proposal) (c : Catalogue) : ∃ sites,
    Lists (p.PrimitiveCallAt c) sites ∧
    (∀ sites', Lists (p.PrimitiveCallAt c) sites' → sites' = sites) ∧
    (∀ issue, issue ∈ p.issues c ↔ OutOfShape p c (sites.map Prod.snd) issue) ∧
    (p.issues c).Pairwise (fun a b => a.rank < b.rank) ∧
    ((EngineModule.Deferred.mk p (p.issues c)).isWellFormed = true ↔
      ∀ issue, ¬ OutOfShape p c (sites.map Prod.snd) issue) := by
  obtain ⟨sites, hsites, hcalls⟩ := exists_primitiveSites p c
  have hissues : ∀ issue, issue ∈ p.issues c ↔ OutOfShape p c (sites.map Prod.snd) issue :=
    fun issue => hcalls ▸ mem_issues_iff
  refine ⟨sites, hsites, fun _ h => h.eq hsites, hissues, pairwise_issues p c, ?_⟩
  rw [EngineModule.Deferred.isWellFormed, List.isEmpty_iff, List.eq_nil_iff_forall_not_mem]
  exact forall_congr' fun issue => not_congr (hissues issue)

end Proposal

end PrimitiveSearch
