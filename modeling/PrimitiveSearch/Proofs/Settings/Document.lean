import PrimitiveSearch.Proofs.Json.Compound
import PrimitiveSearch.Settings.Derived
import PrimitiveSearch.Settings.Document

/-!
# Settings survive their documents

* `fills_text`, `fills_number` — the member that is written for a setting, be it set or not, fills
  the field of that setting.
* `BuildSettings.denotes_document`, `EngineSettings.denotes_document`, `Settings.denotes_document` —
  the sections, and all settings, are read from their objects.
* `Settings.read_own_document` — hence settings are read from their document, and all that follows
  from them is as before.
-/

set_option autoImplicit false

namespace PrimitiveSearch

open Json

namespace Settings

/-! ## Numbers -/

/-- A machine word is read from the numeral of its number. -/
theorem denotes_word {α : Type} (word : Nat → α) (expected : Text) {high : Int} {n : Nat}
    (hhigh : (n : Int) ≤ high) (hbits : high < 2 ^ 64) :
    Denotes (mapped (fun k => word k.toNat) (integer 0 high expected)) (Numeral.ofNat n)
      (word n) := by
  have h : Denotes (integer 0 high expected) (Numeral.ofNat n) (n : Int) :=
    denotes_ofInt (Int.natCast_nonneg n) hhigh (by omega) (by omega)
  exact h.mapped fun k => word k.toNat

theorem denotes_word32 (n : UInt32) : Denotes word32 (Numeral.ofNat n.toNat) n := by
  have hn := n.toNat_lt
  have h := denotes_word UInt32.ofNat "u32" (by omega : (n.toNat : Int) ≤ 2 ^ 32 - 1)
    (by omega)
  rwa [UInt32.ofNat_toNat] at h

/-- Whole numbers of 64 bits, whatever they count. -/
theorem denotes_word64 (expected : Text) (n : UInt64) :
    Denotes (mapped (fun k => UInt64.ofNat k.toNat) (integer 0 (2 ^ 64 - 1) expected))
      (Numeral.ofNat n.toNat) n := by
  have hn := n.toNat_lt
  have h := denotes_word UInt64.ofNat expected (by omega : (n.toNat : Int) ≤ 2 ^ 64 - 1)
    (by omega)
  rwa [UInt64.ofNat_toNat] at h

/-- A numeral starts with a digit, so it is not taken for `null`. -/
theorem head_ofNat_ne (n : Nat) : (Numeral.ofNat n).head? ≠ some 'n' := by
  intro h
  exact absurd (Numeral.isDigit_ofNat (List.mem_of_head? h)) (by decide)

/-! ## One setting -/

section Members

variable {σ : Type} {name : Text} {fields : List (Json.Field σ)} {members : List (Text × Text)}
  {state final : σ}

theorem fills_text {expected : Text} {set : Option Text → σ → σ} (value : Option Text)
    (h : Fills fields members (set value state) final) :
    Fills (setting name (Json.string expected) set :: fields) (textMember name value :: members)
      state final := by
  have hnull : ∀ t, (stringText t).head? ≠ some 'n' := fun t h => by cases h
  exact .cons (.field name false set (denotes_optional (denotes_string expected) hnull value)) h

theorem fills_number {α : Type} {item : Reader α} {toNat : α → Nat} {set : Option α → σ → σ}
    (hitem : ∀ a, Denotes item (Numeral.ofNat (toNat a)) a) (value : Option α)
    (h : Fills fields members (set value state) final) :
    Fills (setting name item set :: fields) (numberMember name (value.map toNat) :: members)
      state final := by
  have hvalue : Denotes (optional item) (optionalText Numeral.ofNat (value.map toNat)) value := by
    have hread := denotes_optional hitem (fun a => head_ofNat_ne (toNat a)) value
    cases value <;> exact hread
  exact .cons (.field name false set hvalue) h

end Members

end Settings

/-! ## Sections -/

open Settings

theorem BuildSettings.denotes_document (s : BuildSettings) :
    Denotes (record BuildSettings.shape) s.document s := by
  refine denotes_record (by decide) ?_
  refine fills_text s.runtime ?_
  refine fills_text s.image ?_
  refine fills_text s.mountPoint ?_
  refine fills_text s.target ?_
  refine fills_number (denotes_word64 _) s.parallelism ?_
  refine fills_number (denotes_word64 _) s.timeoutSeconds ?_
  exact .nil

theorem EngineSettings.denotes_document (s : EngineSettings) :
    Denotes (record EngineSettings.shape) s.document s := by
  refine denotes_record (by decide) ?_
  refine fills_text s.binary ?_
  refine fills_number (denotes_word64 _) s.timeoutSeconds ?_
  exact .nil

theorem Settings.denotes_document (s : Settings) :
    Denotes (record Settings.shape) s.document s := by
  refine denotes_record (by decide) ?_
  refine fills_text s.model ?_
  refine fills_number denotes_word32 s.maxIterations ?_
  refine fills_number (denotes_word64 _) s.timeBudgetSeconds ?_
  refine fills_number (denotes_word64 _) s.modelTimeoutSeconds ?_
  refine fills_number (denotes_word64 _) s.historyLimit ?_
  refine fills_text s.artifactDirectory ?_
  refine fills_text s.sourceRoot ?_
  refine fills_text s.modelRunner ?_
  refine fills_text s.taskBase ?_
  refine .cons (.field _ _ _ s.build.denotes_document) ?_
  refine .cons (.field _ _ _ s.engine.denotes_document) ?_
  exact .nil

/-- **Settings survive their text form**: all settings, set or not, are read from their document
without white space; and so the limits, the files and the programs that follow from them are the
same as before, on any machine. -/
theorem Settings.read_own_document (s : Settings) (processors : Nat) :
    ∃ r, Settings.read s.document = .ok r ∧ r = s ∧
      r.limits = s.limits ∧ r.layout = s.layout ∧
      r.stageLimits = s.stageLimits ∧ r.buildPlan processors = s.buildPlan processors ∧
      r.engineBinary = s.engineBinary ∧ r.runner = s.runner :=
  ⟨s, read_of_denotes s.denotes_document, rfl, rfl, rfl, rfl, rfl, rfl, rfl⟩

end PrimitiveSearch
