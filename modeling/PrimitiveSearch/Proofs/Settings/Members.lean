import PrimitiveSearch.Proofs.Json.Members
import PrimitiveSearch.Settings.Document

/-!
# No setting is passed over

* `Told` — a setting against the members of an object: it is the value of its member, and not set
  if there is none or that is `null`.
* `BuildSettings.ToldBy`, `EngineSettings.ToldBy`, `Settings.ToldBy` — all settings of an object,
  which has members for settings only, and none twice.
* `Settings.Inserted` — one more member, of another name, in one of the three objects.
* `Settings.Place` — a text up to where a key may stand in one of the three objects.
* `Settings.read_exact` — what is read from a document is told by its members, and nothing is read
  where a member has another name.
-/

set_option autoImplicit false

namespace PrimitiveSearch

open Json

/-! ## One setting -/

/-- What the members of an object say about a setting: it is the value of the member of its name,
unless that is `null`, and not set otherwise. -/
structure Told {α : Type} (ms : List (Text × Value)) (name : Text) (spelling : α → Value)
    (setting : Option α) : Prop where
  present : ∀ v, (name, v) ∈ ms → v ≠ .null → ∃ a, setting = some a ∧ v = spelling a
  absent : (∀ v, (name, v) ∈ ms → v = .null) → setting = none

/-- Members have different keys, and each has one of the given names. -/
def KeysAmong (names : List Text) (ms : List (Text × Value)) : Prop :=
  (ms.map Prod.fst).Nodup ∧ ∀ key ∈ ms.map Prod.fst, key ∈ names

namespace Settings

section Readers

variable {σ α : Type} {shape : Json.Shape σ} {item : Reader α} {name : Text}
  {ms : List (Text × Value)} {state final : σ}

/-- A setting of 32 bits, as its numeral. -/
def numeral32 (n : UInt32) : Value := .number (Numeral.ofNat n.toNat)

/-- A setting of 64 bits, as its numeral. -/
def numeral64 (n : UInt64) : Value := .number (Numeral.ofNat n.toNat)

theorem faithful_string : Faithful Settings.string fun v t => v = .string t :=
  Json.faithful_string "a string"

theorem faithful_path : Faithful Settings.path fun v t => v = .string t :=
  Json.faithful_string "path string"

theorem faithful_word (word : Nat → α) {toNat : α → Nat} {high : Int} (expected : Text)
    (hword : ∀ n : Nat, (n : Int) ≤ high → toNat (word n) = n) :
    Faithful (mapped (fun n => word n.toNat) (integer 0 high expected))
      fun v a => v = .number (Numeral.ofNat (toNat a)) := by
  refine ((faithful_integer high expected).mapped _).mono ?_
  rintro v a ⟨n, ⟨rfl, hlow, hhigh⟩, rfl⟩
  rw [hword n.toNat (by omega)]

theorem faithful_word32 : Faithful word32 fun v n => v = numeral32 n := by
  refine faithful_word UInt32.ofNat "u32" fun n hn => UInt32.toNat_ofNat_of_lt' ?_
  show n < 4294967296
  omega

/-- Whole numbers of 64 bits, whatever they count. -/
theorem faithful_number64 (expected : Text) :
    Faithful (mapped (fun n => UInt64.ofNat n.toNat) (integer 0 (2 ^ 64 - 1) expected))
      fun v n => v = numeral64 n := by
  refine faithful_word UInt64.ofNat expected fun n hn => UInt64.toNat_ofNat_of_lt' ?_
  show n < 18446744073709551616
  omega

theorem faithful_word64 : Faithful word64 fun v n => v = numeral64 n := faithful_number64 "u64"

theorem faithful_size : Faithful size fun v n => v = numeral64 n := faithful_number64 "usize"

theorem exists_faithful_setting {R : Value → α → Prop} (h : Faithful item R)
    (set : Option α → σ → σ) : ∃ R', Faithful (setting name item set).read R' :=
  ⟨_, (faithful_optional h).mapped set⟩

/-- A setting that one field concerns is told by the members that feed the record. -/
theorem told_of_fed {spelling : α → Value} {get : σ → Option α}
    (hitem : Faithful item fun v a => v = spelling a) (hnodup : (ms.map Prod.fst).Nodup)
    (hfed : Fed shape ms state final) (hstate : get state = .none)
    (hfields : ∀ f ∈ shape.fields, f.Concerns name (optional item) get) :
    Told ms name spelling (get final) := by
  obtain ⟨hpresent, habsent⟩ := hfed.told hfields hnodup
  have hsaid : ∀ v, (name, v) ∈ ms → (v = .null ∧ get final = .none) ∨
      v ≠ .null ∧ ∃ a, get final = some a ∧ v = spelling a :=
    fun v hv => (faithful_optional hitem).of_takes (hpresent v hv)
  refine ⟨fun v hv hne => ?_, fun hnull => ?_⟩
  · rcases hsaid v hv with ⟨hv', -⟩ | ⟨-, ha⟩
    · exact absurd hv' hne
    · exact ha
  · by_cases hmem : name ∈ ms.map Prod.fst
    · obtain ⟨⟨key, v⟩, hv, rfl⟩ := List.mem_map.mp hmem
      rcases hsaid v hv with ⟨-, hnone⟩ | ⟨hne, -⟩
      · exact hnone
      · exact absurd (hnull v hv) hne
    · rw [habsent hmem, hstate]

/-- A section that one field concerns is fed by the members of its object. -/
theorem fedBy_of_fed {β : Type} {inner : Json.Shape β} {get : σ → β}
    (hinner : inner.Strict) (hnodup : (ms.map Prod.fst).Nodup) (hfed : Fed shape ms state final)
    (hfields : ∀ f ∈ shape.fields, f.Concerns name (record inner) get) :
    (∀ ms', (name, .object ms') ∈ ms → FedBy inner (.object ms') (get final)) ∧
      (name ∉ ms.map Prod.fst → get final = get state) := by
  obtain ⟨hpresent, habsent⟩ := hfed.told hfields hnodup
  exact ⟨fun ms' hms => (faithful_record hinner).of_takes (hpresent _ hms), habsent⟩

theorem keysAmong_of_fed {names : List Text} (hnames : shape.names = names)
    (hnodup : (ms.map Prod.fst).Nodup) (hfed : Fed shape ms state final) : KeysAmong names ms :=
  ⟨hnodup, fun _ hkey => hnames ▸ hfed.mem_names hkey⟩

end Readers

end Settings

open Settings

/-! ## The sections -/

/-- The names of the settings of the build. -/
def BuildSettings.names : List Text :=
  ["runtime", "image", "mount_point", "target", "parallelism", "timeout_secs"]

/-- The settings of the build are those that the members of their section give. -/
structure BuildSettings.ToldBy (ms : List (Text × Value)) (s : BuildSettings) : Prop where
  keys : KeysAmong BuildSettings.names ms
  runtime : Told ms "runtime" .string s.runtime
  image : Told ms "image" .string s.image
  mountPoint : Told ms "mount_point" .string s.mountPoint
  target : Told ms "target" .string s.target
  parallelism : Told ms "parallelism" numeral64 s.parallelism
  timeoutSeconds : Told ms "timeout_secs" numeral64 s.timeoutSeconds

theorem BuildSettings.strict : BuildSettings.shape.Strict where
  refused := rfl
  faithful := by
    refine List.forall_mem_cons.mpr ⟨exists_faithful_setting faithful_string _, ?_⟩
    refine List.forall_mem_cons.mpr ⟨exists_faithful_setting faithful_string _, ?_⟩
    refine List.forall_mem_cons.mpr ⟨exists_faithful_setting faithful_string _, ?_⟩
    refine List.forall_mem_cons.mpr ⟨exists_faithful_setting faithful_string _, ?_⟩
    refine List.forall_mem_cons.mpr ⟨exists_faithful_setting faithful_size _, ?_⟩
    refine List.forall_mem_cons.mpr ⟨exists_faithful_setting faithful_word64 _, ?_⟩
    exact List.forall_mem_nil _

theorem BuildSettings.toldBy {ms : List (Text × Value)} {s : BuildSettings}
    (h : FedBy BuildSettings.shape (.object ms) s) : BuildSettings.ToldBy ms s := by
  obtain ⟨hnodup, hfed⟩ := h ms rfl
  refine {
    keys := keysAmong_of_fed rfl hnodup hfed
    runtime := told_of_fed faithful_string hnodup hfed rfl ?_
    image := told_of_fed faithful_string hnodup hfed rfl ?_
    mountPoint := told_of_fed faithful_string hnodup hfed rfl ?_
    target := told_of_fed faithful_string hnodup hfed rfl ?_
    parallelism := told_of_fed faithful_size hnodup hfed rfl ?_
    timeoutSeconds := told_of_fed faithful_word64 hnodup hfed rfl ?_ }
  all_goals
    repeat' refine List.forall_mem_cons.mpr ⟨?_, ?_⟩
    all_goals first
      | exact List.forall_mem_nil _
      | exact .other (by decide) fun _ _ => rfl
      | exact .own fun _ _ => rfl

/-- The names of the settings of the engine. -/
def EngineSettings.names : List Text := ["binary", "timeout_secs"]

/-- The settings of the engine are those that the members of their section give. -/
structure EngineSettings.ToldBy (ms : List (Text × Value)) (s : EngineSettings) : Prop where
  keys : KeysAmong EngineSettings.names ms
  binary : Told ms "binary" .string s.binary
  timeoutSeconds : Told ms "timeout_secs" numeral64 s.timeoutSeconds

theorem EngineSettings.strict : EngineSettings.shape.Strict where
  refused := rfl
  faithful := by
    refine List.forall_mem_cons.mpr ⟨exists_faithful_setting faithful_path _, ?_⟩
    refine List.forall_mem_cons.mpr ⟨exists_faithful_setting faithful_word64 _, ?_⟩
    exact List.forall_mem_nil _

theorem EngineSettings.toldBy {ms : List (Text × Value)} {s : EngineSettings}
    (h : FedBy EngineSettings.shape (.object ms) s) : EngineSettings.ToldBy ms s := by
  obtain ⟨hnodup, hfed⟩ := h ms rfl
  refine {
    keys := keysAmong_of_fed rfl hnodup hfed
    binary := told_of_fed faithful_path hnodup hfed rfl ?_
    timeoutSeconds := told_of_fed faithful_word64 hnodup hfed rfl ?_ }
  all_goals
    repeat' refine List.forall_mem_cons.mpr ⟨?_, ?_⟩
    all_goals first
      | exact List.forall_mem_nil _
      | exact .other (by decide) fun _ _ => rfl
      | exact .own fun _ _ => rfl

/-! ## All settings -/

namespace Settings

/-- The names of the settings outside the sections, and of the sections. -/
def names : List Text :=
  ["model", "max_iterations", "time_budget_secs", "model_timeout_secs", "history_limit",
    "artifact_dir", "source_root", "ollama_bin", "task_base_url", "build", "engine"]

/-- All settings are those that the members of a document give.  A section that is left out sets
nothing. -/
structure ToldBy (ms : List (Text × Value)) (s : Settings) : Prop where
  keys : KeysAmong Settings.names ms
  model : Told ms "model" .string s.model
  maxIterations : Told ms "max_iterations" numeral32 s.maxIterations
  timeBudgetSeconds : Told ms "time_budget_secs" numeral64 s.timeBudgetSeconds
  modelTimeoutSeconds : Told ms "model_timeout_secs" numeral64 s.modelTimeoutSeconds
  historyLimit : Told ms "history_limit" numeral64 s.historyLimit
  artifactDirectory : Told ms "artifact_dir" .string s.artifactDirectory
  sourceRoot : Told ms "source_root" .string s.sourceRoot
  modelRunner : Told ms "ollama_bin" .string s.modelRunner
  taskBase : Told ms "task_base_url" .string s.taskBase
  build : ∀ inner, ("build".toList, .object inner) ∈ ms → BuildSettings.ToldBy inner s.build
  noBuild : "build".toList ∉ ms.map Prod.fst → s.build = BuildSettings.none
  engine : ∀ inner, ("engine".toList, .object inner) ∈ ms → EngineSettings.ToldBy inner s.engine
  noEngine : "engine".toList ∉ ms.map Prod.fst → s.engine = EngineSettings.none

theorem strict : Settings.shape.Strict where
  refused := rfl
  faithful := by
    have hsection {σ β : Type} {inner : Json.Shape β} (h : inner.Strict) (name : Text)
        (set : β → σ → σ) : ∃ R, Faithful (Field.of name false (record inner) set).read R :=
      ⟨_, (faithful_record h).mapped set⟩
    refine List.forall_mem_cons.mpr ⟨exists_faithful_setting faithful_string _, ?_⟩
    refine List.forall_mem_cons.mpr ⟨exists_faithful_setting faithful_word32 _, ?_⟩
    refine List.forall_mem_cons.mpr ⟨exists_faithful_setting faithful_word64 _, ?_⟩
    refine List.forall_mem_cons.mpr ⟨exists_faithful_setting faithful_word64 _, ?_⟩
    refine List.forall_mem_cons.mpr ⟨exists_faithful_setting faithful_size _, ?_⟩
    refine List.forall_mem_cons.mpr ⟨exists_faithful_setting faithful_path _, ?_⟩
    refine List.forall_mem_cons.mpr ⟨exists_faithful_setting faithful_path _, ?_⟩
    refine List.forall_mem_cons.mpr ⟨exists_faithful_setting faithful_string _, ?_⟩
    refine List.forall_mem_cons.mpr ⟨exists_faithful_setting faithful_string _, ?_⟩
    refine List.forall_mem_cons.mpr ⟨hsection BuildSettings.strict _ _, ?_⟩
    refine List.forall_mem_cons.mpr ⟨hsection EngineSettings.strict _ _, ?_⟩
    exact List.forall_mem_nil _

theorem concerns_build : ∀ f ∈ Settings.shape.fields,
    f.Concerns "build" (record BuildSettings.shape) Settings.build := by
  repeat' refine List.forall_mem_cons.mpr ⟨?_, ?_⟩
  all_goals first
    | exact List.forall_mem_nil _
    | exact .other (by decide) fun _ _ => rfl
    | exact .own fun _ _ => rfl

theorem concerns_engine : ∀ f ∈ Settings.shape.fields,
    f.Concerns "engine" (record EngineSettings.shape) Settings.engine := by
  repeat' refine List.forall_mem_cons.mpr ⟨?_, ?_⟩
  all_goals first
    | exact List.forall_mem_nil _
    | exact .other (by decide) fun _ _ => rfl
    | exact .own fun _ _ => rfl

theorem toldBy {ms : List (Text × Value)} {s : Settings}
    (h : FedBy Settings.shape (.object ms) s) : ToldBy ms s := by
  obtain ⟨hnodup, hfed⟩ := h ms rfl
  have hbuild := fedBy_of_fed BuildSettings.strict hnodup hfed concerns_build
  have hengine := fedBy_of_fed EngineSettings.strict hnodup hfed concerns_engine
  refine {
    keys := keysAmong_of_fed rfl hnodup hfed
    model := told_of_fed faithful_string hnodup hfed rfl ?_
    maxIterations := told_of_fed faithful_word32 hnodup hfed rfl ?_
    timeBudgetSeconds := told_of_fed faithful_word64 hnodup hfed rfl ?_
    modelTimeoutSeconds := told_of_fed faithful_word64 hnodup hfed rfl ?_
    historyLimit := told_of_fed faithful_size hnodup hfed rfl ?_
    artifactDirectory := told_of_fed faithful_path hnodup hfed rfl ?_
    sourceRoot := told_of_fed faithful_path hnodup hfed rfl ?_
    modelRunner := told_of_fed faithful_string hnodup hfed rfl ?_
    taskBase := told_of_fed faithful_string hnodup hfed rfl ?_
    build := fun inner hinner => BuildSettings.toldBy (hbuild.1 inner hinner)
    noBuild := hbuild.2
    engine := fun inner hinner => EngineSettings.toldBy (hengine.1 inner hinner)
    noEngine := hengine.2 }
  all_goals
    repeat' refine List.forall_mem_cons.mpr ⟨?_, ?_⟩
    all_goals first
      | exact List.forall_mem_nil _
      | exact .other (by decide) fun _ _ => rfl
      | exact .own fun _ _ => rfl

/-! ## Members of other names -/

/-- One more member, of a name that is not among those of the settings there, in one of the three
objects of a document. -/
inductive Inserted (key : Text) (v : Value) :
    List (Text × Value) → List (Text × Value) → Prop where
  | top {front back : List (Text × Value)} (undeclared : key ∉ Settings.names) :
      Inserted key v (front ++ back) (front ++ (key, v) :: back)
  | build {front back inner inner' : List (Text × Value)}
      (undeclared : key ∉ BuildSettings.names) :
      Inserted key v (front ++ ("build".toList, .object (inner ++ inner')) :: back)
        (front ++ ("build".toList, .object (inner ++ (key, v) :: inner')) :: back)
  | engine {front back inner inner' : List (Text × Value)}
      (undeclared : key ∉ EngineSettings.names) :
      Inserted key v (front ++ ("engine".toList, .object (inner ++ inner')) :: back)
        (front ++ ("engine".toList, .object (inner ++ (key, v) :: inner')) :: back)

/-- No document with such a member tells settings. -/
theorem Inserted.not_toldBy {key : Text} {v : Value} {ms ms' : List (Text × Value)} {s : Settings}
    (h : Inserted key v ms ms') : ¬ ToldBy ms' s := by
  intro htold
  cases h with
  | top hkey => exact hkey (htold.keys.2 key (by simp))
  | @build front back inner inner' hkey =>
    have hinner := htold.build (inner ++ (key, v) :: inner') (by simp)
    exact hkey (hinner.keys.2 key (by simp))
  | @engine front back inner inner' hkey =>
    have hinner := htold.engine (inner ++ (key, v) :: inner') (by simp)
    exact hkey (hinner.keys.2 key (by simp))

/-- A text up to where a key may stand in one of the three objects, with the names of the settings
there. -/
inductive Place : Text → List Text → Prop where
  | top {t : Text} (opened : Opened t) : Place t Settings.names
  | build {t t' key gap : Text} (opened : Opened t) (spelt : SpellsString "build".toList key)
      (behind : IsGap gap) (opened' : Opened t') :
      Place (t ++ '"' :: (key ++ '"' :: (gap ++ ':' :: t'))) BuildSettings.names
  | engine {t t' key gap : Text} (opened : Opened t) (spelt : SpellsString "engine".toList key)
      (behind : IsGap gap) (opened' : Opened t') :
      Place (t ++ '"' :: (key ++ '"' :: (gap ++ ':' :: t'))) EngineSettings.names

/-- A strict record is not read from a text where a key has another name. -/
theorem not_read_of_opened {σ : Type} {shape : Json.Shape σ} {t key body : Text}
    (hs : shape.Strict) (hopened : Opened t) (hkey : SpellsString key body)
    (hnames : key ∉ shape.names) (tail : Text) (x : σ × Text) :
    record shape (t ++ '"' :: (body ++ '"' :: tail)) ≠ .ok x := by
  intro h
  obtain ⟨f, hf, rfl, -⟩ := record_reaches hs hopened hkey h
  exact hnames (List.mem_map_of_mem hf)

/-- Settings are not read from a text where a section is not. -/
theorem not_read_of_section {σ : Type} {shape : Json.Shape σ} {get : Settings → σ}
    {t t' name key gap body tail : Text} (hopened : Opened t) (hname : SpellsString name key)
    (hgap : IsGap gap)
    (hsection : ∀ f ∈ Settings.shape.fields, f.Concerns name (record shape) get)
    (hinner : ∀ x, record shape (t' ++ '"' :: (body ++ '"' :: tail)) ≠ .ok x)
    (x : Settings × Text) :
    record Settings.shape (t ++ '"' :: (key ++ '"' :: (gap ++ ':' :: t')) ++
      '"' :: (body ++ '"' :: tail)) ≠ .ok x := by
  intro h
  have htext : t ++ '"' :: (key ++ '"' :: (gap ++ ':' :: t')) ++ '"' :: (body ++ '"' :: tail) =
      t ++ '"' :: (key ++ '"' :: (gap ++ ':' :: (t' ++ '"' :: (body ++ '"' :: tail)))) := by
    simp
  rw [htext] at h
  obtain ⟨f, hf, hfname, value, read, hcolon, hread⟩ := record_reaches strict hopened hname h
  obtain rfl := Except.ok.inj (hcolon.symm.trans (colon_gap hgap _))
  obtain ⟨set, hset⟩ := (hsection f hf).read_eq hfname
  rw [hset] at hread
  obtain ⟨y, hy, -⟩ := mapped_eq_ok_iff.mp hread
  exact hinner _ hy

theorem not_read_of_place {t key body : Text} {names : List Text} (hplace : Place t names)
    (hkey : SpellsString key body) (hnames : key ∉ names) (tail : Text) (x : Settings × Text) :
    record Settings.shape (t ++ '"' :: (body ++ '"' :: tail)) ≠ .ok x := by
  cases hplace with
  | top hopened => exact not_read_of_opened strict hopened hkey hnames tail x
  | build hopened hname hgap hopened' =>
    exact not_read_of_section hopened hname hgap concerns_build
      (not_read_of_opened BuildSettings.strict hopened' hkey hnames tail) x
  | engine hopened hname hgap hopened' =>
    exact not_read_of_section hopened hname hgap concerns_engine
      (not_read_of_opened EngineSettings.strict hopened' hkey hnames tail) x

theorem exists_fault {t : Text} (h : ∀ s, Settings.read t ≠ .ok s) :
    ∃ fault, Settings.read t = .error fault := by
  cases hread : Settings.read t with
  | error fault => exact ⟨fault, rfl⟩
  | ok s => exact absurd hread (h s)

/-- **No setting is passed over.**  Settings are read from documents only, which are objects or
lists.  What is read from an object is told by its members and those of its sections: all of them
are settings, none is given twice, and each is the value of its member.  One more member of another
name in any of the three objects is a fault, however the document is spelt then; and so is any text
where a key of another name is reached, whatever stands behind the key. -/
theorem read_exact :
    (∀ t s, Settings.read t = .ok s →
      ∃ v, IsDocument v t ∧ ((∃ ms, v = .object ms) ∨ ∃ vs, v = .list vs)) ∧
    (∀ t ms s, IsDocument (.object ms) t → Settings.read t = .ok s → ToldBy ms s) ∧
    (∀ key v ms ms' t, Inserted key v ms ms' → IsDocument (.object ms') t →
      ∃ fault, Settings.read t = .error fault) ∧
    ∀ t names key body tail, Place t names → SpellsString key body → key ∉ names →
      ∃ fault, Settings.read (t ++ '"' :: (body ++ '"' :: tail)) = .error fault := by
  have htold : ∀ t ms s, IsDocument (.object ms) t → Settings.read t = .ok s → ToldBy ms s :=
    fun t ms s ht hread => toldBy ((faithful_record strict).of_read ht hread)
  refine ⟨fun t s hread => ?_, htold, fun key v ms ms' t hinserted ht => ?_,
    fun t names key body tail hplace hkey hnames => ?_⟩
  · obtain ⟨behind, hrecord, hbehind⟩ := read_eq_ok hread
    obtain ⟨before, v, body, hbefore, hbody, ht, hv⟩ := record_spelt strict hrecord
    exact ⟨v, ⟨before, body, behind, hbefore, hbody, hbehind, ht⟩, hv⟩
  · exact exists_fault fun s hread => hinserted.not_toldBy (htold t ms' s ht hread)
  · refine exists_fault fun s hread => ?_
    obtain ⟨behind, hrecord, -⟩ := read_eq_ok hread
    exact not_read_of_place hplace hkey hnames tail _ hrecord

/-- An escaped key, a section and white space; and keys of other names, at the top and in the
section. -/
theorem read_exact_escaped :
    let t : Text := "\x7b \"m\\u006fdel\" : \"x\",\n\"build\":\x7b\"target\":null\x7d\x7d"
    let t' : Text := "\x7b\"build\":\x7b\"bogus\":1\x7d\x7d"
    let ms : List (Text × Value) := [("model".toList, .string "x"),
      ("build".toList, .object [("target".toList, .null)])]
    let ms' : List (Text × Value) :=
      [("build".toList, .object [("bogus".toList, .number "1")])]
    (∃ s, IsDocument (.object ms) t ∧ Settings.read t = .ok s ∧ s.model = some "x".toList ∧
      ToldBy ms s) ∧
    (Inserted "bogus" (.number "1") [("build".toList, .object [])] ms' ∧
      IsDocument (.object ms') t' ∧ ∃ fault, Settings.read t' = .error fault) ∧
    ∃ fault, Settings.read ("\x7b " ++ '"' :: ("b\\u006fgus" ++ '"' :: ":[[".toList)) =
      .error fault := by
  intro t t' ms ms'
  have hspace : IsGap [' '] := by decide
  have hline : IsGap ['\n'] := by decide
  have hmodel : SpellsString "model" "m\\u006fdel" := spellsString_of_read (by decide +kernel)
  have hx : SpellsString "x" "x" := spellsString_of_read (by decide +kernel)
  have hbuild : SpellsString "build" "build" := spellsString_of_read (by decide +kernel)
  have htarget : SpellsString "target" "target" := spellsString_of_read (by decide +kernel)
  have hbogus : SpellsString "bogus" "bogus" := spellsString_of_read (by decide +kernel)
  have hescaped : SpellsString "bogus" "b\\u006fgus" := spellsString_of_read (by decide +kernel)
  have hone : IsNumber "1" := isNumber_ofNat 1
  have hinner : SpellsMembers true [("target".toList, .null)] _ :=
    .cons isGap_nil htarget isGap_nil isGap_nil .null .nil
  have hms : SpellsMembers true ms _ :=
    .cons hspace hmodel hspace hspace (.string hx)
      (.cons ⟨[], ['\n'], isGap_nil, hline, rfl⟩ hbuild isGap_nil isGap_nil
        (.object hinner isGap_nil) .nil)
  have ht : IsDocument (.object ms) t :=
    ⟨[], _, [], isGap_nil, .object hms isGap_nil, isGap_nil, by decide +kernel⟩
  have hread : Settings.read t = .ok { Settings.none with model := some "x".toList } := by
    decide +kernel
  have hinner' : SpellsMembers true [("bogus".toList, .number "1")] _ :=
    .cons isGap_nil hbogus isGap_nil isGap_nil (.number hone) .nil
  have hms' : SpellsMembers true ms' _ :=
    .cons isGap_nil hbuild isGap_nil isGap_nil (.object hinner' isGap_nil) .nil
  have ht' : IsDocument (.object ms') t' :=
    ⟨[], _, [], isGap_nil, .object hms' isGap_nil, isGap_nil, by decide +kernel⟩
  have hinserted : Inserted "bogus" (.number "1") [("build".toList, .object [])] ms' :=
    @Inserted.build "bogus" (.number "1") [] [] [] [] (by decide)
  refine ⟨⟨_, ht, hread, rfl, read_exact.2.1 t ms _ ht hread⟩,
    ⟨hinserted, ht', read_exact.2.2.1 _ _ _ ms' t' hinserted ht'⟩,
    read_exact.2.2.2 _ Settings.names "bogus" _ _ (.top ?_) hescaped (by decide)⟩
  exact ⟨[], [], [], [' '], isGap_nil, .nil, hspace, by decide +kernel⟩

end Settings

end PrimitiveSearch
