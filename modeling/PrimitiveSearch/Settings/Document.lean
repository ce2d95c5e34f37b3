import PrimitiveSearch.Json.Reading
import PrimitiveSearch.Json.Writing
import PrimitiveSearch.Settings.Basic

/-!
# Documents of settings

Settings as a document: an object with a member for each setting and one for each section.  A
member of any other name is refused; a setting that is `null` is not set.

* `Settings.read` — the settings in a document.
* `Settings.document` — the document of settings, without white space.
-/

set_option autoImplicit false

namespace PrimitiveSearch

/-! ## Reading -/

/-- A whole number of 32 bits. -/
def Settings.word32 : Json.Reader UInt32 :=
  Json.mapped (fun n => UInt32.ofNat n.toNat) (Json.integer 0 (2 ^ 32 - 1) "u32")

/-- A whole number of 64 bits that counts seconds. -/
def Settings.word64 : Json.Reader UInt64 :=
  Json.mapped (fun n => UInt64.ofNat n.toNat) (Json.integer 0 (2 ^ 64 - 1) "u64")

/-- A whole number of 64 bits that counts things in memory. -/
def Settings.size : Json.Reader UInt64 :=
  Json.mapped (fun n => UInt64.ofNat n.toNat) (Json.integer 0 (2 ^ 64 - 1) "usize")

/-- A text. -/
def Settings.string : Json.Reader Text := Json.string "a string"

/-- A path. -/
def Settings.path : Json.Reader Path := Json.string "path string"

/-- A setting: a value, or `null` for none. -/
def Settings.setting {σ α : Type} (name : Text) (item : Json.Reader α)
    (set : Option α → σ → σ) : Json.Field σ :=
  Json.Field.of name false (Json.optional item) set

open Settings in
/-- The section of the build. -/
def BuildSettings.shape : Json.Shape BuildSettings where
  expected := "struct BuildSection"
  fields :=
    [setting "runtime" string fun v s => { s with runtime := v },
     setting "image" string fun v s => { s with image := v },
     setting "mount_point" string fun v s => { s with mountPoint := v },
     setting "target" string fun v s => { s with target := v },
     setting "parallelism" size fun v s => { s with parallelism := v },
     setting "timeout_secs" word64 fun v s => { s with timeoutSeconds := v }]
  unknown := .refused
  initial := BuildSettings.none

open Settings in
/-- The section of the engine. -/
def EngineSettings.shape : Json.Shape EngineSettings where
  expected := "struct EngineSection"
  fields :=
    [setting "binary" path fun v s => { s with binary := v },
     setting "timeout_secs" word64 fun v s => { s with timeoutSeconds := v }]
  unknown := .refused
  initial := EngineSettings.none

/-- All settings. -/
def Settings.shape : Json.Shape Settings where
  expected := "struct RefineConfig"
  fields :=
    [setting "model" string fun v s => { s with model := v },
     setting "max_iterations" word32 fun v s => { s with maxIterations := v },
     setting "time_budget_secs" word64 fun v s => { s with timeBudgetSeconds := v },
     setting "model_timeout_secs" word64 fun v s => { s with modelTimeoutSeconds := v },
     setting "history_limit" size fun v s => { s with historyLimit := v },
     setting "artifact_dir" path fun v s => { s with artifactDirectory := v },
     setting "source_root" path fun v s => { s with sourceRoot := v },
     setting "ollama_bin" string fun v s => { s with modelRunner := v },
     setting "task_base_url" string fun v s => { s with taskBase := v },
     Json.Field.of "build" false (Json.record BuildSettings.shape) fun v s =>
       { s with build := v },
     Json.Field.of "engine" false (Json.record EngineSettings.shape) fun v s =>
       { s with engine := v }]
  unknown := .refused
  initial := Settings.none

/-- The settings in a document. -/
def Settings.read (t : Text) : Except Json.Located Settings :=
  Json.read (Json.record Settings.shape) t

/-! ## Writing -/

/-- A setting that is a text or a path. -/
def Settings.textMember (name : Text) (value : Option Text) : Text × Text :=
  (name, Json.optionalText Json.stringText value)

/-- A setting that is a number. -/
def Settings.numberMember (name : Text) (value : Option Nat) : Text × Text :=
  (name, Json.optionalText Numeral.ofNat value)

open Settings in
/-- The section of the build as an object. -/
def BuildSettings.document (s : BuildSettings) : Text :=
  Json.objectText
    [textMember "runtime" s.runtime,
     textMember "image" s.image,
     textMember "mount_point" s.mountPoint,
     textMember "target" s.target,
     numberMember "parallelism" (s.parallelism.map UInt64.toNat),
     numberMember "timeout_secs" (s.timeoutSeconds.map UInt64.toNat)]

open Settings in
/-- The section of the engine as an object. -/
def EngineSettings.document (s : EngineSettings) : Text :=
  Json.objectText
    [textMember "binary" s.binary,
     numberMember "timeout_secs" (s.timeoutSeconds.map UInt64.toNat)]

/-- The document of settings, without white space. -/
def Settings.document (s : Settings) : Text :=
  Json.objectText
    [textMember "model" s.model,
     numberMember "max_iterations" (s.maxIterations.map UInt32.toNat),
     numberMember "time_budget_secs" (s.timeBudgetSeconds.map UInt64.toNat),
     numberMember "model_timeout_secs" (s.modelTimeoutSeconds.map UInt64.toNat),
     numberMember "history_limit" (s.historyLimit.map UInt64.toNat),
     textMember "artifact_dir" s.artifactDirectory,
     textMember "source_root" s.sourceRoot,
     textMember "ollama_bin" s.modelRunner,
     textMember "task_base_url" s.taskBase,
     ("build", s.build.document),
     ("engine", s.engine.document)]

end PrimitiveSearch
