import Reroll.Settings.Basic

/-!
# Settings by name

Every setting has a name under which it is given from outside. A field knows the name, the kind
and the place of one setting.
-/

namespace Reroll.Settings

/-- The kinds of settings. -/
inductive Kind where
  | text
  | whole
  | real
  | flag
  | texts
  deriving DecidableEq, Repr

/-- A setting: its name, its kind, how it is looked up and how it is changed. -/
structure Field where
  name : String
  kind : Kind
  value : Settings → Value
  put : Value → Settings → Settings

/-- All settings. -/
def fields : List Field :=
  [⟨"log_level", .text, logLevel, fun v s => { s with logLevel := v }⟩,
    ⟨"log_path", .text, logPath, fun v s => { s with logPath := v }⟩,
    ⟨"log_retention_days", .whole, logRetentionDays, fun v s => { s with logRetentionDays := v }⟩,
    ⟨"log_rotation", .text, logRotation, fun v s => { s with logRotation := v }⟩,
    ⟨"log_console_enabled", .flag, logConsole, fun v s => { s with logConsole := v }⟩,
    ⟨"max_attempts", .whole, maxAttempts, fun v s => { s with maxAttempts := v }⟩,
    ⟨"start_delay_ms", .whole, startDelay, fun v s => { s with startDelay := v }⟩,
    ⟨"stop_signal_file", .text, stopSignalFile, fun v s => { s with stopSignalFile := v }⟩,
    ⟨"delay_poll_ms", .whole, delayPoll, fun v s => { s with delayPoll := v }⟩,
    ⟨"delay_abort_after_ms", .whole, delayAbortAfter, fun v s => { s with delayAbortAfter := v }⟩,
    ⟨"left_click_post_delay_ms", .whole, leftClickPostDelay,
      fun v s => { s with leftClickPostDelay := v }⟩,
    ⟨"right_click_post_delay_ms", .whole, rightClickPostDelay,
      fun v s => { s with rightClickPostDelay := v }⟩,
    ⟨"modifier_key_settle_ms", .whole, keySettle, fun v s => { s with keySettle := v }⟩,
    ⟨"capability_failure_limit", .whole, failureLimit, fun v s => { s with failureLimit := v }⟩,
    ⟨"ocr_min_line_length", .whole, minLineLength, fun v s => { s with minLineLength := v }⟩,
    ⟨"ocr_min_alnum_density", .real, minDensity, fun v s => { s with minDensity := v }⟩,
    ⟨"exclusion_trigger_word", .text, exclusionTrigger, fun v s => { s with exclusionTrigger := v }⟩,
    ⟨"exclusion_context_word", .text, exclusionContext, fun v s => { s with exclusionContext := v }⟩,
    ⟨"exclusion_words", .texts, exclusionWords, fun v s => { s with exclusionWords := v }⟩,
    ⟨"mods_catalog_url", .text, catalogUrl, fun v s => { s with catalogUrl := v }⟩,
    ⟨"mods_catalog_group", .text, catalogGroup, fun v s => { s with catalogGroup := v }⟩,
    ⟨"mods_catalog_timeout_sec", .real, catalogTimeout, fun v s => { s with catalogTimeout := v }⟩,
    ⟨"mods_catalog_cache", .text, catalogCache, fun v s => { s with catalogCache := v }⟩,
    ⟨"debug_capture_dir", .text, debugCaptureDir, fun v s => { s with debugCaptureDir := v }⟩,
    ⟨"capture_left_trim_ratio", .real, leftTrimRatio, fun v s => { s with leftTrimRatio := v }⟩,
    ⟨"capture_scale", .whole, captureScale, fun v s => { s with captureScale := v }⟩,
    ⟨"capture_threshold", .whole, captureThreshold, fun v s => { s with captureThreshold := v }⟩,
    ⟨"io_thread_pool_size", .whole, ioPoolSize, fun v s => { s with ioPoolSize := v }⟩,
    ⟨"compute_thread_pool_size", .whole, computePoolSize,
      fun v s => { s with computePoolSize := v }⟩]

/-- The texts of a list. -/
def textsOf : Value → List String
  | .list items => items.map Value.textOrEmpty
  | _ => []

/-- The setting has the same value in both settings, each of its kind. -/
def Field.agrees (s t : Settings) (f : Field) : Bool :=
  match f.kind with
  | .texts => textsOf (f.value s) == textsOf (f.value t)
  | _ => (f.value s).sameKey (f.value t) && (f.value s).number?.all fun n => !n.isNaN

/-- The setting with the given name. -/
def field? (name : String) : Option Field := fields.find? fun f => f.name == name

/-- Changes settings by name, as they come and without a check. -/
def assignAll (s : Settings) (given : List (Value × Value)) : Settings :=
  given.foldl
    (fun s g =>
      match g.1 with
      | .text name => ((field? name).map fun f => f.put g.2 s).getD s
      | _ => s) s

end Reroll.Settings
