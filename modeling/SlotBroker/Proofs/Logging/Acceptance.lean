import Mathlib.Tactic.SplitIfs
import SlotBroker.Daemon.Startup

/-!
# Names of levels and formats

The level and the format of the log are checked twice: a configuration is checked against the lists
of names, and the settings of the log are made from what the names stand for. The lists have just
the names that stand for something (`LogLevel.names`, `LogFormat.names`), so both checks let the
same configurations through, and they find the same fault. Names are compared in lower case, so the
settings depend on nothing but the lower case of what was written.
-/

namespace SlotBroker

/-! ## Lists of names -/

/-- The names in a list stand for something: for what has that name, in lower case. -/
structure Text.Names {α : Type} (ofName? : String → Option α) (name : α → String)
    (names : List String) : Prop where
  read : ∀ a, ofName? (lowercase (name a)) = some a
  named : ∀ t a, ofName? t = some a → lowercase (name a) = t
  stand : ∀ t ∈ names, (ofName? t).isSome
  listed : ∀ a, lowercase (name a) ∈ names

namespace Text.Names

variable {α : Type} {ofName? : String → Option α} {name : α → String} {names : List String}
  {t : String} {a : α}

theorem eq_some_iff (h : Names ofName? name names) :
    ofName? t = some a ↔ lowercase (name a) = t := by
  constructor
  · exact h.named t a
  · rintro rfl
    exact h.read a

theorem mem_iff (h : Names ofName? name names) : t ∈ names ↔ (ofName? t).isSome := by
  refine ⟨h.stand t, fun ht => ?_⟩
  obtain ⟨a, ha⟩ := Option.isSome_iff_exists.1 ht
  rw [← h.named t a ha]
  exact h.listed a

theorem eq_none_iff (h : Names ofName? name names) : ofName? t = none ↔ t ∉ names := by
  rw [h.mem_iff, Option.not_isSome_iff_eq_none]

end Text.Names

namespace LogLevel

variable {l : LogLevel} {s : String} {e : LoggingError}

theorem names : Text.Names ofName? name Config.levelNames where
  read l := by cases l <;> decide
  named t l h := by
    unfold ofName? at h
    split at h <;> cases h <;> decide
  stand := by decide
  listed l := by cases l <;> decide

theorem parse_eq_ok_iff : parse s = .ok l ↔ Text.lowercase l.name = Text.lowercase s := by
  rw [← names.eq_some_iff, parse]
  cases ofName? (Text.lowercase s) <;> simp

theorem parse_eq_error_iff :
    parse s = .error e ↔ Text.lowercase s ∉ Config.levelNames ∧ e = .level s := by
  rw [← names.eq_none_iff, parse]
  cases ofName? (Text.lowercase s) <;> simp [eq_comm]

end LogLevel

namespace LogFormat

variable {f : LogFormat} {s : String} {e : LoggingError}

theorem names : Text.Names ofName? name Config.formatNames where
  read f := by cases f <;> decide
  named t f h := by
    unfold ofName? at h
    split at h <;> cases h <;> decide
  stand := by decide
  listed f := by cases f <;> decide

theorem parse_eq_ok_iff : parse s = .ok f ↔ Text.lowercase f.name = Text.lowercase s := by
  simp only [← names.eq_some_iff, parse]
  cases ofName? (Text.lowercase s) <;> simp

theorem parse_eq_error_iff : parse s = .error e ↔
    Text.lowercase s ∉ Config.formatNames ∧ e = .format (Text.lowercase s) := by
  simp only [← names.eq_none_iff, parse]
  cases ofName? (Text.lowercase s) <;> simp [eq_comm]

end LogFormat

/-! ## The check of a configuration -/

namespace Config

variable {c : Config} {t : String}

theorem validate_eq_level_iff : c.validate = .error (.level t) ↔
    Text.lowercase c.logging.level ∉ levelNames ∧ t = c.logging.level := by
  simp only [validate, Bool.not_eq_true', ← Bool.not_eq_true, List.contains_iff_mem]
  split_ifs with hl <;> simp [hl, eq_comm]

theorem validate_eq_format_iff : c.validate = .error (.format t) ↔
    Text.lowercase c.logging.level ∈ levelNames ∧
      Text.lowercase c.logging.format ∉ formatNames ∧ t = c.logging.format := by
  simp only [validate, Bool.not_eq_true', ← Bool.not_eq_true, List.contains_iff_mem]
  split_ifs with hl hf <;> simp_all [eq_comm]

/-- Both checks pass. -/
theorem validate_passes_iff :
    ((∀ t, c.validate ≠ .error (.level t)) ∧ ∀ t, c.validate ≠ .error (.format t)) ↔
      Text.lowercase c.logging.level ∈ levelNames ∧
        Text.lowercase c.logging.format ∈ formatNames := by
  simp only [ne_eq, validate_eq_level_iff, validate_eq_format_iff]
  grind

theorem validate_of_load {content : Option String} {env : Environment}
    (h : load content env = .ok c) : c.validate = .ok () := by
  unfold load at h
  split at h
  · cases h
  · split at h <;> cases h
    assumption

end Config

/-! ## The settings of the log -/

namespace LogSettings

variable {c c' : LoggingConfig} {s : LogSettings} {e : LoggingError}

/-- The settings have the level and the format that are named, and are else as by default. -/
theorem ofConfig_eq_ok_iff : ofConfig c = .ok s ↔
    Text.lowercase s.level.name = Text.lowercase c.level ∧
      Text.lowercase s.format.name = Text.lowercase c.format ∧
      s = { new s.level with format := s.format } := by
  rw [← LogLevel.parse_eq_ok_iff, ← LogFormat.parse_eq_ok_iff, ofConfig]
  cases LogLevel.parse c.level with
  | error => simp
  | ok l =>
    cases LogFormat.parse c.format with
    | error => simp
    | ok f =>
      simp only [Except.ok.injEq]
      constructor
      · rintro rfl
        exact ⟨rfl, rfl, rfl⟩
      · rintro ⟨rfl, rfl, hs⟩
        exact hs.symm

/-- The level is checked before the format. -/
theorem ofConfig_eq_error_iff : ofConfig c = .error e ↔
    (Text.lowercase c.level ∉ Config.levelNames ∧ e = .level c.level) ∨
      (Text.lowercase c.level ∈ Config.levelNames ∧
        Text.lowercase c.format ∉ Config.formatNames ∧ e = .format (Text.lowercase c.format)) := by
  have hlevel : Text.lowercase c.level ∈ Config.levelNames ↔
      ∃ l, LogLevel.parse c.level = .ok l := by
    cases h : LogLevel.parse c.level with
    | error e => simp [(LogLevel.parse_eq_error_iff.1 h).1]
    | ok l => simp [← LogLevel.parse_eq_ok_iff.1 h, LogLevel.names.listed l]
  rw [← LogLevel.parse_eq_error_iff, ← LogFormat.parse_eq_error_iff, hlevel, ofConfig]
  cases LogLevel.parse c.level with
  | error => simp
  | ok l => cases LogFormat.parse c.format <;> simp

theorem ofConfig_eq_ok_of_mem (hl : Text.lowercase c.level ∈ Config.levelNames)
    (hf : Text.lowercase c.format ∈ Config.formatNames) : ∃ s, ofConfig c = .ok s := by
  cases h : ofConfig c with
  | ok s => exact ⟨s, rfl⟩
  | error e =>
    rcases ofConfig_eq_error_iff.1 h with ⟨hl', -⟩ | ⟨-, hf', -⟩
    · exact absurd hl hl'
    · exact absurd hf hf'

theorem ofConfig_congr (hl : Text.lowercase c.level = Text.lowercase c'.level)
    (hf : Text.lowercase c.format = Text.lowercase c'.format) (s : LogSettings) :
    ofConfig c = .ok s ↔ ofConfig c' = .ok s := by
  simp only [ofConfig_eq_ok_iff, hl, hf]

end LogSettings

/-! ## Agreement -/

/-- The two checks of the names agree. -/
structure LoggingChecksAgree : Prop where
  /-- There are settings just for the configurations whose level and format pass. -/
  passes : ∀ c : Config, (∃ s, LogSettings.ofConfig c.logging = .ok s) ↔
    (∀ t, c.validate ≠ .error (.level t)) ∧ ∀ t, c.validate ≠ .error (.format t)
  /-- The same level is rejected. -/
  level : ∀ (c : Config) t, c.validate = .error (.level t) ↔
    LogSettings.ofConfig c.logging = .error (.level t)
  /-- The same format is rejected. The one check tells it in lower case. -/
  format : ∀ (c : Config) t, c.validate = .error (.format t) →
    LogSettings.ofConfig c.logging = .error (.format (Text.lowercase t))
  /-- A configuration that was loaded has settings, -/
  loaded : ∀ content env c, Config.load content env = .ok c →
    ∃ s, LogSettings.ofConfig c.logging = .ok s
  /-- so that no daemon fails to come up for its log, whatever the command line says. -/
  started : ∀ o shown content env e,
    Daemon.configure o shown content env ≠ .error (.logging e)
  /-- The settings are those that have the level and the format named, in any letter case. -/
  named : ∀ (c : LoggingConfig) (s : LogSettings), LogSettings.ofConfig c = .ok s ↔
    Text.lowercase s.level.name = Text.lowercase c.level ∧
      Text.lowercase s.format.name = Text.lowercase c.format ∧
      s = { LogSettings.new s.level with format := s.format }
  /-- They depend on nothing but the names in lower case. -/
  lowered : ∀ c c' : LoggingConfig, Text.lowercase c.level = Text.lowercase c'.level →
    Text.lowercase c.format = Text.lowercase c'.format →
    ∀ s, LogSettings.ofConfig c = .ok s ↔ LogSettings.ofConfig c' = .ok s

theorem ofConfig_eq_ok_iff_passes {c : Config} :
    (∃ s, LogSettings.ofConfig c.logging = .ok s) ↔
      (∀ t, c.validate ≠ .error (.level t)) ∧ ∀ t, c.validate ≠ .error (.format t) := by
  rw [Config.validate_passes_iff]
  constructor
  · rintro ⟨s, hs⟩
    obtain ⟨hl, hf, -⟩ := LogSettings.ofConfig_eq_ok_iff.1 hs
    rw [← hl, ← hf]
    exact ⟨LogLevel.names.listed _, LogFormat.names.listed _⟩
  · rintro ⟨hl, hf⟩
    exact LogSettings.ofConfig_eq_ok_of_mem hl hf

/-- A usable configuration has settings for its log. -/
theorem ofConfig_of_validate {c : Config} (h : c.validate = .ok ()) :
    ∃ s, LogSettings.ofConfig c.logging = .ok s := by
  refine ofConfig_eq_ok_iff_passes.2 ⟨?_, ?_⟩ <;> intro t ht <;> cases h.symm.trans ht

theorem Daemon.configure_ne_logging (o : DaemonOptions) (shown : String)
    (content : Option String) (env : Environment) (e : LoggingError) :
    configure o shown content env ≠ .error (.logging e) := by
  intro h
  simp only [configure] at h
  split at h
  · cases h
  · split at h
    · cases h
    · obtain ⟨s, hs⟩ := ofConfig_of_validate ‹_›
      rw [hs] at h
      cases h

theorem logging_checks_agree : LoggingChecksAgree where
  passes _ := ofConfig_eq_ok_iff_passes
  level c t := by
    rw [Config.validate_eq_level_iff, LogSettings.ofConfig_eq_error_iff]
    simp
  format c t h := by
    obtain ⟨hl, hf, rfl⟩ := Config.validate_eq_format_iff.1 h
    exact LogSettings.ofConfig_eq_error_iff.2 (.inr ⟨hl, hf, rfl⟩)
  loaded content env c h := ofConfig_of_validate (Config.validate_of_load h)
  started := Daemon.configure_ne_logging
  named _ _ := LogSettings.ofConfig_eq_ok_iff
  lowered _ _ := LogSettings.ofConfig_congr

/-- Every letter of a name may be large or small. -/
theorem logging_checks_agree_capitals :
    LogSettings.ofConfig ⟨"WaRn", "JSON"⟩ = .ok { LogSettings.new .warn with format := .json } :=
  (logging_checks_agree.lowered ⟨"WaRn", "JSON"⟩ ⟨"warn", "json"⟩ (by decide) (by decide) _).2 rfl

end SlotBroker
