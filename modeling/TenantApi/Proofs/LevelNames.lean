import TenantApi.Proofs.LoggerSetup

/-!
Which texts set a level. A level is asked for in capitals among all names of the vocabulary of
logging. Text in capitals has no small letter, so it can only be the name of a level or one of two
others; these two make a set-up fail, and any text that is no name at all means the warning level.
-/

namespace TenantApi.Log

/-- Names of classes, functions, flags and the like, and of what every collection of names has. -/
def otherNames : List String := [
  "BufferingFormatter", "FileHandler", "Filter", "Filterer", "Formatter", "GenericAlias", "Handler",
  "LogRecord", "Logger", "LoggerAdapter", "Manager", "NullHandler", "PercentStyle", "PlaceHolder",
  "RootLogger", "StrFormatStyle", "StreamHandler", "StringTemplateStyle", "Template",
  "_StderrHandler", "__all__", "__annotations__", "__author__", "__builtins__", "__cached__",
  "__class__", "__date__", "__delattr__", "__dict__", "__dir__", "__doc__", "__eq__", "__file__",
  "__format__", "__ge__", "__getattribute__", "__getstate__", "__gt__", "__hash__", "__init__",
  "__init_subclass__", "__le__", "__loader__", "__lt__", "__name__", "__ne__", "__new__",
  "__package__", "__path__", "__reduce__", "__reduce_ex__", "__repr__", "__setattr__", "__sizeof__",
  "__spec__", "__status__", "__str__", "__subclasshook__", "__version__", "_acquireLock",
  "_addHandlerRef", "_after_at_fork_child_reinit_locks", "_at_fork_reinit_lock_weakset",
  "_checkLevel", "_defaultFormatter", "_defaultLastResort", "_handlerList", "_handlers",
  "_is_internal_frame", "_levelToName", "_lock", "_logRecordFactory", "_loggerClass",
  "_nameToLevel", "_register_at_fork_reinit_lock", "_releaseLock", "_removeHandlerRef",
  "_showwarning", "_srcfile", "_startTime", "_str_formatter", "_warnings_showwarning",
  "addLevelName", "atexit", "basicConfig", "captureWarnings", "collections", "config", "critical",
  "currentframe", "debug", "disable", "error", "exception", "fatal", "getLevelName",
  "getLevelNamesMapping", "getLogRecordFactory", "getLogger", "getLoggerClass", "handlers", "info",
  "io", "lastResort", "log", "logMultiprocessing", "logProcesses", "logThreads", "makeLogRecord",
  "os", "raiseExceptions", "re", "root", "setLogRecordFactory", "setLoggerClass", "shutdown", "sys",
  "threading", "time", "traceback", "warn", "warning", "warnings", "weakref"]

def vocabulary : List String :=
  (levels ++ levelSynonyms).map Prod.fst ++ reservedNames.map Prod.fst ++ otherNames

/-- What a name stands for when a level is asked for by it. -/
inductive Resolves (name : String) : Except SetupFault Int → Prop where
  | level {number : Int} (entry : (name, number) ∈ levels ++ levelSynonyms) :
      Resolves name (.ok number)
  | form (same : name = "BASIC_FORMAT") : Resolves name (.error .unknownLevel)
  | styles (same : name = "_STYLES") : Resolves name (.error .notALevel)
  | nothing (absent : name ∉ vocabulary) : Resolves name (.ok warning)

def capitals (text : String) : String := String.ofList (Text.upper text.toList)

section Names
variable {text : String} {result : Except SetupFault Int}

theorem ofNat_capital {code : Nat} (apart : code < 97 ∨ 122 < code) :
    (Char.ofNat code).isLower = false := by
  have image := Char.toNat_ofNat code
  have bounds : (Char.ofNat code).isLower =
      (decide (97 ≤ (Char.ofNat code).toNat) && decide ((Char.ofNat code).toNat ≤ 122)) := rfl
  rw [bounds, image]
  split
  · simp
    omega
  · rfl

-- No capital of a letter beyond ASCII is a small letter of ASCII.
theorem capitals_apart {code : Nat} {codes : List Nat} (found : Text.capitals? code = some codes) :
    ∀ capital ∈ codes, capital < 97 ∨ 122 < capital := by
  have long : ∀ entry ∈ Text.longCapitals, ∀ capital ∈ entry.2, capital < 97 ∨ 122 < capital := by
    decide +kernel
  have single : ∀ entry ∈ Text.capitalPairs, entry.2 < 97 ∨ 122 < entry.2 := by decide +kernel
  have runs : ∀ run ∈ Text.capitalRuns, 122 < run.capital := by decide +kernel
  rw [Text.capitals?, Option.or_eq_some_iff] at found
  rcases found with listed | ⟨_, other⟩
  · exact long _ (Keyed.lookup_mem listed)
  · obtain ⟨capital, found, rfl⟩ := Option.map_eq_some_iff.mp other
    simp only [List.mem_singleton, forall_eq]
    rcases Option.or_eq_some_iff.mp found with listed | ⟨_, ran⟩
    · exact single _ (Keyed.lookup_mem listed)
    · obtain ⟨run, listed, made⟩ := List.exists_of_findSome?_eq_some ran
      have above := runs run listed
      rw [Text.CapitalRun.capital?] at made
      split at made
      · cases made
        omega
      · contradiction

theorem upper_capital (text : List Char) : ∀ c ∈ Text.upper text, c.isLower = false := by
  intro c member
  obtain ⟨origin, _, image⟩ := List.mem_flatMap.mp member
  rw [Text.upperChar] at image
  split at image
  case isTrue =>
    rw [List.mem_singleton.mp image]
    exact Char.isLower_toUpper_eq_false origin
  case isFalse foreign =>
    split at image
    case h_1 codes found =>
      obtain ⟨capital, listed, rfl⟩ := List.mem_map.mp image
      exact ofNat_capital (capitals_apart found capital listed)
    case h_2 =>
      -- a character beyond ASCII that stays as it is
      rw [List.mem_singleton.mp image, ← Char.ofNat_toNat origin]
      exact ofNat_capital (.inr (by omega))

theorem capitals_other (text : String) : capitals text ∉ otherNames := by
  have small : (otherNames.all fun name => name.toList.any Char.isLower) = true := by
    decide +kernel
  intro other
  obtain ⟨c, member, lower⟩ := List.any_eq_true.mp (List.all_eq_true.mp small _ other)
  rw [capitals, String.toList_ofList] at member
  exact Bool.false_ne_true ((upper_capital _ c member).symm.trans lower)

theorem mem_vocabulary {name : String} : name ∈ vocabulary ↔
    (levelNamed? name).isSome = true ∨ (reservedNames.lookup name).isSome = true ∨
      name ∈ otherNames := by
  rw [vocabulary, List.mem_append, List.mem_append, or_assoc, levelNamed?, Keyed.lookup_isSome,
    Keyed.lookup_isSome]

theorem levelOf_resolves (text : String) : Resolves (capitals text) (levelOf text) := by
  simp only [levelOf]
  rw [← capitals]
  cases reserved : reservedNames.lookup (capitals text) with
  | some fault =>
      have entry := Keyed.lookup_mem reserved
      simp only [reservedNames, List.mem_cons, List.not_mem_nil, or_false, Prod.mk.injEq] at entry
      rcases entry with ⟨same, rfl⟩ | ⟨same, rfl⟩
      · exact .form same
      · exact .styles same
  | none =>
      cases named : levelNamed? (capitals text) with
      | some number => exact .level (Keyed.lookup_mem named)
      | none =>
          refine .nothing fun known => ?_
          rw [mem_vocabulary, named, reserved] at known
          simp [capitals_other] at known

-- The name of a level is not one of the two others.
theorem Resolves.levelOf (resolves : Resolves (capitals text) result) : levelOf text = result := by
  have apart : ((levels ++ levelSynonyms).all fun entry =>
      levelNamed? entry.1 = some entry.2 ∧ reservedNames.lookup entry.1 = none) = true := by decide
  simp only [Log.levelOf]
  rw [← capitals]
  cases resolves with
  | level entry =>
      have listed := List.all_eq_true.mp apart _ entry
      simp only [decide_eq_true_eq] at listed
      rw [listed.1, listed.2]
      rfl
  | form same => rw [same]; rfl
  | styles same => rw [same]; rfl
  | nothing absent =>
      simp only [mem_vocabulary, not_or, Option.isSome_iff_ne_none, not_not] at absent
      rw [absent.1, absent.2.1]
      rfl

theorem levelOf_iff : levelOf text = result ↔ Resolves (capitals text) result := by
  constructor
  · rintro rfl
    exact levelOf_resolves text
  · exact Resolves.levelOf

end Names

/-! ## Set-ups -/

/-- Two names, in capitals, are names of something by which no level can be asked for. -/
theorem resolves_error_iff {name : String} :
    (∃ fault, Resolves name (.error fault)) ↔ name ∈ ["BASIC_FORMAT", "_STYLES"] := by
  rw [List.mem_pair]
  constructor
  · rintro ⟨fault, resolves⟩
    cases resolves with
    | form same => exact .inl same
    | styles same => exact .inr same
  · rintro (same | same)
    · exact ⟨_, .form same⟩
    · exact ⟨_, .styles same⟩

theorem configure_level (settings : Settings) (level format : Option String) (loggers : Loggers) :
    let outcome := (configure settings level format).run.run loggers
    (outcome.1.map fun _ => outcome.2.own.level) =
      levelOf (Settings.orSetting level settings.logLevel) := by
  intro outcome
  have changes : outcome = _ := configure_run settings level format loggers
  rw [changes, setUp]
  cases levelOf (Settings.orSetting level settings.logLevel) <;> rfl

theorem configure_failed (settings : Settings) (level format : Option String)
    (loggers : Loggers) :
    let outcome := (configure settings level format).run.run loggers
    ∀ fault, outcome.1 = .error fault → outcome.2 = loggers := by
  intro outcome fault failed
  have changes : outcome = _ := configure_run settings level format loggers
  cases made : setUp settings level format with
  | error other => rw [changes, made]
  | ok logger =>
      rw [changes, made] at failed
      contradiction

/-- For every text and all settings, a set-up comes to what the name of its level stands for: it
fails by two names, and otherwise sets the level of that name, or the warning level for none. -/
theorem set_up_resolves (settings : Settings) (level format : Option String) (loggers : Loggers) :
    let outcome := (configure settings level format).run.run loggers
    ∃ text, Chosen level settings.logLevel text ∧
      (∀ result, (outcome.1.map fun _ => outcome.2.own.level) = result ↔
        Resolves (capitals text) result) ∧
      ((∃ fault, outcome.1 = .error fault) ↔ capitals text ∈ ["BASIC_FORMAT", "_STYLES"]) ∧
      ∀ fault, outcome.1 = .error fault → outcome.2 = loggers := by
  intro outcome
  have exact : ∀ result, (outcome.1.map fun _ => outcome.2.own.level) = result ↔
      Resolves (capitals (Settings.orSetting level settings.logLevel)) result := by
    intro result
    rw [configure_level, levelOf_iff]
  refine ⟨_, chosen_iff.mpr rfl, exact, ?_, configure_failed settings level format loggers⟩
  simp only [← resolves_error_iff, ← exact]
  cases outcome.1 <;> simp [Except.map]

theorem form_name_refused :
    ¬∀ (settings : Settings) (level format : Option String) (loggers : Loggers),
      let outcome := (configure settings level format).run.run loggers
      ∃ text number, Chosen level settings.logLevel text ∧ outcome.1 = .ok () ∧
        HasLevel (capitals text) number ∧ outcome.2.own.level = number := by
  intro accepted
  obtain ⟨_, _, _, done, _⟩ := accepted .standard (some "basic_format") none ⟨.bare, .bare⟩
  rw [configure_run] at done
  have failed : setUp .standard (some "basic_format") none = .error .unknownLevel := by
    decide +kernel
  rw [failed] at done
  contradiction

end TenantApi.Log
