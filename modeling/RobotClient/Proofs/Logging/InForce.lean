import RobotClient.Logging.Setup
import RobotClient.Proofs.Except

set_option autoImplicit false

/-! # Which settings are in force

A variable counts only if its value is text. One with a filter or a format counts only if its value
is one, one with an output counts whatever it is. What the settings say counts where no variable
does. A directive with a part that ends inside of a character ends the process, wherever it is
read. -/

namespace RobotClient

/-! ## Names of formats and outputs -/

/-- The name of a format. -/
def LogFormat.name : LogFormat → String
  | .text => "text"
  | .json => "json"

theorem LogFormat.ofName_name (format : LogFormat) : ofName format.name = .ok format := by
  cases format <;> decide

theorem LogFormat.ofName_eq_ok_iff {name : String} {format : LogFormat} :
    ofName name = .ok format ↔ name = format.name := by
  refine ⟨fun h => ?_, fun h => h ▸ ofName_name format⟩
  rw [ofName] at h
  split at h
  · next hname =>
    cases h
    exact hname
  · split at h
    · next hname =>
      cases h
      exact hname
    · cases h

theorem LogFormat.forall_ne_name_iff {name : String} :
    (∀ format : LogFormat, name ≠ format.name) ↔ name ≠ "json" ∧ name ≠ "text" := by
  refine ⟨fun h => ⟨h .json, h .text⟩, fun ⟨hjson, htext⟩ format => ?_⟩
  cases format <;> assumption

theorem LogFormat.ofName_eq_error_iff {name complaint : String} :
    ofName name = .error complaint ↔ (∀ format : LogFormat, name ≠ format.name)
      ∧ complaint = "Invalid log format: " ++ name ++ " (must be 'json' or 'text')" := by
  rw [forall_ne_name_iff, ofName]
  split
  · next hjson => simp [hjson]
  · next hjson =>
    split
    · next htext => simp [htext]
    · next htext => simp [hjson, htext, eq_comm]

/-- The name of an output. -/
def LogOutput.name : LogOutput → String
  | .stdout => "stdout"
  | .stderr => "stderr"
  | .file => "file"

theorem LogOutput.ofName_name (output : LogOutput) : ofName output.name = .ok output := by
  cases output <;> decide

theorem LogOutput.ofName_eq_ok_iff {name : String} {output : LogOutput} :
    ofName name = .ok output ↔ name = output.name := by
  refine ⟨fun h => ?_, fun h => h ▸ ofName_name output⟩
  rw [ofName] at h
  split at h
  · next hname =>
    cases h
    exact hname
  · split at h
    · next hname =>
      cases h
      exact hname
    · split at h
      · next hname =>
        cases h
        exact hname
      · cases h

theorem LogOutput.forall_ne_name_iff {name : String} :
    (∀ output : LogOutput, name ≠ output.name)
      ↔ name ≠ "stdout" ∧ name ≠ "stderr" ∧ name ≠ "file" := by
  refine ⟨fun h => ⟨h .stdout, h .stderr, h .file⟩, fun ⟨hstdout, hstderr, hfile⟩ output => ?_⟩
  cases output <;> assumption

theorem LogOutput.ofName_eq_error_iff {name complaint : String} :
    ofName name = .error complaint ↔ (∀ output : LogOutput, name ≠ output.name)
      ∧ complaint
        = "Invalid log output: " ++ name ++ " (must be 'stdout', 'stderr' or 'file')" := by
  rw [forall_ne_name_iff, ofName]
  split
  · next hstdout => simp [hstdout]
  · next hstdout =>
    split
    · next hstderr => simp [hstderr]
    · next hstderr =>
      split
      · next hfile => simp [hfile]
      · next hfile => simp [hstdout, hstderr, hfile, eq_comm]

namespace Logging

variable {env : Environment} {config : LoggingConfig}

/-! ## Directives -/

/-- Whether the level of a module is a directive. -/
def Reads (entry : String × String) (directive : Directive) : Prop :=
  Directive.parse (entry.1 ++ "=" ++ entry.2) = .ok directive

/-- Whether an error is that of the first module whose level is no directive. -/
def FirstUnreadable (modules : List (String × String)) (error : DirectiveError) : Prop :=
  FirstError (fun entry : String × String => Directive.parse (entry.1 ++ "=" ++ entry.2)) modules
    error

theorem addModules_eq (filter : LogFilter) (modules : List (String × String)) :
    addModules filter modules
      = (modules.mapM fun entry => moduleDirective entry.1 entry.2).map
        fun directives => directives.foldl LogFilter.add filter := by
  induction modules generalizing filter with
  | nil => rfl
  | cons entry modules ih =>
    obtain ⟨name, level⟩ := entry
    show ((moduleDirective name level).map filter.add >>= fun filter => addModules filter modules)
      = _
    rw [List.mapM_cons]
    cases moduleDirective name level with
    | error halt => rfl
    | ok directive =>
      show addModules (filter.add directive) modules = _
      rw [ih]
      cases modules.mapM fun entry => moduleDirective entry.1 entry.2 <;> rfl

theorem addModules_eq_ok_iff {filter filter' : LogFilter} {modules : List (String × String)} :
    addModules filter modules = .ok filter' ↔
      ∃ directives, List.Forall₂ Reads modules directives
        ∧ filter' = directives.foldl LogFilter.add filter := by
  simp only [addModules_eq, map_eq_ok, mapM_eq_ok, moduleDirective, mapError_eq_ok,
    eq_comm (a := filter')]
  rfl

theorem addModules_eq_error_iff {filter : LogFilter} {modules : List (String × String)}
    {halt : Halt} :
    addModules filter modules = .error halt ↔
      ∃ error, FirstUnreadable modules error ∧ halt = .ofDirective error := by
  simp only [addModules_eq, map_eq_error, mapM_eq_error, FirstUnreadable, FirstError,
    moduleDirective, mapError_eq_ok, mapError_eq_error]
  constructor
  · rintro ⟨before, entry, after, hsplit, hbefore, error, hentry, he⟩
    exact ⟨error, ⟨before, entry, after, hsplit, hbefore, hentry⟩, he⟩
  · rintro ⟨error, ⟨before, entry, after, hsplit, hbefore, hentry⟩, he⟩
    exact ⟨before, entry, after, hsplit, hbefore, error, hentry, he⟩

theorem mem_unread_iff {s text : String} {error : DirectiveError} :
    (text, error) ∈ (LogFilter.parseLenient s).2
      ↔ text ∈ LogFilter.directiveTexts s ∧ Directive.parse text = .error error := by
  rw [LogFilter.parseLenient, LogFilter.readLenient]
  induction LogFilter.directiveTexts s with
  | nil => simp
  | cons first texts ih =>
    rw [List.foldr_cons]
    cases hfirst : Directive.parse first with
    | ok directive =>
      have hne : ¬ (text = first ∧ Directive.parse text = .error error) := by
        rintro ⟨rfl, h⟩
        cases hfirst.symm.trans h
      simp only [List.mem_cons, or_and_right, hne, false_or]
      exact ih
    | error error' =>
      have heq : (text, error) = (first, error')
          ↔ text = first ∧ Directive.parse text = .error error := by
        rw [Prod.mk.injEq]
        refine and_congr_right fun h => ?_
        rw [h, hfirst, Except.error.injEq, eq_comm]
      simp only [List.mem_cons, or_and_right, heq]
      exact or_congr_right ih

/-! ## Filter -/

/-- Whether the variable with a filter has this one. -/
def FilterGiven (env : Environment) (filter : LogFilter) : Prop :=
  ∃ text, env.get? filterVariable = some text ∧ LogFilter.parse text = .ok filter

/-- Whether reading the variable with a filter ends the process. -/
def FilterCrashes (env : Environment) : Prop :=
  ∃ text, env.get? filterVariable = some text ∧ LogFilter.parse text = .error .insideCharacter

/-- Whether the variable with a filter does not count: none is set, or its value is no filter. -/
def FilterIgnored (env : Environment) : Prop :=
  (∀ given, ¬ FilterGiven env given) ∧ ¬ FilterCrashes env

/-- Whether reading the level of the settings ends the process. -/
def LevelCrashes (config : LoggingConfig) : Prop :=
  ∃ text ∈ LogFilter.directiveTexts config.level, Directive.parse text = .error .insideCharacter

/-- Whether a filter is the one of the settings: that of the level with the directives of all
modules, or the one that lets nothing pass. -/
def FilterSet (config : LoggingConfig) (filter : LogFilter) : Prop :=
  (config.level = "off" ∧ filter = .ofDirectives [{ target := none, threshold := none }])
    ∨ config.level ≠ "off" ∧ ¬ LevelCrashes config
      ∧ ∃ directives, List.Forall₂ Reads config.modules directives
        ∧ filter = directives.foldl LogFilter.add (LogFilter.parseLenient config.level).1

/-- Whether a filter is in force: the one that the variable has, else the one of the settings. -/
def FilterInForce (env : Environment) (config : LoggingConfig) (filter : LogFilter) : Prop :=
  FilterGiven env filter ∨ FilterIgnored env ∧ FilterSet config filter

/-- What is in the way of a filter of the settings. -/
inductive FilterUnset (config : LoggingConfig) : Halt → Prop
  | level (hlevel : config.level ≠ "off") (hcrash : LevelCrashes config) :
      FilterUnset config .crashed
  | module {error : DirectiveError} (hlevel : config.level ≠ "off")
      (hread : ¬ LevelCrashes config) (hmodules : FirstUnreadable config.modules error) :
      FilterUnset config (.ofDirective error)

/-- What is in the way of a filter. -/
inductive FilterFault (env : Environment) (config : LoggingConfig) : Halt → Prop
  | given (hcrash : FilterCrashes env) : FilterFault env config .crashed
  | settings {halt : Halt} (hignored : FilterIgnored env) (hunset : FilterUnset config halt) :
      FilterFault env config halt

theorem environmentFilter?_eq_some_iff {filter : LogFilter} :
    environmentFilter? env = .ok (some filter) ↔ FilterGiven env filter := by
  rw [environmentFilter?, FilterGiven]
  cases env.get? filterVariable with
  | none => simp
  | some text =>
    cases hparse : LogFilter.parse text with
    | ok given => simp [hparse]
    | error error => by_cases hcrash : error = .insideCharacter <;> simp [hparse, hcrash]

theorem environmentFilter?_eq_error_iff {halt : Halt} :
    environmentFilter? env = .error halt ↔ FilterCrashes env ∧ halt = .crashed := by
  rw [environmentFilter?, FilterCrashes]
  cases env.get? filterVariable with
  | none => simp
  | some text =>
    cases hparse : LogFilter.parse text with
    | ok given => simp [hparse]
    | error error =>
      by_cases hcrash : error = .insideCharacter <;> simp [hparse, hcrash, eq_comm]

theorem environmentFilter?_eq_none_iff :
    environmentFilter? env = .ok none ↔ FilterIgnored env := by
  simp only [FilterIgnored, ← environmentFilter?_eq_some_iff]
  have hcrash : environmentFilter? env = .error .crashed ↔ FilterCrashes env := by
    rw [environmentFilter?_eq_error_iff, and_iff_left rfl]
  rw [← hcrash]
  cases henv : environmentFilter? env with
  | error halt =>
    obtain ⟨-, rfl⟩ := environmentFilter?_eq_error_iff.1 henv
    simp
  | ok given => cases given <;> simp

theorem levelCrashes_iff : LevelCrashes config
    ↔ (LogFilter.parseLenient config.level).2.any (·.2 = .insideCharacter) := by
  simp only [LevelCrashes, List.any_eq_true, decide_eq_true_eq]
  constructor
  · rintro ⟨text, htext, hparse⟩
    exact ⟨(text, .insideCharacter), mem_unread_iff.2 ⟨htext, hparse⟩, rfl⟩
  · rintro ⟨⟨text, error⟩, hmem, rfl⟩
    exact ⟨text, mem_unread_iff.1 hmem⟩

theorem settingsFilter_eq_ok_iff {filter : LogFilter} :
    (settingsFilter config).2 = .ok filter ↔ FilterSet config filter := by
  rw [settingsFilter, FilterSet, levelCrashes_iff]
  split
  · next hoff =>
    rw [or_iff_left fun h => h.1 hoff, and_iff_right hoff, Except.ok.injEq, eq_comm]
  · next hon =>
    dsimp only
    split
    · next hcrash => simp [hon, hcrash]
    · next hread => simp [hon, hread, addModules_eq_ok_iff]

theorem filterUnset_iff {halt : Halt} : FilterUnset config halt ↔ config.level ≠ "off"
    ∧ (LevelCrashes config ∧ halt = .crashed ∨ ¬ LevelCrashes config
      ∧ ∃ error, FirstUnreadable config.modules error ∧ halt = .ofDirective error) := by
  constructor
  · intro h
    cases h with
    | level hlevel hcrash => exact ⟨hlevel, .inl ⟨hcrash, rfl⟩⟩
    | module hlevel hread hmodules => exact ⟨hlevel, .inr ⟨hread, _, hmodules, rfl⟩⟩
  · rintro ⟨hlevel, ⟨hcrash, rfl⟩ | ⟨hread, error, hmodules, rfl⟩⟩
    · exact .level hlevel hcrash
    · exact .module hlevel hread hmodules

theorem settingsFilter_eq_error_iff {halt : Halt} :
    (settingsFilter config).2 = .error halt ↔ FilterUnset config halt := by
  rw [filterUnset_iff, settingsFilter, levelCrashes_iff]
  split
  · next hoff => exact iff_of_false (by simp) fun h => h.1 hoff
  · next hon =>
    dsimp only
    split
    · next hcrash =>
      rw [and_iff_right hon, and_iff_right hcrash, or_iff_left fun h => h.1 hcrash,
        Except.error.injEq, eq_comm]
    · next hread =>
      rw [and_iff_right hon, or_iff_right fun h => hread h.1, and_iff_right hread,
        addModules_eq_error_iff]

theorem chooseFilter_eq_ok_iff {filter : LogFilter} :
    (chooseFilter env config).2 = .ok filter ↔ FilterInForce env config filter := by
  rw [chooseFilter, FilterInForce, ← environmentFilter?_eq_none_iff,
    ← environmentFilter?_eq_some_iff]
  cases environmentFilter? env with
  | error halt => simp
  | ok given => cases given <;> simp [settingsFilter_eq_ok_iff]

theorem chooseFilter_eq_error_iff {halt : Halt} :
    (chooseFilter env config).2 = .error halt ↔ FilterFault env config halt := by
  constructor
  · intro h
    rw [chooseFilter] at h
    split at h
    · next henv =>
      cases h
      obtain ⟨hcrash, rfl⟩ := environmentFilter?_eq_error_iff.1 henv
      exact .given hcrash
    · cases h
    · next henv =>
      exact .settings (environmentFilter?_eq_none_iff.1 henv) (settingsFilter_eq_error_iff.1 h)
  · intro h
    rw [chooseFilter]
    cases h with
    | given hcrash => rw [environmentFilter?_eq_error_iff.2 ⟨hcrash, rfl⟩]
    | settings hignored hunset =>
      rw [environmentFilter?_eq_none_iff.2 hignored]
      exact settingsFilter_eq_error_iff.2 hunset

/-! ## Format and output -/

/-- The format that the variable names. -/
def formatGiven? (env : Environment) : Option LogFormat :=
  (env.get? formatVariable).bind fun name => (LogFormat.ofName name).toOption

theorem formatGiven?_eq_some_iff {format : LogFormat} :
    formatGiven? env = some format ↔ env.get? formatVariable = some format.name := by
  rw [formatGiven?, Option.bind_eq_some_iff]
  constructor
  · rintro ⟨name, hname, hformat⟩
    cases hof : LogFormat.ofName name with
    | error complaint =>
      rw [hof] at hformat
      cases hformat
    | ok found =>
      rw [hof] at hformat
      cases hformat
      rw [hname, LogFormat.ofName_eq_ok_iff.1 hof]
  · intro h
    exact ⟨format.name, h, by rw [LogFormat.ofName_name]; rfl⟩

theorem formatGiven?_eq_none_iff :
    formatGiven? env = none ↔ ∀ given : LogFormat, env.get? formatVariable ≠ some given.name := by
  simp only [← formatGiven?_eq_some_iff, Option.eq_none_iff_forall_ne_some, ne_eq]

/-- Whether a format is in force: the one that the variable names, else the one of the settings. -/
def FormatInForce (env : Environment) (config : LoggingConfig) (format : LogFormat) : Prop :=
  env.get? formatVariable = some format.name
    ∨ (∀ given : LogFormat, env.get? formatVariable ≠ some given.name)
      ∧ config.format = format.name

theorem chooseFormat_eq_ok_iff {format : LogFormat} :
    chooseFormat env config = .ok format ↔ FormatInForce env config format := by
  rw [chooseFormat, ← formatGiven?, FormatInForce, ← formatGiven?_eq_none_iff,
    ← formatGiven?_eq_some_iff, ← LogFormat.ofName_eq_ok_iff]
  cases formatGiven? env with
  | some given => simp
  | none => simp [mapError_eq_ok]

theorem chooseFormat_eq_error_iff {e : ClientError} :
    chooseFormat env config = .error e ↔
      (∀ given : LogFormat, env.get? formatVariable ≠ some given.name)
        ∧ (∀ format : LogFormat, config.format ≠ format.name)
        ∧ e = .configuration
          ("Invalid log format: " ++ config.format ++ " (must be 'json' or 'text')") := by
  rw [chooseFormat, ← formatGiven?, ← formatGiven?_eq_none_iff]
  cases formatGiven? env with
  | some given => simp
  | none => simp [mapError_eq_error, LogFormat.ofName_eq_error_iff, and_assoc]

/-- The name of the output in force: the text of the variable, whatever it is, else that of the
settings. -/
def outputName (env : Environment) (config : LoggingConfig) : String :=
  (env.get? outputVariable).getD config.output

theorem chooseOutput_eq_ok_iff {output : LogOutput} :
    chooseOutput env config = .ok output ↔ outputName env config = output.name := by
  rw [chooseOutput, ← outputName, mapError_eq_ok, LogOutput.ofName_eq_ok_iff]

theorem chooseOutput_eq_error_iff {e : ClientError} :
    chooseOutput env config = .error e ↔
      (∀ output : LogOutput, outputName env config ≠ output.name)
        ∧ e = .configuration ("Invalid log output: " ++ outputName env config
          ++ " (must be 'stdout', 'stderr' or 'file')") := by
  rw [chooseOutput, ← outputName, mapError_eq_error]
  simp only [LogOutput.ofName_eq_error_iff, and_assoc, exists_and_left, exists_eq_left]

end Logging
end RobotClient
