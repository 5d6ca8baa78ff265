import RobotClient.Proofs.Logging.Setup

set_option autoImplicit false

/-! # Settings that pass their check

The check of the settings looks at level, format and output, and these do not fail then when logging
is set up. It does not look at the levels of modules, which can. -/

namespace RobotClient.Logging

variable {env : Environment} {config : LoggingConfig}

/-! ## The check -/

theorem validate_ok_iff :
    config.validate = .ok () ↔ config.level ∈ LoggingConfig.levelNames
      ∧ (∃ format : LogFormat, config.format = format.name)
      ∧ ∃ output : LogOutput, config.output = output.name := by
  simp only [← LogFormat.ofName_eq_ok_iff, ← LogOutput.ofName_eq_ok_iff]
  rw [LoggingConfig.validate]
  by_cases hlevel : config.level ∈ LoggingConfig.levelNames
  · cases LogFormat.ofName config.format <;> cases LogOutput.ofName config.output <;>
      simp [hlevel, discard, Functor.discard, Functor.mapConst, Except.map, bind, Except.bind]
  · simp [hlevel, throw, throwThe, MonadExceptOf.throw, bind, Except.bind]

/-- The names of levels are read in full. -/
theorem parseLenient_levelNames :
    ∀ level ∈ LoggingConfig.levelNames, (LogFilter.parseLenient level).2 = [] := by
  decide +kernel

/-! ## Levels of modules -/

theorem not_levelCrashes (hlevel : config.level ∈ LoggingConfig.levelNames) :
    ¬ LevelCrashes config := by
  rw [levelCrashes_iff, parseLenient_levelNames config.level hlevel]
  exact Bool.false_ne_true

/-- Whether the levels of all modules can be read, or do not count. -/
def ModulesRead (config : LoggingConfig) : Prop :=
  config.level = "off" ∨ ∀ entry ∈ config.modules, ∃ directive, Reads entry directive

theorem exists_filterSet_iff (hlevel : config.level ∈ LoggingConfig.levelNames) :
    (∃ filter, FilterSet config filter) ↔ ModulesRead config := by
  rw [ModulesRead, ← exists_forall₂_iff]
  by_cases hoff : config.level = "off"
  · exact ⟨fun _ => .inl hoff, fun _ => ⟨_, .inl ⟨hoff, rfl⟩⟩⟩
  · constructor
    · rintro ⟨filter, ⟨h, -⟩ | ⟨-, -, directives, hread, -⟩⟩
      · exact absurd h hoff
      · exact .inr ⟨directives, hread⟩
    · rintro (h | ⟨directives, hread⟩)
      · exact absurd h hoff
      · exact ⟨_, .inr ⟨hoff, not_levelCrashes hlevel, directives, hread, rfl⟩⟩

/-! ## Setting up without variables -/

section Unset

variable (hfilter : env.get? filterVariable = none) (hformat : env.get? formatVariable = none)
  (houtput : env.get? outputVariable = none)

include hfilter in
theorem filterIgnored_of_unset : FilterIgnored env := by
  constructor
  · rintro given ⟨text, htext, -⟩
    rw [hfilter] at htext
    cases htext
  · rintro ⟨text, htext, -⟩
    rw [hfilter] at htext
    cases htext

include hfilter in
theorem filterInForce_iff {filter : LogFilter} :
    FilterInForce env config filter ↔ FilterSet config filter := by
  have hignored := filterIgnored_of_unset hfilter
  refine ⟨fun h => ?_, fun h => .inr ⟨hignored, h⟩⟩
  rcases h with h | ⟨-, h⟩
  · exact absurd h (hignored.1 filter)
  · exact h

include hformat in
theorem formatInForce_iff {format : LogFormat} :
    FormatInForce env config format ↔ config.format = format.name := by
  simp [FormatInForce, hformat]

include houtput in
theorem outputName_eq : outputName env config = config.output := by
  rw [outputName, houtput, Option.getD_none]

include hfilter houtput in
/-- Of the steps for settings only the levels of modules can fail for settings that pass their
check. -/
theorem settingsFault_iff (hvalid : config.validate = .ok ()) {halt : Halt} :
    SettingsFault env config halt ↔ config.level ≠ "off" ∧ ∃ error,
      FirstUnreadable config.modules error ∧ halt = .ofDirective error := by
  obtain ⟨hlevel, ⟨format, hformat'⟩, output, houtput'⟩ := validate_ok_iff.1 hvalid
  have hignored := filterIgnored_of_unset hfilter
  constructor
  · intro h
    cases h with
    | filter hfault =>
      cases hfault with
      | given hcrash => exact absurd hcrash hignored.2
      | settings _ hunset =>
        cases hunset with
        | level _ hcrash => exact absurd hcrash (not_levelCrashes hlevel)
        | module hon _ hmodules => exact ⟨hon, _, hmodules, rfl⟩
    | format _ _ hnone => exact absurd hformat' (hnone format)
    | output _ _ hnone => exact absurd ((outputName_eq houtput).trans houtput') (hnone output)
  · rintro ⟨hon, error, hmodules, rfl⟩
    exact .filter (.settings hignored (.module hon (not_levelCrashes hlevel) hmodules))

include hfilter in
theorem InForce.modulesRead (hvalid : config.validate = .ok ()) {logger : Logger}
    (h : InForce env config logger) : ModulesRead config :=
  (exists_filterSet_iff (validate_ok_iff.1 hvalid).1).1 ⟨_, (filterInForce_iff hfilter).1 h.filter⟩

include houtput in
theorem InForce.output_eq_file_iff {logger : Logger} (h : InForce env config logger) :
    logger.output = .file ↔ config.output = "file" := by
  rw [← outputName_eq houtput, h.output]
  cases logger.output <;> decide

include hfilter hformat houtput in
theorem exists_inForce (hvalid : config.validate = .ok ()) (hread : ModulesRead config) :
    ∃ logger, InForce env config logger := by
  obtain ⟨hlevel, ⟨format, hformat'⟩, output, houtput'⟩ := validate_ok_iff.1 hvalid
  obtain ⟨filter, hset⟩ := (exists_filterSet_iff hlevel).2 hread
  refine ⟨⟨filter, format, output, config.color && output ≠ .file,
    config.file.getD (defaultFile env)⟩, ?_, ?_, ?_, rfl, rfl⟩
  · exact (filterInForce_iff hfilter).2 hset
  · exact (formatInForce_iff hformat).2 hformat'
  · exact (outputName_eq houtput).trans houtput'

end Unset

/-! ## Errors -/

/-- What is left to fail when settings pass their check and no variable is set. -/
inductive LeftFault (running : Bool) (env : Environment) (config : LoggingConfig)
    (tree : FileTree) : Halt → Prop
  | directive {error : DirectiveError} (hlevel : config.level ≠ "off")
      (hmodules : FirstUnreadable config.modules error) :
      LeftFault running env config tree (.ofDirective error)
  | file {e : ClientError} (hread : ModulesRead config) (houtput : config.output = "file")
      (hfile : FileFault tree (config.file.getD (defaultFile env)) e) :
      LeftFault running env config tree (.failed e)
  | running (hread : ModulesRead config)
      (hfile : config.output = "file" →
        ∀ e, ¬ FileFault tree (config.file.getD (defaultFile env)) e)
      (hrunning : running = true) :
      LeftFault running env config tree (.failed (.configuration
        ("Failed to initialize logging: "
          ++ "a global default trace dispatcher has already been set")))

theorem fault_iff (hvalid : config.validate = .ok ()) (hfilter : env.get? filterVariable = none)
    (hformat : env.get? formatVariable = none) (houtput : env.get? outputVariable = none)
    {running : Bool} {tree : FileTree} {halt : Halt} :
    Fault running env config tree halt ↔ LeftFault running env config tree halt := by
  have hsettings : SettingsFault env config halt ↔ _ := settingsFault_iff hfilter houtput hvalid
  constructor
  · intro h
    cases h with
    | settings hfault =>
      obtain ⟨hlevel, error, hmodules, rfl⟩ := hsettings.1 hfault
      exact .directive hlevel hmodules
    | file hforce hlogger hfile =>
      have hname := (hforce.output_eq_file_iff houtput).1 hlogger
      rw [hforce.file] at hfile
      exact .file (hforce.modulesRead hfilter hvalid) hname hfile
    | running hforce hfile hrunning =>
      rw [hforce.file, hforce.output_eq_file_iff houtput] at hfile
      exact .running (hforce.modulesRead hfilter hvalid) hfile hrunning
  · intro h
    cases h with
    | directive hlevel hmodules =>
      exact .settings (hsettings.2 ⟨hlevel, _, hmodules, rfl⟩)
    | file hread hname hfile =>
      obtain ⟨logger, hforce⟩ := exists_inForce hfilter hformat houtput hvalid hread
      rw [← hforce.file] at hfile
      exact .file hforce ((hforce.output_eq_file_iff houtput).2 hname) hfile
    | running hread hfile hrunning =>
      obtain ⟨logger, hforce⟩ := exists_inForce hfilter hformat houtput hvalid hread
      rw [← hforce.file, ← hforce.output_eq_file_iff houtput] at hfile
      exact .running hforce hfile hrunning

/-- **Setting logging up from settings that pass their check**, with no variable for it. Level,
format and output are found, with nothing of the level left unread. The filter is found exactly if
the levels of all modules can be read or do not count; then only a log file or logging that is set
up already can be in the way. Else the first module whose level cannot be read is. -/
theorem start_validated (hvalid : config.validate = .ok ())
    (hfilter : env.get? filterVariable = none) (hformat : env.get? formatVariable = none)
    (houtput : env.get? outputVariable = none) (running : Bool) (tree : FileTree) :
    (chooseFilter env config).1 = []
      ∧ (∃ format : LogFormat, config.format = format.name ∧ chooseFormat env config = .ok format)
      ∧ (∃ output : LogOutput, config.output = output.name ∧ chooseOutput env config = .ok output)
      ∧ ((∃ filter, (chooseFilter env config).2 = .ok filter) ↔ ModulesRead config)
      ∧ ∀ halt, (start running env config tree).result = .error halt
        ↔ LeftFault running env config tree halt := by
  obtain ⟨hlevel, ⟨format, hformat'⟩, output, houtput'⟩ := validate_ok_iff.1 hvalid
  refine ⟨?_, ⟨format, hformat', ?_⟩, ⟨output, houtput', ?_⟩, ?_, ?_⟩
  · have hnone := environmentFilter?_eq_none_iff.2 (filterIgnored_of_unset hfilter)
    have hunread := parseLenient_levelNames config.level hlevel
    rw [chooseFilter, hnone]
    show (settingsFilter config).1 = []
    rw [settingsFilter]
    by_cases hoff : config.level = "off"
    · rw [if_pos hoff]
    · rw [if_neg hoff]
      simp only [hunread, List.any_nil, Bool.false_eq_true, if_false]
  · exact chooseFormat_eq_ok_iff.2 ((formatInForce_iff hformat).2 hformat')
  · exact chooseOutput_eq_ok_iff.2 ((outputName_eq houtput).trans houtput')
  · simp only [chooseFilter_eq_ok_iff, filterInForce_iff hfilter, exists_filterSet_iff hlevel]
  · intro halt
    rw [start_eq_error_iff, fault_iff hvalid hfilter hformat houtput]

/-- Settings with a level for a module. -/
def moduleSettings (level : String) : LoggingConfig := { modules := [("rclctx", level)] }

theorem get?_empty (name : String) : Environment.get? {} name = none := rfl

theorem start_validated_debug :
    (moduleSettings "debug").validate = .ok ()
      ∧ Environment.get? {} filterVariable = none ∧ Environment.get? {} formatVariable = none
      ∧ Environment.get? {} outputVariable = none
      ∧ ∀ halt, (start false {} (moduleSettings "debug") {}).result ≠ .error halt := by
  have hvalid : (moduleSettings "debug").validate = .ok () := by decide
  have hread : ∀ entry ∈ (moduleSettings "debug").modules, ∃ directive, Reads entry directive := by
    intro entry hentry
    rw [List.mem_singleton.1 hentry]
    exact ⟨{ target := some "rclctx", threshold := some .debug }, by cbv⟩
  obtain ⟨-, -, -, -, herror⟩ := start_validated hvalid (get?_empty _) (get?_empty _)
    (get?_empty _) false {}
  refine ⟨hvalid, get?_empty _, get?_empty _, get?_empty _, fun halt h => ?_⟩
  cases (herror halt).1 h with
  | directive _ hmodules => exact hmodules.not_forall hread
  | file _ houtput _ => exact absurd houtput (by decide)
  | running _ _ hrunning => cases hrunning

/-- Settings that pass their check are refused for a level of a module that is none. -/
theorem validated_refused_chatty :
    (moduleSettings "chatty").validate = .ok ()
      ∧ (start false {} (moduleSettings "chatty") {}).result = .error (.failed (.configuration
        ("Invalid log directive: " ++ DirectiveError.unknownLevel.message))) := by
  decide +kernel

end RobotClient.Logging
