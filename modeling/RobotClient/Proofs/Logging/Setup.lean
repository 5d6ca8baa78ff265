import Mathlib.Tactic.Common
import RobotClient.Proofs.FileTree
import RobotClient.Proofs.Logging.InForce

set_option autoImplicit false

/-! # What setting logging up does, step by step

The steps are the filter with the directives of the modules, the format, the output, the directory
of the log file, the file itself and, last, taking the process over. The error is that of the first
step that fails, and only the steps for the file change the file tree. -/

namespace RobotClient.Logging

variable {env : Environment} {config : LoggingConfig} {tree : FileTree}

/-! ## Steps that look at settings -/

/-- Whether a logger is the one that environment and settings ask for. -/
structure InForce (env : Environment) (config : LoggingConfig) (logger : Logger) : Prop where
  filter : FilterInForce env config logger.filter
  format : FormatInForce env config logger.format
  output : outputName env config = logger.output.name
  color : logger.color = (config.color && logger.output ≠ .file)
  file : logger.file = config.file.getD (defaultFile env)

/-- What the first of the steps for settings that fails comes to. -/
inductive SettingsFault (env : Environment) (config : LoggingConfig) : Halt → Prop
  | filter {halt : Halt} (hfilter : FilterFault env config halt) : SettingsFault env config halt
  | format {filter : LogFilter} (hfilter : FilterInForce env config filter)
      (hgiven : ∀ given : LogFormat, env.get? formatVariable ≠ some given.name)
      (hformat : ∀ format : LogFormat, config.format ≠ format.name) :
      SettingsFault env config (.failed (.configuration
        ("Invalid log format: " ++ config.format ++ " (must be 'json' or 'text')")))
  | output {filter : LogFilter} {format : LogFormat} (hfilter : FilterInForce env config filter)
      (hformat : FormatInForce env config format)
      (houtput : ∀ output : LogOutput, outputName env config ≠ output.name) :
      SettingsFault env config (.failed (.configuration ("Invalid log output: "
        ++ outputName env config ++ " (must be 'stdout', 'stderr' or 'file')")))

theorem plan_snd (env : Environment) (config : LoggingConfig) :
    (plan env config).2 = do
      let filter ← (chooseFilter env config).2
      let format ← (chooseFormat env config).mapError .failed
      let output ← (chooseOutput env config).mapError .failed
      return {
        filter, format, output
        color := config.color && output ≠ .file
        file := config.file.getD (defaultFile env) } := rfl

theorem plan_eq_ok_iff {logger : Logger} :
    (plan env config).2 = .ok logger ↔ InForce env config logger := by
  simp only [plan_snd, bind_eq_ok, pure_eq_ok, mapError_eq_ok, chooseFilter_eq_ok_iff,
    chooseFormat_eq_ok_iff, chooseOutput_eq_ok_iff]
  constructor
  · rintro ⟨filter, hfilter, format, hformat, output, houtput, rfl⟩
    exact ⟨hfilter, hformat, houtput, rfl, rfl⟩
  · rintro ⟨hfilter, hformat, houtput, hcolor, hfile⟩
    refine ⟨logger.filter, hfilter, logger.format, hformat, logger.output, houtput, ?_⟩
    rw [← hcolor, ← hfile]

theorem plan_eq_error_iff {halt : Halt} :
    (plan env config).2 = .error halt ↔ SettingsFault env config halt := by
  simp only [plan_snd, bind_eq_error, pure_ne_error, mapError_eq_ok, mapError_eq_error,
    chooseFilter_eq_ok_iff, chooseFilter_eq_error_iff, chooseFormat_eq_ok_iff,
    chooseFormat_eq_error_iff, chooseOutput_eq_error_iff, and_false, exists_false, or_false]
  constructor
  · rintro (hfilter | ⟨filter, hfilter, ⟨e, ⟨hgiven, hset, rfl⟩, rfl⟩
      | ⟨format, hformat, e, ⟨hnone, rfl⟩, rfl⟩⟩)
    · exact .filter hfilter
    · exact .format hfilter hgiven hset
    · exact .output hfilter hformat hnone
  · intro h
    cases h with
    | filter hfilter => exact .inl hfilter
    | format hfilter hgiven hset =>
      exact .inr ⟨_, hfilter, .inl ⟨_, ⟨hgiven, hset, rfl⟩, rfl⟩⟩
    | output hfilter hformat hnone =>
      exact .inr ⟨_, hfilter, .inr ⟨_, hformat, _, ⟨hnone, rfl⟩, rfl⟩⟩

/-! ## Steps for the log file -/

/-- The error of the first of the steps for a log file that fails. -/
inductive FileFault (tree : FileTree) (file : String) : ClientError → Prop
  | directory {failure : FileTree.Failure}
      (hdirectory : (tree.createDirectories file).1 = .error failure) :
      FileFault tree file (.configuration ("Failed to create log directory: " ++ failure.message))
  | file {tree' : FileTree} {failure : FileTree.Failure}
      (hdirectory : tree.createDirectories file = (.ok (), tree'))
      (hfile : tree'.openForAppend file = .error failure) :
      FileFault tree file (.configuration
        ("Failed to open log file " ++ Text.quotedPath file ++ ": " ++ failure.message))

theorem openFile_eq_error_iff {file : String} {e : ClientError} :
    (openFile tree file).1 = .error e ↔ FileFault tree file e := by
  constructor
  · intro h
    rw [openFile] at h
    split at h
    · next failure tree' hdirectory =>
      cases h
      exact .directory (by rw [hdirectory])
    · next tree' hdirectory =>
      split at h
      · next failure hfile =>
        cases h
        exact .file hdirectory hfile
      · cases h
  · intro h
    rw [openFile]
    cases h with
    | @directory failure hdirectory =>
      have hcreated : tree.createDirectories file
          = (.error failure, (tree.createDirectories file).2) := by rw [← hdirectory]
      rw [hcreated]
    | file hdirectory hfile =>
      rw [hdirectory]
      simp only [hfile]

theorem openFile_eq_ok_iff {file : String} :
    (openFile tree file).1 = .ok () ↔ ∀ e, ¬ FileFault tree file e := by
  simp only [← openFile_eq_error_iff]
  cases (openFile tree file).1 <;> simp

/-- A log file that is opened is there with the directories above it. -/
theorem addsPath_of_openFile {file : String} (h : (openFile tree file).1 = .ok ()) :
    tree.AddsPath (openFile tree file).2 file := by
  have hadds := tree.createDirectories_adds file
  rw [openFile] at h ⊢
  split at h
  · cases h
  · next tree' hdirectory =>
    rw [hdirectory] at hadds
    split at h
    · cases h
    · next tree'' hfile => exact hadds.open_file hfile

/-- A log file that is not opened leaves at most directories above it. -/
theorem addsDirectories_of_openFile {file : String} {e : ClientError}
    (h : (openFile tree file).1 = .error e) :
    tree.AddsDirectories (openFile tree file).2 (tree.Above file) := by
  have hadds := tree.createDirectories_adds file
  rw [openFile] at h ⊢
  split at h
  · next failure tree' hdirectory =>
    rw [hdirectory] at hadds
    exact hadds
  · next tree' hdirectory =>
    rw [hdirectory] at hadds
    split at h
    · exact hadds
    · cases h

/-! ## All steps -/

/-- What the first step that fails comes to; `running` tells whether logging was set up before. -/
inductive Fault (running : Bool) (env : Environment) (config : LoggingConfig) (tree : FileTree) :
    Halt → Prop
  | settings {halt : Halt} (hsettings : SettingsFault env config halt) :
      Fault running env config tree halt
  | file {logger : Logger} {e : ClientError} (hforce : InForce env config logger)
      (houtput : logger.output = .file) (hfile : FileFault tree logger.file e) :
      Fault running env config tree (.failed e)
  | running {logger : Logger} (hforce : InForce env config logger)
      (hfile : logger.output = .file → ∀ e, ¬ FileFault tree logger.file e)
      (hrunning : running = true) :
      Fault running env config tree (.failed (.configuration ("Failed to initialize logging: "
        ++ "a global default trace dispatcher has already been set")))

theorem InForce.unique {logger logger' : Logger} (h : InForce env config logger)
    (h' : InForce env config logger') : logger = logger' :=
  Except.ok.inj ((plan_eq_ok_iff.2 h).symm.trans (plan_eq_ok_iff.2 h'))

theorem InForce.not_settingsFault {logger : Logger} (h : InForce env config logger)
    {halt : Halt} : ¬ SettingsFault env config halt := by
  intro h'
  cases (plan_eq_ok_iff.2 h).symm.trans (plan_eq_error_iff.2 h')

theorem inForce_or_settingsFault (env : Environment) (config : LoggingConfig) :
    (∃ logger, InForce env config logger) ∨ ∃ halt, SettingsFault env config halt := by
  cases hplan : (plan env config).2 with
  | ok logger => exact .inl ⟨logger, plan_eq_ok_iff.1 hplan⟩
  | error halt => exact .inr ⟨halt, plan_eq_error_iff.1 hplan⟩

/-- What the steps for the file come to, if the logger has one. -/
def openOutput (tree : FileTree) (logger : Logger) : Except ClientError Unit × FileTree :=
  if logger.output = .file then openFile tree logger.file else (.ok (), tree)

theorem openOutput_eq_error_iff {logger : Logger} {e : ClientError} :
    (openOutput tree logger).1 = .error e
      ↔ logger.output = .file ∧ FileFault tree logger.file e := by
  rw [openOutput, ← openFile_eq_error_iff]
  by_cases houtput : logger.output = .file <;> simp [houtput]

theorem openOutput_eq_ok_iff {logger : Logger} :
    (openOutput tree logger).1 = .ok ()
      ↔ (logger.output = .file → ∀ e, ¬ FileFault tree logger.file e) := by
  rw [openOutput, ← openFile_eq_ok_iff]
  by_cases houtput : logger.output = .file <;> simp [houtput]

theorem start_of_settingsFault (running : Bool) {halt : Halt} (h : SettingsFault env config halt) :
    start running env config tree = ⟨.error halt, (plan env config).1, tree⟩ := by
  have hplan : plan env config = ((plan env config).1, .error halt) := by
    rw [← plan_eq_error_iff.2 h]
  rw [start, hplan]

/-- What is left to do when all settings are found. -/
def takeOver (running : Bool) (tree : FileTree) (logger : Logger) : Except Halt Logger := do
  (openOutput tree logger).1.mapError .failed
  if running then
    throw (.failed (.configuration ("Failed to initialize logging: "
      ++ "a global default trace dispatcher has already been set")))
  return logger

theorem start_of_inForce (running : Bool) {logger : Logger} (h : InForce env config logger) :
    start running env config tree
      = ⟨takeOver running tree logger, (plan env config).1, (openOutput tree logger).2⟩ := by
  have hplan : plan env config = ((plan env config).1, .ok logger) := by
    rw [← plan_eq_ok_iff.2 h]
  rw [start, hplan]
  rfl

theorem takeOver_eq_ok_iff {running : Bool} {logger logger' : Logger} :
    takeOver running tree logger = .ok logger' ↔ logger = logger'
      ∧ (logger.output = .file → ∀ e, ¬ FileFault tree logger.file e) ∧ running = false := by
  rw [← openOutput_eq_ok_iff, takeOver]
  cases (openOutput tree logger).1 <;> cases running <;>
    simp [Except.mapError, bind, Except.bind, pure, Except.pure, throw, throwThe,
      MonadExceptOf.throw]

theorem takeOver_eq_error_iff {running : Bool} {logger : Logger} {halt : Halt} :
    takeOver running tree logger = .error halt ↔
      (∃ e, (logger.output = .file ∧ FileFault tree logger.file e) ∧ halt = .failed e)
      ∨ (logger.output = .file → ∀ e, ¬ FileFault tree logger.file e) ∧ running = true
        ∧ halt = .failed (.configuration ("Failed to initialize logging: "
          ++ "a global default trace dispatcher has already been set")) := by
  simp only [← openOutput_eq_ok_iff, ← openOutput_eq_error_iff]
  rw [takeOver]
  cases (openOutput tree logger).1 <;> cases running <;>
    simp [Except.mapError, bind, Except.bind, pure, Except.pure, throw, throwThe,
      MonadExceptOf.throw, eq_comm]

theorem start_eq_error_iff {running : Bool} {halt : Halt} :
    (start running env config tree).result = .error halt ↔ Fault running env config tree halt := by
  constructor
  · intro h
    rcases inForce_or_settingsFault env config with ⟨logger, hforce⟩ | ⟨halt', hsettings⟩
    · rw [start_of_inForce running hforce, takeOver_eq_error_iff] at h
      rcases h with ⟨e, ⟨houtput, hfile⟩, rfl⟩ | ⟨hfile, hrunning, rfl⟩
      · exact .file hforce houtput hfile
      · exact .running hforce hfile hrunning
    · rw [start_of_settingsFault running hsettings] at h
      obtain rfl := Except.error.inj h
      exact .settings hsettings
  · intro h
    cases h with
    | settings hsettings => rw [start_of_settingsFault running hsettings]
    | file hforce houtput hfile =>
      rw [start_of_inForce running hforce, takeOver_eq_error_iff]
      exact .inl ⟨_, ⟨houtput, hfile⟩, rfl⟩
    | running hforce hfile hrunning =>
      rw [start_of_inForce running hforce, takeOver_eq_error_iff]
      exact .inr ⟨hfile, hrunning, rfl⟩

theorem start_eq_ok_iff {running : Bool} {logger : Logger} :
    (start running env config tree).result = .ok logger ↔ InForce env config logger
      ∧ (logger.output = .file → ∀ e, ¬ FileFault tree logger.file e) ∧ running = false := by
  constructor
  · intro h
    rcases inForce_or_settingsFault env config with ⟨logger', hforce⟩ | ⟨halt, hsettings⟩
    · rw [start_of_inForce running hforce, takeOver_eq_ok_iff] at h
      obtain ⟨rfl, hfile, hrunning⟩ := h
      exact ⟨hforce, hfile, hrunning⟩
    · rw [start_of_settingsFault running hsettings] at h
      cases h
  · rintro ⟨hforce, hfile, hrunning⟩
    rw [start_of_inForce running hforce, takeOver_eq_ok_iff]
    exact ⟨rfl, hfile, hrunning⟩

/-- Only a log file changes the tree. -/
theorem start_tree_of_not_file (running : Bool)
    (h : (∃ halt, SettingsFault env config halt) ∨ outputName env config ≠ "file") :
    (start running env config tree).tree = tree := by
  rcases inForce_or_settingsFault env config with ⟨logger, hforce⟩ | ⟨halt, hsettings⟩
  · have houtput : logger.output ≠ .file := by
      intro hfile
      rcases h with ⟨halt, hsettings⟩ | hname
      · exact hforce.not_settingsFault hsettings
      · rw [hforce.output, hfile] at hname
        exact hname rfl
    rw [start_of_inForce running hforce, openOutput, if_neg houtput]
  · rw [start_of_settingsFault running hsettings]

/-- A log file that can be opened is there then with the directories above it, else at most
directories above it are new. -/
theorem start_tree_of_file (running : Bool) {logger : Logger} (hforce : InForce env config logger)
    (houtput : logger.output = .file) :
    (∀ e, ¬ FileFault tree logger.file e)
        ∧ tree.AddsPath (start running env config tree).tree logger.file
      ∨ ∃ e, FileFault tree logger.file e
        ∧ (start running env config tree).result = .error (.failed e)
        ∧ tree.AddsDirectories (start running env config tree).tree (tree.Above logger.file) := by
  have htree : (start running env config tree).tree = (openFile tree logger.file).2 := by
    rw [start_of_inForce running hforce, openOutput, if_pos houtput]
  rw [htree]
  cases hopened : (openFile tree logger.file).1 with
  | ok done => exact .inl ⟨openFile_eq_ok_iff.1 hopened, addsPath_of_openFile hopened⟩
  | error e =>
    have hfile := openFile_eq_error_iff.1 hopened
    exact .inr ⟨e, hfile, start_eq_error_iff.2 (.file hforce houtput hfile),
      addsDirectories_of_openFile hopened⟩

/-- **Setting logging up, step by step.** It succeeds with the logger in force if its log file can
be opened and logging was not set up before, else the error is that of the first step that fails.
The file tree stays as it is if a step for settings fails or no log file is asked for. Else it gets
the log file and the directories above it, or, where a step for the file fails, at most directories
above it; what was there stays. Without settings those by default count. -/
theorem start_stepwise (running : Bool) (env : Environment) (settings : Option LoggingConfig)
    (tree : FileTree) :
    let config := settings.getD {}
    let setup := start running env config tree
    (∀ logger, setup.result = .ok logger ↔ InForce env config logger
        ∧ (logger.output = .file → ∀ e, ¬ FileFault tree logger.file e) ∧ running = false)
      ∧ (∀ e, setup.result = .error (.failed e) ↔ Fault running env config tree (.failed e))
      ∧ ((∃ e, SettingsFault env config (.failed e)) ∨ outputName env config ≠ "file" →
          setup.tree = tree)
      ∧ ∀ logger, InForce env config logger → logger.output = .file →
          (∀ e, ¬ FileFault tree logger.file e) ∧ tree.AddsPath setup.tree logger.file
            ∨ ∃ e, FileFault tree logger.file e ∧ setup.result = .error (.failed e)
              ∧ tree.AddsDirectories setup.tree (tree.Above logger.file) := by
  intro config setup
  refine ⟨fun logger => start_eq_ok_iff, fun e => start_eq_error_iff, ?_, ?_⟩
  · rintro (⟨e, hsettings⟩ | houtput)
    · exact start_tree_of_not_file running (.inl ⟨.failed e, hsettings⟩)
    · exact start_tree_of_not_file running (.inr houtput)
  · intro logger hforce houtput
    exact start_tree_of_file running hforce houtput

/-- Settings with a log file and the output by default. -/
def fileSettings : LoggingConfig := { file := some "logs/a.log" }

/-- An environment that sends the log to a file. -/
def fileEnv : Environment :=
  { entries := [Environment.entry outputVariable (Text.Utf8.encode "file")] }

/-- The logger for them. -/
def fileLogger : Logger where
  filter := ⟨[{ target := none, threshold := some .info }]⟩
  format := .text
  output := .file
  color := false
  file := "logs/a.log"

theorem plan_fileSettings : (plan fileEnv fileSettings).2 = .ok fileLogger := by cbv

theorem openFile_fileLogger : (openFile {} fileLogger.file).1 = .ok () := rfl

theorem start_stepwise_fileEnv :
    (start false fileEnv fileSettings {}).result = .ok fileLogger
      ∧ FileTree.AddsPath {} (start false fileEnv fileSettings {}).tree "logs/a.log" := by
  obtain ⟨hok, -, -, hfile⟩ := start_stepwise false fileEnv (some fileSettings) {}
  have hforce : InForce fileEnv fileSettings fileLogger := plan_eq_ok_iff.1 plan_fileSettings
  have hnone := openFile_eq_ok_iff.1 openFile_fileLogger
  refine ⟨(hok fileLogger).2 ⟨hforce, fun _ => hnone, rfl⟩, ?_⟩
  rcases hfile fileLogger hforce rfl with ⟨-, hadds⟩ | ⟨e, hfault, -⟩
  · exact hadds
  · exact absurd hfault (hnone e)

/-- An environment with an output that is not text. -/
def rawOutputEnv : Environment := { entries := [Environment.entry outputVariable [0xFF]] }

/-- An output that is not text counts as none, though the variable is set. -/
theorem start_ignores_rawOutput :
    rawOutputEnv.octets? outputVariable = some [0xFF]
      ∧ (start false rawOutputEnv {} {}).result.map (·.output) = .ok .stderr := by
  decide +kernel

/-- A target that is cut inside of a character, as the blank in front moves the place. -/
example : (plan { entries := [Environment.entry filterVariable (Text.Utf8.encode " é=info")] }
    {}).2 = .error .crashed := by decide +kernel

end RobotClient.Logging
