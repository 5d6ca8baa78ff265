import RobotClient.Environment
import RobotClient.Error
import RobotClient.FileTree
import RobotClient.Logging.Config
import RobotClient.Logging.Filter
import RobotClient.Logging.Line

set_option autoImplicit false

/-! # Setting logging up

The filter, the format and the output are found first, from environment variables or else from the
settings. Only when all three are known is anything created: the directory of the log file, and the
file. A process sets logging up once. -/

namespace RobotClient.Logging

/-! ## Settings in force -/

/-- The variable with a filter. -/
def filterVariable : String := "RCLCTX_LOG"

/-- The variable with a format. -/
def formatVariable : String := "RCLCTX_LOG_FORMAT"

/-- The variable with an output. -/
def outputVariable : String := "RCLCTX_LOG_OUTPUT"

/-- The path of the log file where none is set. -/
def defaultOctets (env : Environment) : List UInt8 :=
  match env.userDirectory? "XDG_DATA_HOME" ".local/share" with
  | some directory => FilePath.joinOctets (FilePath.joinOctets directory "rclctx") "rclctx.log"
  | none => Text.Utf8.encode "rclctx.log"

/-- The log file where none is set, with what is not text in its path replaced. -/
def defaultFile (env : Environment) : String := Text.Utf8.decodeLossy (defaultOctets env)

/-- What stops the set up of logging. -/
inductive Halt where
  | failed (error : ClientError)
  /-- A part of a directive would start or end inside of a character, which ends the process. -/
  | crashed
deriving DecidableEq, Repr

/-- What a directive of the settings that cannot be read comes to. -/
def Halt.ofDirective (e : DirectiveError) : Halt :=
  if e = .insideCharacter then .crashed
  else .failed (.configuration ("Invalid log directive: " ++ e.message))

/-- The filter of a variable whose value is one. Another value does not count, unless reading it
    ends the process. -/
def environmentFilter? (env : Environment) : Except Halt (Option LogFilter) :=
  match (env.get? filterVariable).map LogFilter.parse with
  | some (.ok filter) => .ok (some filter)
  | some (.error e) => if e = .insideCharacter then .error .crashed else .ok none
  | none => .ok none

/-- The directive for a module. -/
def moduleDirective (name level : String) : Except Halt Directive :=
  (Directive.parse (name ++ "=" ++ level)).mapError Halt.ofDirective

/-- A filter with the levels of modules. -/
def addModules (filter : LogFilter) (modules : List (String × String)) : Except Halt LogFilter :=
  modules.foldlM (fun filter (name, level) => (moduleDirective name level).map filter.add) filter

/-- The filter of the settings, with what cannot be read of their level. Where the level is `off`,
    the modules do not count. -/
def settingsFilter (config : LoggingConfig) :
    List (String × DirectiveError) × Except Halt LogFilter :=
  if config.level = "off" then
    ([], .ok (LogFilter.ofDirectives [{ target := none, threshold := none }]))
  else
    let (filter, unread) := LogFilter.parseLenient config.level
    if unread.any (·.2 = .insideCharacter) then
      (unread.takeWhile (·.2 ≠ .insideCharacter), .error .crashed)
    else (unread, addModules filter config.modules)

/-- The filter in force: that of the variable, or else that of the settings. -/
def chooseFilter (env : Environment) (config : LoggingConfig) :
    List (String × DirectiveError) × Except Halt LogFilter :=
  match environmentFilter? env with
  | .error halt => ([], .error halt)
  | .ok (some filter) => ([], .ok filter)
  | .ok none => settingsFilter config

/-- The format in force. The value of the variable counts only if it is a format. -/
def chooseFormat (env : Environment) (config : LoggingConfig) : Except ClientError LogFormat :=
  match (env.get? formatVariable).bind fun name => (LogFormat.ofName name).toOption with
  | some format => .ok format
  | none => (LogFormat.ofName config.format).mapError .configuration

/-- The output in force. The value of the variable always counts. -/
def chooseOutput (env : Environment) (config : LoggingConfig) : Except ClientError LogOutput :=
  (LogOutput.ofName ((env.get? outputVariable).getD config.output)).mapError .configuration

/-! ## Set up -/

/-- How a process logs. -/
structure Logger where
  filter : LogFilter
  format : LogFormat
  output : LogOutput
  color : Bool
  /-- The log file, if the output is a file. -/
  file : String
deriving DecidableEq, Repr

/-- The logger that environment and settings ask for, with what cannot be read of the level. -/
def plan (env : Environment) (config : LoggingConfig) :
    List (String × DirectiveError) × Except Halt Logger :=
  let (unread, filter) := chooseFilter env config
  (unread, do
    let filter ← filter
    let format ← (chooseFormat env config).mapError .failed
    let output ← (chooseOutput env config).mapError .failed
    return {
      filter, format, output
      color := config.color && output ≠ .file
      file := config.file.getD (defaultFile env) })

/-- Creates what a log file needs. A directory that could be created stays, whatever happens
    then. -/
def openFile (tree : FileTree) (file : String) : Except ClientError Unit × FileTree :=
  match tree.createDirectories file with
  | (.error e, tree) =>
    (.error (.configuration ("Failed to create log directory: " ++ e.message)), tree)
  | (.ok (), tree) =>
    match tree.openForAppend file with
    | .error e =>
      (.error (.configuration
        ("Failed to open log file " ++ Text.quotedPath file ++ ": " ++ e.message)), tree)
    | .ok tree => (.ok (), tree)

/-- What setting logging up comes to. -/
structure Setup where
  result : Except Halt Logger
  /-- What cannot be read of the level. -/
  unread : List (String × DirectiveError)
  tree : FileTree

/-- Sets logging up; `running` tells whether that was done before. -/
def start (running : Bool) (env : Environment) (config : LoggingConfig) (tree : FileTree) : Setup :=
  let (unread, planned) := plan env config
  match planned with
  | .error halt => ⟨.error halt, unread, tree⟩
  | .ok logger =>
    let (opened, tree) :=
      if logger.output = .file then openFile tree logger.file else (.ok (), tree)
    let result : Except Halt Logger := do
      opened.mapError .failed
      if running then
        throw (.failed (.configuration ("Failed to initialize logging: "
          ++ "a global default trace dispatcher has already been set")))
      return logger
    ⟨result, unread, tree⟩

/-- The complaint about a part of the level that cannot be read. -/
def unreadComplaint (unread : String × DirectiveError) : String :=
  "ignoring " ++ Text.ticked unread.1 ++ ": " ++ unread.2.message

/-- The lines that a logger writes about some events. -/
def Logger.lines (logger : Logger) (time : String) (events : List LogRecord) : List String :=
  (events.filter logger.filter.allows).map (LogRecord.line logger.format logger.color time)

end RobotClient.Logging
