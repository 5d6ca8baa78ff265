import RobotClient.Console.Run
import RobotClient.Logging.Setup

set_option autoImplicit false

/-! # The program

Loads the configuration, sets logging up, executes the command and reports: its text on the standard
output, or what is wrong on the standard error. What is logged goes where logging is set up to. -/

namespace RobotClient.Console

/-- What a program leaves behind. -/
structure Report where
  exitCode : Nat
  stdout : String
  stderr : String
  tree : FileTree

/-- Lines, each with its line break. -/
def unlines (lines : List String) : String := String.join (lines.map (· ++ "\n"))

/-- The report of a program that failed before it logged anything. -/
def failedReport (lines : List String) (tree : FileTree) : Report := ⟨1, "", unlines lines, tree⟩

/-- The report of a program that crashed before it logged anything, without what its host says
    then. -/
def crashedReport (lines : List String) (tree : FileTree) : Report := ⟨101, "", unlines lines, tree⟩

/-- The part of the program that logs its start and its end, as logs name it. -/
def programTarget : String := "rclctx"

/-- The start of the program as a log sees it. -/
def startRecord : LogRecord := ⟨.info, programTarget, "rclctx CLI starting", []⟩

/-- The end of the program as a log sees it. -/
def endRecord : Except ClientError String → LogRecord
  | .ok _ => ⟨.info, programTarget, "Command completed successfully", []⟩
  | .error e => ⟨.error, programTarget, "Command failed: " ++ e.message, []⟩

/-- The report of a program that executed its command, with the lines logged meanwhile. -/
def finishedReport (logger : Logging.Logger) (complaints logged : List String) (tree : FileTree)
    (result : Except ClientError String) : Report :=
  let onOutput (output : LogOutput) : List String := if logger.output = output then logged else []
  let (exitCode, printed, advice) : Nat × List String × List String :=
    match result with
    | .ok text => (0, [text], [])
    | .error e => (1, [], [e.advice])
  { exitCode
    stdout := unlines (onOutput .stdout ++ printed)
    stderr := unlines (complaints ++ onOutput .stderr ++ advice)
    tree :=
      if logger.output = .file then
        tree.append logger.file (Text.Utf8.encode (unlines logged))
      else tree }

/-- Does what a command line says, at a time as the host tells it. -/
def CommandLine.perform (line : CommandLine) (env : Environment) (tree : FileTree) (time : String)
    (arrival : Option Signal) : Report :=
  match (loadConfig env tree line.configFile).1 with
  | .error e => failedReport [e.advice] tree
  | .ok config =>
    let setup := Logging.start false env (line.logging config.logging) tree
    let complaints := setup.unread.map Logging.unreadComplaint
    match setup.result with
    | .error (.failed e) =>
      failedReport (complaints ++ ["Failed to initialize logging: " ++ e.message]) setup.tree
    | .error .crashed => crashedReport complaints setup.tree
    | .ok logger =>
      let (result, m) := execute config env arrival line.command { hub := { clock := time } }
      let events := [startRecord] ++ m.hub.log.map Event.record ++ [endRecord result]
      finishedReport logger complaints (logger.lines time events) setup.tree result

/-- The seconds that a program waits before it reports: none at all if there is nothing to wait for,
    and without an end if a run has no timeout. -/
def CommandLine.wait (line : CommandLine) (report : Report) : Option (Option UInt64) :=
  match line.command with
  | .run flags => if report.exitCode = 0 then some flags.timeout else none
  | _ => none

/-- The log file that a command line opens under a configuration, if it opens one. -/
def CommandLine.logFile? (line : CommandLine) (env : Environment) (config : RuntimeConfig) :
    Option String :=
  match (Logging.plan env (line.logging config.logging)).2 with
  | .ok logger => if logger.output = .file then some logger.file else none
  | .error _ => none

/-- Runs the program on the tokens behind its name. -/
def program (env : Environment) (tree : FileTree) (time : String) (arrival : Option Signal)
    (tokens : List Token) : Except Stop Report :=
  (CommandLine.parse tokens).map fun line => line.perform env tree time arrival

end RobotClient.Console
