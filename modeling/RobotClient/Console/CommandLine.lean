import RobotClient.Console.Option
import RobotClient.Logging.Config

set_option autoImplicit false

/-! # Command lines

A command line is options for the program, the name of a command, and what the command takes: `args`
and `run` take options and then any tokens at all, `config` takes options only. -/

namespace RobotClient.Console

/-- What the command `run` is given. -/
structure RunFlags where
  domainId : Option Int64 := none
  signals : Option String := none
  /-- The seconds until the run ends by itself. -/
  timeout : Option UInt64 := none
  nodeName : Option String := none
  format : String := "text"
  /-- The arguments of the context. -/
  args : List Token := []
deriving DecidableEq, Repr, Inhabited

/-- A command. -/
inductive Command where
  /-- Parses arguments and shows what they say. -/
  | args (format : String) (args : List Token)
  /-- Initializes the default context, waits for a signal or a timeout, and shuts it down. -/
  | run (flags : RunFlags)
  /-- Shows the configuration. -/
  | config (format : String)
deriving DecidableEq, Repr, Inhabited

/-- A command with the options of the program. -/
structure CommandLine where
  command : Command
  /-- The configuration file that takes the place of the global one. -/
  configFile : Option String := none
  verbose : Bool := false
  logLevel : Option String := none
  logFormat : Option String := none
  logOutput : Option String := none
  logFile : Option String := none
deriving DecidableEq, Repr, Inhabited

/-! ## Commands -/

/-- The options of `args`. -/
def argsOptions : OptionTable := ⟨[("format", .text)], true⟩

/-- The options of `run`. -/
def runOptions : OptionTable :=
  ⟨[("domain-id", .signed), ("signals", .text), ("timeout-secs", .unsigned), ("node-name", .text),
    ("format", .text)], true⟩

/-- The options of `config`. -/
def configOptions : OptionTable := ⟨[("format", .text)], false⟩

/-- What `run` is given by its options and the tokens behind them. -/
def RunFlags.ofGiven (given : Given) (args : List Token) : RunFlags where
  domainId := given.signed? "domain-id"
  signals := given.text? "signals"
  timeout := given.unsigned? "timeout-secs"
  nodeName := given.text? "node-name"
  format := (given.text? "format").getD "text"
  args := args

/-- The names of the commands; `help` shows another command's help. -/
def commandNames : List String := ["args", "run", "config", "help"]

/-- What comes of asking for the help of some commands. -/
def helpFor : List Token → Stop
  | [] => .help
  | [name] => if commandNames.any fun n => Text.Utf8.encode n = name then .help else .usage
  | _ => .usage

/-- The command of a name with what it takes. -/
def Command.read (name : Token) (tokens : List Token) : Except Stop Command :=
  match Text.Utf8.decode name with
  | .ok "args" =>
    (argsOptions.read tokens).map fun (given, rest) =>
      .args ((given.text? "format").getD "text") rest
  | .ok "run" =>
    (runOptions.read tokens).map fun (given, rest) => .run (RunFlags.ofGiven given rest)
  | .ok "config" => do
    let (given, rest) ← configOptions.read tokens
    if rest.isEmpty then return .config ((given.text? "format").getD "toml") else throw .usage
  | .ok "help" => .error (helpFor tokens)
  | _ => .error .usage

/-! ## The program -/

/-- The options of the program. -/
def programOptions : OptionTable :=
  ⟨[("config", .path), ("verbose", .switch), ("log-level", .text), ("log-format", .text),
    ("log-output", .text), ("log-file", .path)], false⟩

namespace CommandLine

/-- A command with the options that the program is given. -/
def ofGiven (given : Given) (command : Command) : CommandLine where
  command := command
  configFile := given.text? "config"
  verbose := given.on "verbose"
  logLevel := given.text? "log-level"
  logFormat := given.text? "log-format"
  logOutput := given.text? "log-output"
  logFile := given.text? "log-file"

/-- The command line that tokens are, the name of the program left out. The value of the last option
    of the program is looked at only after the command. -/
def parse (tokens : List Token) : Except Stop CommandLine := do
  let scan ← programOptions.scan [] none tokens
  match scan.rest with
  | name :: rest =>
    if scan.separated then throw .usage
    let command ← Command.read name rest
    return ofGiven (← OptionTable.settle scan.given scan.pending) command
  | [] => throw .usage

/-- The settings of logging with what the command line says; a level wins over verbosity. -/
def logging (line : CommandLine) (base : LoggingConfig) : LoggingConfig where
  level := line.logLevel.getD (if line.verbose then "debug" else base.level)
  format := line.logFormat.getD base.format
  output := line.logOutput.getD base.output
  file := line.logFile.or base.file
  color := base.color
  modules := base.modules

end CommandLine
end RobotClient.Console
