import RobotClient.Arguments.Basic
import RobotClient.Text.Split

set_option autoImplicit false

/-! # Items of an argument vector

Each token of a vector, or each flag with its value, says one thing: an argument of the application,
a setting, a token that no block may hold, or a flag with a missing or malformed value. `items`
lists them in order; nothing is lost but the marks that open and close blocks. -/

namespace RobotClient

/-! ## Marks -/

/-- The token that opens a reserved block. -/
def blockOpen : String := "--ros-args"

/-- The token that closes a reserved block. -/
def blockClose : String := "--"

/-! ## Flags -/

/-- The flags that take a value. -/
inductive Flag where
  | remap
  | parameter
  | parameterFile
  | logLevel
  | logConfigFile
  | logFileName
  | enclave
deriving DecidableEq, Repr

namespace Flag

/-- The flag of a spelling. -/
def ofToken? (token : String) : Option Flag :=
  match token with
  | "-r" | "--remap" => some .remap
  | "-p" | "--param" => some .parameter
  | "--params-file" => some .parameterFile
  | "--log-level" => some .logLevel
  | "--log-config-file" => some .logConfigFile
  | "--log-file-name" => some .logFileName
  | "-e" | "--enclave" => some .enclave
  | _ => none

/-- What the value of a flag is called. -/
def valueName : Flag → String
  | .remap => "remap rule"
  | .parameter => "parameter assignment"
  | .parameterFile => "parameter file path"
  | .logLevel => "log level"
  | .logConfigFile => "log config file path"
  | .logFileName => "log file name"
  | .enclave => "enclave name"

end Flag

/-! ## Settings -/

/-- One setting of a reserved block. -/
inductive Setting where
  | remap (rule : Assignment)
  | parameter (assignment : Assignment)
  | parameterFile (path : String)
  | defaultLevel (severity : Severity)
  | loggerLevel (logger : String) (severity : Severity)
  | logConfigFile (path : String)
  | logFileName (name : String)
  | enclave (name : String)
  | rosoutLogs (enabled : Bool)
  | stdoutLogs (enabled : Bool)
  | externalLibLogs (enabled : Bool)
deriving DecidableEq, Repr

/-- The setting of a flag that takes no value. -/
def Setting.ofToggle? (token : String) : Option Setting :=
  match token with
  | "--enable-rosout-logs" => some (.rosoutLogs true)
  | "--disable-rosout-logs" => some (.rosoutLogs false)
  | "--enable-stdout-logs" => some (.stdoutLogs true)
  | "--disable-stdout-logs" => some (.stdoutLogs false)
  | "--enable-external-lib-logs" => some (.externalLibLogs true)
  | "--disable-external-lib-logs" => some (.externalLibLogs false)
  | _ => none

/-! ## Defects -/

/-- Why a flag and its value say nothing. -/
inductive ArgumentDefect where
  /-- No value follows the flag. -/
  | missingValue (token : String) (flag : Flag)
  /-- The value is no assignment. -/
  | notAssignment (token value : String)
  /-- The value names a severity that does not exist. -/
  | unknownSeverity (value severity : String)
  /-- The value gives a severity to a logger without a name. -/
  | emptyLogger (value : String)
deriving DecidableEq, Repr

/-- The wording of a defect. -/
def ArgumentDefect.message : ArgumentDefect → String
  | .missingValue token flag =>
    "Couldn't parse trailing " ++ token ++ " flag. No " ++ flag.valueName ++ " found."
  | .notAssignment token value =>
    "Couldn't parse " ++ token ++ " value '" ++ value ++ "': expected [node:]name:=value"
  | .unknownSeverity value severity =>
    "Couldn't parse log level '" ++ value ++ "': " ++ Severity.unknownMessage severity
  | .emptyLogger value => "Couldn't parse log level '" ++ value ++ "': empty logger name"

/-! ## Values -/

/-- The assignment that a value writes. The first `:=` ends the name, and the first colon before it,
    if there is one, ends the node. -/
def Assignment.ofText? (text : String) : Option Assignment := do
  let (left, value) ← Text.splitOnce? ":=" text
  let assignment : Assignment :=
    match Text.splitOnce? ":" left with
    | some (node, name) => ⟨some node, name, value⟩
    | none => ⟨none, left, value⟩
  if assignment.node = some "" ∨ assignment.name = "" ∨ assignment.value = "" then none
  else some assignment

/-- The written form of an assignment. -/
def Assignment.toText (a : Assignment) : String :=
  match a.node with
  | some node => node ++ ":" ++ a.name ++ ":=" ++ a.value
  | none => a.name ++ ":=" ++ a.value

/-- The log level that a value asks for, for one logger or for all. -/
def Setting.ofLogLevel (text : String) : Except ArgumentDefect Setting :=
  match Text.splitOnce? ":=" text with
  | some (logger, level) =>
    if logger = "" then .error (.emptyLogger text)
    else match Severity.ofText? level with
      | some severity => .ok (.loggerLevel logger severity)
      | none => .error (.unknownSeverity text level)
  | none =>
    match Severity.ofText? text with
    | some severity => .ok (.defaultLevel severity)
    | none => .error (.unknownSeverity text text)

/-- The setting that a flag, spelled `token`, makes of its value. -/
def Flag.read (flag : Flag) (token value : String) : Except ArgumentDefect Setting :=
  match flag with
  | .remap =>
    (Assignment.ofText? value).elim (.error (.notAssignment token value)) (.ok <| .remap ·)
  | .parameter =>
    (Assignment.ofText? value).elim (.error (.notAssignment token value)) (.ok <| .parameter ·)
  | .parameterFile => .ok (.parameterFile value)
  | .logLevel => Setting.ofLogLevel value
  | .logConfigFile => .ok (.logConfigFile value)
  | .logFileName => .ok (.logFileName value)
  | .enclave => .ok (.enclave value)

/-! ## Items -/

/-- One thing that an argument vector says. -/
inductive Item where
  | plain (token : String)
  | setting (setting : Setting)
  | unknown (token : String)
  | defect (defect : ArgumentDefect)
deriving DecidableEq, Repr

/-- The outcome of reading a flag's value, as an item. -/
def Item.ofResult : Except ArgumentDefect Setting → Item
  | .ok s => .setting s
  | .error d => .defect d

/-- The items of a vector that starts inside a reserved block or outside one. -/
def items (inBlock : Bool) : List String → List Item
  | [] => []
  | token :: rest =>
    if inBlock = false then
      if token = blockOpen then items true rest else .plain token :: items false rest
    else if token = blockClose then items false rest
    else if token = blockOpen then items true rest
    else match Flag.ofToken? token with
      | some flag =>
        match rest with
        | [] => [.defect (.missingValue token flag)]
        | value :: rest' =>
          if value = blockClose then
            .defect (.missingValue token flag) :: items true (value :: rest')
          else Item.ofResult (flag.read token value) :: items true rest'
      | none =>
        match Setting.ofToggle? token with
        | some setting => .setting setting :: items true rest
        | none => .unknown token :: items true rest

end RobotClient
