import RobotClient.Severity

set_option autoImplicit false

/-! # Parsed arguments

What an argument vector says: the application's own arguments, and the settings found in the
reserved blocks, which start at `--ros-args` and run until `--` or the end of the vector. -/

namespace RobotClient

/-- The written form `[node:]name:=value`, with which names are remapped and parameters are set. -/
structure Assignment where
  node : Option String := none
  name : String
  value : String
deriving DecidableEq, Repr, Inhabited

/-- Whether an assignment is meant for a node of the given name. -/
def Assignment.appliesTo (a : Assignment) (node : String) : Bool :=
  match a.node with
  | none => true
  | some target => target == node

/-- The severities asked for: one for all loggers, and some by the logger's name. -/
structure LogLevels where
  default : Option Severity := none
  loggers : List (String × Severity) := []
deriving DecidableEq, Repr, Inhabited

/-- What an argument vector says. -/
structure Arguments where
  /-- The arguments outside every reserved block. -/
  plain : List String := []
  remapRules : List Assignment := []
  parameters : List Assignment := []
  parameterFiles : List String := []
  logLevels : LogLevels := {}
  logConfigFile : Option String := none
  logFileName : Option String := none
  enclave : Option String := none
  rosoutLogs : Option Bool := none
  stdoutLogs : Option Bool := none
  externalLibLogs : Option Bool := none
deriving DecidableEq, Repr, Inhabited

namespace Arguments

/-- The target of the last rule that remaps `name` for a node that was given the name `node`. -/
def remapFor (a : Arguments) (node name : String) : Option String :=
  (a.remapRules.reverse.find? fun rule => rule.name == name && rule.appliesTo node).map (·.value)

/-- What two vectors say when the second follows the first: lists are joined, and a single value of
    the second wins. -/
def append (a b : Arguments) : Arguments where
  plain := a.plain ++ b.plain
  remapRules := a.remapRules ++ b.remapRules
  parameters := a.parameters ++ b.parameters
  parameterFiles := a.parameterFiles ++ b.parameterFiles
  logLevels := {
    default := b.logLevels.default.or a.logLevels.default
    loggers := a.logLevels.loggers ++ b.logLevels.loggers }
  logConfigFile := b.logConfigFile.or a.logConfigFile
  logFileName := b.logFileName.or a.logFileName
  enclave := b.enclave.or a.enclave
  rosoutLogs := b.rosoutLogs.or a.rosoutLogs
  stdoutLogs := b.stdoutLogs.or a.stdoutLogs
  externalLibLogs := b.externalLibLogs.or a.externalLibLogs

instance : Append Arguments := ⟨append⟩

end Arguments
end RobotClient
