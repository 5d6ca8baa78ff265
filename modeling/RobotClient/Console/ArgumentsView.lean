import RobotClient.Arguments.Json
import RobotClient.Console.Table
import RobotClient.Json.Printer

set_option autoImplicit false

/-! # Showing parsed arguments

The application's own arguments as a numbered list, and the settings as a table. -/

namespace RobotClient.Console

/-- The target of an assignment. -/
def assignmentTarget (a : Assignment) : String :=
  match a.node with
  | some node => node ++ ":" ++ a.name
  | none => a.name

/-- A row for a setting that may be missing. -/
def optionalRow (label : String) (value : Option String) : List (List String) :=
  value.toList.map fun v => [label, v]

/-- A row for something that can be switched on and off. -/
def switchRow (label : String) (value : Option Bool) : List (List String) :=
  optionalRow label (value.map fun on => if on then "enabled" else "disabled")

/-- A row for each setting, in the order of the fields. -/
def settingRows (a : Arguments) : List (List String) :=
  a.remapRules.map (fun r => ["remap", assignmentTarget r ++ " -> " ++ r.value])
    ++ a.parameters.map (fun p => ["param", assignmentTarget p ++ " = " ++ p.value])
    ++ a.parameterFiles.map (fun file => ["params-file", file])
    ++ optionalRow "log-level" (a.logLevels.default.map Severity.name)
    ++ a.logLevels.loggers.map (fun entry => ["log-level", entry.1 ++ " = " ++ entry.2.name])
    ++ optionalRow "log-config-file" a.logConfigFile
    ++ optionalRow "log-file-name" a.logFileName
    ++ optionalRow "enclave" a.enclave
    ++ switchRow "rosout-logs" a.rosoutLogs
    ++ switchRow "stdout-logs" a.stdoutLogs
    ++ switchRow "external-lib-logs" a.externalLibLogs

/-- The lines of a numbered list. -/
def numberedLines (items : List String) : String :=
  if items.isEmpty then "\n  (none)"
  else String.join ((items.zipIdx 1).map fun (item, i) => s!"\n  {i}. " ++ item)

/-- Parsed arguments as text for a terminal. -/
def argumentsText (a : Arguments) : String :=
  let rows := settingRows a
  title "Arguments" ++ numberedLines a.plain ++ "\n\n" ++ title "Reserved options" ++
    if rows.isEmpty then "\n  (none)" else "\n" ++ (Table.mk ["Option", "Value"] rows).toText

/-- Parsed arguments in JSON. -/
def argumentsJson (a : Arguments) : String := a.toJson.pretty

/-- Parsed arguments in a format: JSON if it is `json`, else text. -/
def showArguments (format : String) (a : Arguments) : String :=
  if format = "json" then argumentsJson a else argumentsText a

end RobotClient.Console
