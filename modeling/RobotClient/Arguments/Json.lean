import RobotClient.Arguments.Basic
import RobotClient.Json.Record

set_option autoImplicit false

/-! # Parsed arguments in JSON

The members come in the order of the fields. A node and a default severity are left out when there
is none; other values that are missing are `null`. -/

namespace RobotClient

open Json (Record)

/-! ## Writing -/

/-- An assignment, its two sides under the given names. -/
def Assignment.toJson (left right : String) (a : Assignment) : Json :=
  .object (Json.present "node" .text a.node ++ [(left, .text a.name), (right, .text a.value)])

/-- Severities by logger. -/
def LogLevels.toJson (levels : LogLevels) : Json :=
  .object (Json.present "default" (fun s => .text s.name) levels.default ++
    [("loggers", .list (levels.loggers.map fun (logger, s) => .list [.text logger, .text s.name]))])

/-- Parsed arguments. -/
def Arguments.toJson (a : Arguments) : Json :=
  .object [
    ("non_ros_args", Json.texts a.plain),
    ("remap_rules", .list (a.remapRules.map (Assignment.toJson "from" "to"))),
    ("parameter_overrides", .list (a.parameters.map (Assignment.toJson "name" "value"))),
    ("parameter_files", Json.texts a.parameterFiles),
    ("log_levels", a.logLevels.toJson),
    ("log_config_file", Json.orNull .text a.logConfigFile),
    ("log_file_name", Json.orNull .text a.logFileName),
    ("enclave", Json.orNull .text a.enclave),
    ("rosout_logs", Json.orNull .bool a.rosoutLogs),
    ("stdout_logs", Json.orNull .bool a.stdoutLogs),
    ("external_lib_logs", Json.orNull .bool a.externalLibLogs)]

/-! ## Reading -/

/-- An assignment, its two sides under the given names. -/
def Assignment.ofJson? (left right : String) (value : Json) : Option Assignment := do
  let r ← Record.of? 3 value
  return {
    node := ← r.optional 0 "node" Json.text?
    name := ← r.required 1 left Json.text?
    value := ← r.required 2 right Json.text? }

/-- A logger's name with its severity. -/
def loggerOfJson? : Json → Option (String × Severity)
  | .list [.text logger, severity] => (Json.variant? Severity.ofName? severity).map (logger, ·)
  | _ => none

/-- Severities by logger. -/
def LogLevels.ofJson? (value : Json) : Option LogLevels := do
  let r ← Record.of? 2 value
  return {
    default := ← r.optional 0 "default" (Json.variant? Severity.ofName?)
    loggers := ← r.orDefault 1 "loggers" (Json.listOf? loggerOfJson?) [] }

/-- Parsed arguments. -/
def Arguments.ofJson? (value : Json) : Option Arguments := do
  let r ← Record.of? 11 value
  return {
    plain := ← r.required 0 "non_ros_args" (Json.listOf? Json.text?)
    remapRules := ← r.required 1 "remap_rules" (Json.listOf? (Assignment.ofJson? "from" "to"))
    parameters :=
      ← r.required 2 "parameter_overrides" (Json.listOf? (Assignment.ofJson? "name" "value"))
    parameterFiles := ← r.required 3 "parameter_files" (Json.listOf? Json.text?)
    logLevels := ← r.required 4 "log_levels" LogLevels.ofJson?
    logConfigFile := ← r.optional 5 "log_config_file" Json.text?
    logFileName := ← r.optional 6 "log_file_name" Json.text?
    enclave := ← r.optional 7 "enclave" Json.text?
    rosoutLogs := ← r.optional 8 "rosout_logs" Json.bool?
    stdoutLogs := ← r.optional 9 "stdout_logs" Json.bool?
    externalLibLogs := ← r.optional 10 "external_lib_logs" Json.bool? }

end RobotClient
