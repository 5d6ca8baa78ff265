import RobotClient.Arguments.Item

set_option autoImplicit false

/-! # Writing an argument vector

The vector that says what given arguments say: the application's own arguments first, then one
reserved block with each setting in the order of the fields. -/

namespace RobotClient

/-- The tokens of a setting. -/
def Setting.tokens : Setting → List String
  | .remap rule => ["-r", rule.toText]
  | .parameter assignment => ["-p", assignment.toText]
  | .parameterFile path => ["--params-file", path]
  | .defaultLevel severity => ["--log-level", severity.name]
  | .loggerLevel logger severity => ["--log-level", logger ++ ":=" ++ severity.name]
  | .logConfigFile path => ["--log-config-file", path]
  | .logFileName name => ["--log-file-name", name]
  | .enclave name => ["--enclave", name]
  | .rosoutLogs enabled => [if enabled then "--enable-rosout-logs" else "--disable-rosout-logs"]
  | .stdoutLogs enabled => [if enabled then "--enable-stdout-logs" else "--disable-stdout-logs"]
  | .externalLibLogs enabled =>
    [if enabled then "--enable-external-lib-logs" else "--disable-external-lib-logs"]

/-- The settings of arguments, in the order of the fields. -/
def Arguments.settings (a : Arguments) : List Setting :=
  a.remapRules.map .remap ++ a.parameters.map .parameter ++ a.parameterFiles.map .parameterFile
    ++ a.logLevels.default.toList.map .defaultLevel
    ++ a.logLevels.loggers.map (fun entry => .loggerLevel entry.1 entry.2)
    ++ a.logConfigFile.toList.map .logConfigFile ++ a.logFileName.toList.map .logFileName
    ++ a.enclave.toList.map .enclave ++ a.rosoutLogs.toList.map .rosoutLogs
    ++ a.stdoutLogs.toList.map .stdoutLogs ++ a.externalLibLogs.toList.map .externalLibLogs

/-- The vector that says what `a` says. -/
def Arguments.toTokens (a : Arguments) : List String :=
  a.plain ++ blockOpen :: a.settings.flatMap Setting.tokens

end RobotClient
