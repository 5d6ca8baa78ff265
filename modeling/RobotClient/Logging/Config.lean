import RobotClient.Json.Record
import RobotClient.Text.Quoted

set_option autoImplicit false

/-! # Logging settings

What is logged, in which format and to which place. -/

namespace RobotClient

open Json (Record)

/-- The settings of logging. -/
structure LoggingConfig where
  /-- The least severe level that is logged, or `off`. -/
  level : String := "info"
  /-- `text` or `json`. -/
  format : String := "text"
  /-- `stdout`, `stderr` or `file`. -/
  output : String := "stderr"
  /-- The log file. -/
  file : Option String := none
  /-- Whether text is colored. -/
  color : Bool := true
  /-- Levels of single modules, by name. -/
  modules : List (String × String) := []
deriving DecidableEq, Repr, Inhabited

/-! ## Formats and places -/

/-- The formats of log lines. -/
inductive LogFormat where
  | text
  | json
deriving DecidableEq, Repr

/-- The format of a name, or the complaint about it. -/
def LogFormat.ofName (name : String) : Except String LogFormat :=
  if name = "json" then .ok .json
  else if name = "text" then .ok .text
  else .error ("Invalid log format: " ++ name ++ " (must be 'json' or 'text')")

/-- The places that log lines go to. -/
inductive LogOutput where
  | stdout
  | stderr
  | file
deriving DecidableEq, Repr

/-- The place of a name, or the complaint about it. -/
def LogOutput.ofName (name : String) : Except String LogOutput :=
  if name = "stdout" then .ok .stdout
  else if name = "stderr" then .ok .stderr
  else if name = "file" then .ok .file
  else .error ("Invalid log output: " ++ name ++ " (must be 'stdout', 'stderr' or 'file')")

namespace LoggingConfig

/-- The names of the levels. -/
def levelNames : List String := ["trace", "debug", "info", "warn", "error", "off"]

/-- The first complaint about the settings. -/
def validate (c : LoggingConfig) : Except String Unit := do
  if c.level ∉ levelNames then throw ("Invalid log level: " ++ c.level)
  discard (LogFormat.ofName c.format)
  discard (LogOutput.ofName c.output)

/-! ## JSON -/

/-- The settings in JSON; the file is left out when there is none. -/
def toJson (c : LoggingConfig) : Json :=
  .object ([("level", .text c.level), ("format", .text c.format), ("output", .text c.output)]
    ++ Json.present "file" .text c.file
    ++ [("color", .bool c.color), ("modules", .object (c.modules.map fun (k, v) => (k, .text v)))])

/-- The settings that JSON gives; what is left out has its default. -/
def ofJson? (value : Json) : Option LoggingConfig := do
  let r ← Record.of? 6 value
  return {
    level := ← r.orDefault 0 "level" Json.text? "info"
    format := ← r.orDefault 1 "format" Json.text? "text"
    output := ← r.orDefault 2 "output" Json.text? "stderr"
    file := ← r.orDefault 3 "file" (Record.nullable Json.text?) none
    color := ← r.orDefault 4 "color" Json.bool? true
    modules := ← r.orDefault 5 "modules" (Json.tableOf? Json.text?) [] }

/-! ## Display -/

/-- The entries of a table on one line. -/
def tableText (entries : List (String × String)) : String :=
  let texts := entries.map fun (k, v) => Text.quoted k ++ ": " ++ Text.quoted v
  "\x7b" ++ String.intercalate ", " texts ++ "\x7d"

/-- An optional value on one line. -/
def optionText {α : Type} (write : α → String) : Option α → String
  | some x => "Some(" ++ write x ++ ")"
  | none => "None"

/-- The settings on one line. -/
def display (c : LoggingConfig) : String :=
  "LoggingConfig \x7b level: " ++ Text.quoted c.level ++ ", format: " ++ Text.quoted c.format
    ++ ", output: " ++ Text.quoted c.output ++ ", file: " ++ optionText Text.quotedPath c.file
    ++ s!", color: {c.color}, modules: " ++ tableText c.modules ++ " \x7d"

end LoggingConfig
end RobotClient
