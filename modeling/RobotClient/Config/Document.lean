import RobotClient.Config.Basic
import RobotClient.Error
import RobotClient.Json.Printer
import RobotClient.Toml.Printer

set_option autoImplicit false

/-! # Configurations as documents

A configuration is written as TOML or as JSON. TOML has signed words only, so a default domain
beyond them cannot be written there. -/

namespace RobotClient

/-- A key with its written value. -/
def Toml.entry (key value : String) : String := Toml.writeKey key ++ " = " ++ value ++ "\n"

/-- A table of a document: its heading and its entries. -/
def Toml.table (heading : String) (entries : List (String × String)) : String :=
  "[" ++ heading ++ "]\n" ++ String.join (entries.map fun (k, v) => Toml.entry k v)

namespace RuntimeConfig

/-- A configuration in TOML; `none` if a number is too large. -/
def toToml? (c : RuntimeConfig) : Option String :=
  if Number.maxSigned < c.domain.defaultId.toNat then none
  else
    let optional (key : String) (value : Option String) := value.toList.map fun v => (key, v)
    some <| String.intercalate "\n" [
      Toml.table "domain"
        ([("env_var", Toml.writeText c.domain.envVar),
            ("default_domain_id", toString c.domain.defaultId)]
          ++ optional "domain_id" (c.domain.id.map toString)),
      Toml.table "signals"
        (optional "default_handlers"
          (c.signals.defaultHandlers.map fun o => Toml.writeText o.name)),
      Toml.table "logging"
        ([("level", Toml.writeText c.logging.level), ("format", Toml.writeText c.logging.format),
            ("output", Toml.writeText c.logging.output)]
          ++ optional "file" (c.logging.file.map Toml.writeText)
          ++ [("color", toString c.logging.color)]),
      Toml.table "logging.modules" (c.logging.modules.map fun (k, v) => (k, Toml.writeText v))]

/-- A configuration in a format that is named. -/
def format (c : RuntimeConfig) (name : String) : Except ClientError String :=
  if name = "json" then .ok c.toJson.pretty
  else if name = "toml" then
    match c.toToml? with
    | some text => .ok text
    | none => .error (.configuration "out-of-range value for u64 type")
  else .error (.configuration ("Invalid output format: " ++ name ++ " (must be 'toml' or 'json')"))

end RuntimeConfig
end RobotClient
