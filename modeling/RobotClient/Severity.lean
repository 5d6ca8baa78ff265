import RobotClient.Text.Lowercase

set_option autoImplicit false

/-! # Severities

The severities that a log level in the reserved arguments may ask for. -/

namespace RobotClient

/-- How severe a message must be to be logged. -/
inductive Severity where
  | unset
  | debug
  | info
  | warn
  | error
  | fatal
deriving DecidableEq, Repr, Inhabited

namespace Severity

/-- The name of a severity. -/
def name : Severity → String
  | .unset => "unset"
  | .debug => "debug"
  | .info => "info"
  | .warn => "warn"
  | .error => "error"
  | .fatal => "fatal"

/-- The severities, from the least on. -/
def values : List Severity := [.unset, .debug, .info, .warn, .error, .fatal]

/-- The severity of exactly this name. -/
def ofName? (name : String) : Option Severity := values.find? (·.name = name)

theorem ofName?_name (s : Severity) : ofName? s.name = some s := by
  cases s <;> decide

/-- The severity that a text asks for in any case, `warning` being another word for `warn`. -/
def ofText? (text : String) : Option Severity :=
  let folded := Text.asciiLower text
  if folded = "warning" then some .warn else ofName? folded

/-- The complaint about a text that is no severity. -/
def unknownMessage (text : String) : String :=
  "unknown log severity '" ++ Text.asciiLower text ++ "'"

end Severity
end RobotClient
