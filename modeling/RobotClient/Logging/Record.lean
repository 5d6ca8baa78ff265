set_option autoImplicit false

/-! # Log records

What an event looks like to a log: its level, the part of the program that it comes from, its
message and its fields. -/

namespace RobotClient

/-- How severe an event is, from the most severe on. -/
inductive LogLevel where
  | error
  | warn
  | info
  | debug
  | trace
deriving DecidableEq, Repr, Inhabited

namespace LogLevel

/-- The name of a level as log lines show it. -/
def name : LogLevel → String
  | .error => "ERROR"
  | .warn => "WARN"
  | .info => "INFO"
  | .debug => "DEBUG"
  | .trace => "TRACE"

/-- How much a level lets through: the most severe events pass first. -/
def rank : LogLevel → Nat
  | .error => 1
  | .warn => 2
  | .info => 3
  | .debug => 4
  | .trace => 5

end LogLevel

/-- The value of a field. -/
inductive FieldValue where
  | text (value : String)
  | integer (value : Int)
  | flag (value : Bool)
deriving DecidableEq, Repr, Inhabited

/-- The text of a field's value. -/
def FieldValue.toText : FieldValue → String
  | .text s => s
  | .integer n => toString n
  | .flag b => toString b

/-- An event as a log sees it. -/
structure LogRecord where
  level : LogLevel
  target : String
  message : String
  fields : List (String × FieldValue)
deriving DecidableEq, Repr, Inhabited

end RobotClient
