import RobotClient.Json.Printer
import RobotClient.Logging.Config
import RobotClient.Logging.Record

set_option autoImplicit false

/-! # Log lines

An event takes one line: as text, as text in colors, or as JSON. -/

namespace RobotClient

/-! ## Text -/

/-- The character that starts the control sequences of a terminal. -/
def escapeSign : Char := Char.ofNat 0x1B

/-- The characters that would control a terminal, by number. -/
def escapeTerminal (c : Char) : List Char :=
  if c.toNat ∈ [0x07, 0x08, 0x0C, 0x1B, 0x7F] then
    ['\\', 'x'] ++ (if c.toNat < 16 then ['0'] else []) ++ Nat.toDigits 16 c.toNat
  else if 0x80 ≤ c.toNat ∧ c.toNat ≤ 0x9F then
    ['\\', 'u', Char.ofNat 0x7B] ++ Nat.toDigits 16 c.toNat ++ [Char.ofNat 0x7D]
  else [c]

/-- A message that controls no terminal. -/
def harmless (message : String) : String := String.ofList (message.toList.flatMap escapeTerminal)

/-- A text in a style of the terminal, known by its number. -/
def styled (style : Nat) (text : String) : String :=
  let escape := String.singleton escapeSign
  escape ++ s!"[{style}m" ++ text ++ escape ++ "[0m"

/-- The color of a level. -/
def LogLevel.color : LogLevel → Nat
  | .error => 31
  | .warn => 33
  | .info => 32
  | .debug => 34
  | .trace => 35

/-- The name of a level, five characters wide. -/
def LogLevel.column (level : LogLevel) : String :=
  String.ofList (List.replicate (5 - level.name.length) ' ') ++ level.name

namespace LogRecord

/-- An event as text: time, level, target, message and fields. -/
def textLine (time : String) (event : LogRecord) : String :=
  time ++ " " ++ event.level.column ++ " " ++ event.target ++ ": " ++ harmless event.message
    ++ String.join (event.fields.map fun (name, value) => " " ++ name ++ "=" ++ value.toText)

/-- An event as text in colors. -/
def colorLine (time : String) (event : LogRecord) : String :=
  styled 2 time ++ " " ++ styled event.level.color event.level.column ++ " "
    ++ styled 2 event.target ++ styled 2 ":" ++ " " ++ harmless event.message
    ++ String.join (event.fields.map fun (name, value) =>
      " " ++ styled 3 name ++ styled 2 "=" ++ value.toText)

/-! ## JSON -/

/-- The value of a field in JSON. -/
def fieldJson : FieldValue → Json
  | .text s => .text s
  | .integer n => .integer n
  | .flag b => .bool b

/-- An event in JSON. -/
def jsonLine (time : String) (event : LogRecord) : String :=
  (Json.object
    [("timestamp", .text time), ("level", .text event.level.name),
      ("fields", .object (("message", .text event.message)
        :: event.fields.map fun (name, value) => (name, fieldJson value))),
      ("target", .text event.target)]).compact

/-- An event as a line in a format; JSON takes no colors. -/
def line (format : LogFormat) (color : Bool) (time : String) (event : LogRecord) : String :=
  match format with
  | .json => event.jsonLine time
  | .text => if color then event.colorLine time else event.textLine time

end LogRecord
end RobotClient
