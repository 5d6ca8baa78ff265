import RobotClient.Number.Decimal
import RobotClient.Text.Utf8

set_option autoImplicit false

/-! # Options on a command line

A command has options by name, each given at most once: `--name value`, `--name=value`, or `--name`
alone for a switch. They stand in front. What follows the first token that is no option is not
looked at here; two dashes alone end the options as well. -/

namespace RobotClient.Console

/-- One argument as the system hands it over: octets that need not be text. -/
abbrev Token := List UInt8

/-- Why a command line gives no command. -/
inductive Stop where
  /-- Help is asked for. -/
  | help
  /-- The command line makes no sense. -/
  | usage
deriving DecidableEq, Repr, Inhabited

/-- The exit code of a program that stops for a reason. -/
def Stop.exitCode : Stop → Nat
  | .help => 0
  | .usage => 2

/-! ## Values -/

/-- What an option takes. -/
inductive Operand where
  /-- Nothing; the option is a switch. -/
  | switch
  | text
  /-- The path of a file, which is not empty. -/
  | path
  | signed
  | unsigned
deriving DecidableEq, Repr, Inhabited

/-- What an option is given. -/
inductive OptionValue where
  | on
  | text (value : String)
  | signed (value : Int64)
  | unsigned (value : UInt64)
deriving DecidableEq, Repr, Inhabited

/-- The value that a token is; a switch takes none. Octets of a path that are no text are
    replaced. -/
def Operand.read? (operand : Operand) (token : Token) : Option OptionValue :=
  let text := (Text.Utf8.decode token).toOption
  match operand with
  | .switch => none
  | .text => text.map .text
  | .path => if token.isEmpty then none else some (.text (Text.Utf8.decodeLossy token))
  | .signed => (text.bind Number.readSigned?).map .signed
  | .unsigned => (text.bind Number.readUnsigned?).map .unsigned

/-- The values that options are given, by name. -/
abbrev Given := List (String × OptionValue)

namespace Given

/-- Adds the value of an option, which must not have one yet. -/
def put (given : Given) (name : String) (value : OptionValue) : Except Stop Given :=
  if given.any (·.1 = name) then .error .usage else .ok (given ++ [(name, value)])

/-- Adds a token as the value of an option. -/
def read (given : Given) (name : String) (operand : Operand) (token : Token) : Except Stop Given :=
  match operand.read? token with
  | some value => given.put name value
  | none => .error .usage

/-- Whether a switch is given. -/
def on (given : Given) (name : String) : Bool := (given.lookup name).isSome

/-- The text that an option is given. -/
def text? (given : Given) (name : String) : Option String :=
  match given.lookup name with
  | some (.text s) => some s
  | _ => none

/-- The signed word that an option is given. -/
def signed? (given : Given) (name : String) : Option Int64 :=
  match given.lookup name with
  | some (.signed n) => some n
  | _ => none

/-- The unsigned word that an option is given. -/
def unsigned? (given : Given) (name : String) : Option UInt64 :=
  match given.lookup name with
  | some (.unsigned n) => some n
  | _ => none

end Given

/-! ## Shapes of tokens -/

/-- The options of a command. -/
structure OptionTable where
  options : List (String × Operand)
  /-- Whether what is no option, known or unknown, starts arguments that are taken as they are. -/
  takesAnything : Bool

/-- What a token is where an option can stand. -/
inductive Shape where
  /-- Two dashes alone. -/
  | separator
  | help
  | switch (name : String)
  | option (name : String) (operand : Operand) (attached : Option Token)
  /-- No option of the command. -/
  | plain
  /-- An option that the command does not have, or a value for one that takes none. -/
  | wrong
deriving DecidableEq, Repr, Inhabited

/-- The octet of a dash. -/
def dash : UInt8 := 0x2D

/-- The octet of an equality sign. -/
def equalitySign : UInt8 := 0x3D

/-- The octet of the letter that asks for help. -/
def helpLetter : UInt8 := 0x68

/-- The name of a long option with the value that is attached to it. -/
def splitLong (body : Token) : Token × Option Token :=
  match body.span (· ≠ equalitySign) with
  | (name, _ :: value) => (name, some value)
  | (name, []) => (name, none)

namespace OptionTable

/-- A token that starts with two dashes. -/
def longShape (table : OptionTable) (body : Token) : Shape :=
  let (name, attached) := splitLong body
  match Text.Utf8.decode name with
  | .error _ => .wrong
  | .ok name =>
    if name = "help" then if attached.isSome then .wrong else .help
    else match table.options.lookup name with
      | some .switch => if attached.isSome then .wrong else .switch name
      | some operand => .option name operand attached
      | none => if table.takesAnything then .plain else .wrong

/-- A token that starts with one dash and has more. Letters that all ask for help do so; a command
    that takes anything takes the others. -/
def shortShape (table : OptionTable) (letters : Token) : Shape :=
  if table.takesAnything then if letters.all (· = helpLetter) then .help else .plain
  else if letters.head? = some helpLetter then .help
  else .wrong

/-- What a token is where an option can stand. -/
def shape (table : OptionTable) : Token → Shape
  | [] => .plain
  | first :: rest =>
    if first ≠ dash then .plain
    else match rest with
      | [] => .plain
      | second :: body =>
        if second ≠ dash then table.shortShape rest
        else if body.isEmpty then .separator
        else table.longShape body

/-! ## Scanning -/

/-- The options in front of a command line. -/
structure Scan where
  given : Given
  /-- The last option, if its value is a token of its own: it is still to be looked at. -/
  pending : Option (String × Operand × Token)
  /-- Whether two dashes alone ended the options. -/
  separated : Bool
  rest : List Token

/-- The values with that of the last option. -/
def settle (given : Given) (pending : Option (String × Operand × Token)) : Except Stop Given :=
  match pending with
  | none => .ok given
  | some (name, operand, token) => given.read name operand token

/-- Scans the options in front. A value that is a token of its own must not have the shape of an
    option; it is looked at when the next option comes. -/
def scan (table : OptionTable) (given : Given) (pending : Option (String × Operand × Token)) :
    List Token → Except Stop Scan
  | [] => .ok ⟨given, pending, false, []⟩
  | token :: rest =>
    match table.shape token with
    | .separator => .ok ⟨given, pending, true, rest⟩
    | .plain => .ok ⟨given, pending, false, token :: rest⟩
    | .wrong => .error .usage
    | .help =>
      match settle given pending with
      | .ok _ => .error .help
      | .error stop => .error stop
    | .switch name =>
      match settle given pending >>= fun given => given.put name .on with
      | .ok given => scan table given none rest
      | .error stop => .error stop
    | .option name operand (some value) =>
      match settle given pending >>= fun given => given.read name operand value with
      | .ok given => scan table given none rest
      | .error stop => .error stop
    | .option name operand none =>
      match settle given pending, rest with
      | .ok given, value :: rest =>
        if table.shape value = .plain then scan table given (some (name, operand, value)) rest
        else .error .usage
      | .ok _, [] => .error .usage
      | .error stop, _ => .error stop

/-- The options of a command with the tokens behind them. -/
def read (table : OptionTable) (tokens : List Token) : Except Stop (Given × List Token) := do
  let scan ← table.scan [] none tokens
  return (← settle scan.given scan.pending, scan.rest)

end OptionTable
end RobotClient.Console
