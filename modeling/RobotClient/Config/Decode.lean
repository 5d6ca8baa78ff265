import RobotClient.Config.Basic
import RobotClient.Config.Value

set_option autoImplicit false

/-! # Reading settings out of configuration values

A setting takes any scalar that can be understood as its type. A section may be a table, or a list
of its settings in their order. What is missing has its default. -/

namespace RobotClient.Config

open Number (Binary64)
open Text (ticked)

/-! ## Errors -/

/-- Why a configuration cannot be read. -/
inductive LoadError where
  /-- A file is no document of its format. -/
  | unparsable (path : String)
  /-- A setting has the wrong type: what was found, what was expected, at which key, and where
    from. -/
  | wrongType (found expected : String) (key : Option String) (origin : Option String)
  /-- A key names a position that its list cannot have. -/
  | noSuchItem
  | other (detail : String)
deriving DecidableEq, Repr, Inhabited

/-- The wording of an error. -/
def LoadError.message : LoadError → String
  | .unparsable path => "configuration file \"" ++ path ++ "\" cannot be parsed"
  | .wrongType found expected key origin =>
    "invalid type: " ++ found ++ ", expected " ++ expected
      ++ ((key.map (" for key " ++ ticked ·)).getD "")
      ++ ((origin.map (" in " ++ ·)).getD "")
  | .noSuchItem => "list position out of range"
  | .other detail => detail

/-- Changes the key of an error; one that has none yet has an empty one. -/
def LoadError.mapKey (f : String → String) : LoadError → LoadError
  | .wrongType found expected key origin =>
    .wrongType found expected (some (f (key.getD ""))) origin
  | e => e

/-- Puts a name in front of the key of an error, with a dot unless a position or nothing follows. -/
def LoadError.below (name : String) (e : LoadError) : LoadError :=
  e.mapKey fun key =>
    match key.toList with
    | [] | '[' :: _ => name ++ key
    | _ => name ++ "." ++ key

/-- Puts a position in front of the key of an error. No dot follows it. -/
def LoadError.belowItem (position : Nat) (e : LoadError) : LoadError :=
  e.mapKey fun key => s!"[{position}]" ++ key

/-! ## What is found -/

/-- What a value is, where a scalar is expected. -/
def describe : Value → String
  | .scalar _ .nothing => "unit value"
  | .scalar _ (.bool b) => "boolean " ++ ticked (toString b)
  | .scalar _ (.integer n) => "64-bit integer " ++ ticked (toString n)
  | .scalar _ (.real x) => "floating point " ++ ticked x.toText
  | .scalar _ (.text s) => "string " ++ Text.quoted s
  | .list .. => "sequence"
  | .table .. => "map"

/-- What a value is, where a section is expected. -/
def describeSection : Value → String
  | .scalar _ (.integer n) => "integer " ++ ticked (toString n)
  | .scalar _ (.real x) => "floating point " ++ ticked x.toPointText
  | value => describe value

/-- The error of a value that is not of the expected type. -/
def mismatch {α : Type} (expected : String) (value : Value) : Except LoadError α :=
  .error (.wrongType (describe value) expected none value.origin)

/-! ## Scalars -/

/-- Words that stand for a truth value. -/
def truthWord? (s : String) : Option Bool :=
  if s = "true" ∨ s = "on" ∨ s = "yes" then some true
  else if s = "false" ∨ s = "off" ∨ s = "no" then some false
  else none

/-- The signed word that a value stands for. -/
def readSigned (value : Value) : Except LoadError Int64 :=
  let expected := "an integer"
  match value with
  | .scalar _ (.integer n) =>
    match Number.signed? n with
    | some n => .ok n
    | none => mismatch expected value
  | .scalar _ (.text s) =>
    match (truthWord? (Text.lower s)).map (fun b : Bool => if b then (1 : Int64) else 0) with
    | some n => .ok n
    | none =>
      match Number.readSigned? s with
      | some n => .ok n
      | none => mismatch expected value
  | .scalar _ (.bool b) => .ok (if b then 1 else 0)
  | .scalar _ (.real x) => .ok (Int64.ofInt (x.roundWithin Number.minSigned Number.maxSigned))
  | _ => mismatch expected value

/-- The unsigned word that a value stands for. -/
def readUnsigned (value : Value) : Except LoadError UInt64 :=
  let expected := "an integer"
  match value with
  | .scalar _ (.integer n) =>
    match Number.unsigned? n with
    | some n => .ok n
    | none => mismatch "an unsigned 64 bit or less integer" value
  | .scalar _ (.text s) =>
    match (truthWord? (Text.lower s)).map (fun b : Bool => if b then (1 : UInt64) else 0) with
    | some n => .ok n
    | none =>
      match Number.readUnsigned? s with
      | some n => .ok n
      | none => mismatch expected value
  | .scalar _ (.bool b) => .ok (if b then 1 else 0)
  | .scalar _ (.real x) => .ok (UInt64.ofNat (x.roundWithin 0 Number.maxUnsigned).toNat)
  | _ => mismatch expected value

/-- The truth value that a value stands for. -/
def readBool (value : Value) : Except LoadError Bool :=
  match value with
  | .scalar _ (.bool b) => .ok b
  | .scalar _ (.integer n) => .ok (n != 0)
  | .scalar _ (.real x) => .ok !x.isZero
  | .scalar origin (.text s) =>
    let folded := Text.lower s
    match truthWord? folded with
    | some b => .ok b
    | none =>
      if folded = "1" then .ok true
      else if folded = "0" then .ok false
      else mismatch "a boolean" (.scalar origin (.text folded))
  | _ => mismatch "a boolean" value

/-- The text that a value stands for. -/
def readText (value : Value) : Except LoadError String :=
  match value with
  | .scalar _ (.text s) => .ok s
  | .scalar _ (.bool b) => .ok (toString b)
  | .scalar _ (.integer n) => .ok (toString n)
  | .scalar _ (.real x) => .ok x.toText
  | _ => mismatch "a string" value

/-- A value that may be missing. -/
def readOption {α : Type} (read : Value → Except LoadError α) : Value → Except LoadError (Option α)
  | .scalar _ .nothing => .ok none
  | value => (read value).map some

/-- The choice of handlers of a name in any case. -/
def handlersOfName (name : String) : Except LoadError HandlerOptions :=
  match HandlerOptions.ofName? (Text.lower name) with
  | some options => .ok options
  | none => .error (.other ("enum SignalHandlerOptions does not have variant constructor " ++ name))

/-- A choice of handlers: its name, alone or as the only key of a table. -/
def readHandlers : Value → Except LoadError HandlerOptions
  | .scalar _ (.text name) => handlersOfName name
  | .table _ [(name, _)] => handlersOfName name
  | _ => .error (.other ("value of enum SignalHandlerOptions should be represented by either "
      ++ "string or table with exactly one key"))

/-! ## Sections -/

/-- A section with its settings by name or by position. -/
inductive Section where
  | named (entries : Entries)
  | listed (items : List Value)

/-- The section that a value is. -/
def Section.of (expected : String) : Value → Except LoadError Section
  | .table _ entries => .ok (.named entries)
  | .list _ items => .ok (.listed items)
  | value =>
    .error (.other ("invalid type: " ++ describeSection value ++ ", expected " ++ expected))

/-- A setting of a section, or its default. -/
def Section.read {α : Type} (s : Section) (position : Nat) (name : String)
    (read : Value → Except LoadError α) (default : α) : Except LoadError α :=
  match s with
  | .named entries =>
    match entries.lookup name with
    | some value => (read value).mapError (·.below name)
    | none => .ok default
  | .listed items =>
    match items[position]? with
    | some value => (read value).mapError (·.belowItem position)
    | none => .ok default

/-- The entries of a table of texts. -/
def readTable : Value → Except LoadError (List (String × String))
  | .table _ entries =>
    entries.mapM fun (key, value) => ((readText value).mapError (·.below key)).map (key, ·)
  | value => .error (.other ("invalid type: " ++ describeSection value ++ ", expected a map"))

/-- The domain's settings. -/
def readDomain (value : Value) : Except LoadError DomainConfig := do
  let s ← Section.of "struct DomainConfig" value
  return {
    envVar := ← s.read 0 "env_var" readText "ROS_DOMAIN_ID"
    defaultId := ← s.read 1 "default_domain_id" readUnsigned 0
    id := ← s.read 2 "domain_id" (readOption readSigned) none }

/-- The signals' settings. -/
def readSignals (value : Value) : Except LoadError SignalConfig := do
  let s ← Section.of "struct SignalConfig" value
  return { defaultHandlers := ← s.read 0 "default_handlers" (readOption readHandlers) none }

/-- The settings of logging. -/
def readLogging (value : Value) : Except LoadError LoggingConfig := do
  let s ← Section.of "struct LoggingConfig" value
  return {
    level := ← s.read 0 "level" readText "info"
    format := ← s.read 1 "format" readText "text"
    output := ← s.read 2 "output" readText "stderr"
    file := ← s.read 3 "file" (readOption readText) none
    color := ← s.read 4 "color" readBool true
    modules := ← s.read 5 "modules" readTable [] }

/-- A whole configuration. -/
def readRuntime (value : Value) : Except LoadError RuntimeConfig := do
  let s ← Section.of "struct RuntimeConfig" value
  return {
    domain := ← s.read 0 "domain" readDomain {}
    signals := ← s.read 1 "signals" readSignals {}
    logging := ← s.read 2 "logging" readLogging {} }

end RobotClient.Config
