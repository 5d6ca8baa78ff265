import RobotClient.Arguments.Item
import RobotClient.Error

set_option autoImplicit false

/-! # Reading an argument vector

Arguments arrive as octets. They are decoded, and then what they say is put together item by item. A
defect anywhere wins over all unknown tokens, and the first defect is the one reported. -/

namespace RobotClient

/-! ## Decoding -/

/-- The texts of raw arguments, or the defect of the first one that is not text. -/
def decodeArguments (raw : List (List UInt8)) : Except ClientError (List String) :=
  raw.mapM fun octets => (Text.Utf8.decode octets).mapError .undecodable

/-! ## Putting items together -/

namespace Arguments

/-- What a setting adds. -/
def apply (a : Arguments) : Setting → Arguments
  | .remap rule => { a with remapRules := a.remapRules ++ [rule] }
  | .parameter assignment => { a with parameters := a.parameters ++ [assignment] }
  | .parameterFile path => { a with parameterFiles := a.parameterFiles ++ [path] }
  | .defaultLevel severity => { a with logLevels := { a.logLevels with default := some severity } }
  | .loggerLevel logger severity =>
    { a with logLevels :=
        { a.logLevels with loggers := a.logLevels.loggers ++ [(logger, severity)] } }
  | .logConfigFile path => { a with logConfigFile := some path }
  | .logFileName name => { a with logFileName := some name }
  | .enclave name => { a with enclave := some name }
  | .rosoutLogs enabled => { a with rosoutLogs := some enabled }
  | .stdoutLogs enabled => { a with stdoutLogs := some enabled }
  | .externalLibLogs enabled => { a with externalLibLogs := some enabled }

/-- What an item adds; tokens that mean nothing add nothing. -/
def absorb (a : Arguments) : Item → Arguments
  | .plain token => { a with plain := a.plain ++ [token] }
  | .setting setting => a.apply setting
  | .unknown _ | .defect _ => a

/-- What a list of items says. -/
def ofItems (items : List Item) : Arguments := items.foldl absorb {}

end Arguments

/-- The defects among items, in order. -/
def Item.defects (items : List Item) : List ArgumentDefect :=
  items.filterMap fun | .defect d => some d | _ => none

/-- The unknown tokens among items, in order. -/
def Item.unknowns (items : List Item) : List String :=
  items.filterMap fun | .unknown token => some token | _ => none

/-- What a list of items says, unless one of them is a defect or unknown. -/
def Arguments.ofItems? (items : List Item) : Except ClientError Arguments :=
  match Item.defects items with
  | defect :: _ => .error (.invalidArguments defect.message)
  | [] =>
    match Item.unknowns items with
    | [] => .ok (Arguments.ofItems items)
    | tokens => .error (.unknownArguments tokens)

/-- What an argument vector says. -/
def Arguments.parse (tokens : List String) : Except ClientError Arguments :=
  Arguments.ofItems? (items false tokens)

/-- The arguments outside the reserved blocks; it fails as `Arguments.parse` does, so that a
    malformed block is never dropped in silence. -/
def Arguments.plainArguments (tokens : List String) : Except ClientError (List String) :=
  (Arguments.parse tokens).map (·.plain)

/-- What raw arguments say. -/
def Arguments.ofRaw (raw : List (List UInt8)) : Except ClientError Arguments :=
  (decodeArguments raw).bind Arguments.parse

end RobotClient
