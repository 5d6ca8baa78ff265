import RobotClient.FilePath

set_option autoImplicit false

/-! # Environment variables

The variables of a process, and other places where a variable may be looked up. A variable whose
value is not text counts as unset, except where it holds a path. -/

namespace RobotClient

/-! ## Environments -/

/-- The environment of a process, and what stands in for the user's home directory. -/
structure Environment where
  /-- The entries, each a name, an equality sign and a value. -/
  entries : List (List UInt8) := []
  /-- The home directory of the user's account, for when no variable tells one. -/
  accountHome : Option String := none
deriving DecidableEq, Repr, Inhabited

namespace Environment

/-- The entry of a variable. -/
def entry (name : String) (value : List UInt8) : List UInt8 := Text.Utf8.encode name ++ 61 :: value

/-- The environment of a block of entries, each of which ends in an octet of zero. -/
def ofBlock (block : List UInt8) : Environment := { entries := block.splitOn 0 }

/-- The value of a variable. An entry is one of a name if the name and an equality sign are its
    front, so a name may hold equality signs of its own. -/
def octets? (env : Environment) (name : String) : Option (List UInt8) :=
  env.entries.findSome? ((entry name []).isPrefixOf? ·)

/-- The value of a variable, if it is text. -/
def get? (env : Environment) (name : String) : Option String :=
  (env.octets? name).bind fun value => (Text.Utf8.decode value).toOption

/-- The variables that are text, with names up to the first equality sign. The library that reads
    the settings from here may stop at a variable that is not text, or refuse it, where it does not
    pass over it. No settings are modelled for such an environment: as in `get?`, the variable
    counts as unset. -/
def bindings (env : Environment) : List (String × String) :=
  env.entries.filterMap fun entry =>
    (Text.Utf8.decode entry).toOption.bind (Text.splitOnce? "=")

/-! ## Directories of the user -/

/-- The home directory of the user. -/
def home? (env : Environment) : Option (List UInt8) :=
  ((env.octets? "HOME").filter (· ≠ [])).or (env.accountHome.map Text.Utf8.encode)

/-- A directory of the user: a variable with an absolute path, or a path in the home directory. It
    need not be text. -/
def userDirectory? (env : Environment) (name fallback : String) : Option (List UInt8) :=
  match (env.octets? name).filter (·.head? = some 47) with
  | some directory => some directory
  | none => env.home?.map (FilePath.joinOctets · fallback)

end Environment

/-! ## Sources of variables -/

/-- Where a variable is looked up: in the environment of the process, or in a table. -/
inductive VariableSource where
  | process (env : Environment)
  | table (bindings : List (String × String))
deriving DecidableEq, Repr

instance : Inhabited VariableSource := ⟨.process {}⟩

/-- The value of a variable. -/
def VariableSource.get? (source : VariableSource) (name : String) : Option String :=
  match source with
  | .process env => env.get? name
  | .table bindings => bindings.lookup name

end RobotClient
