import RobotClient.Number.Binary64

set_option autoImplicit false

/-! # JSON values

Whole numbers are kept apart from real ones, because a reader may accept only the former. Members of
an object keep their order. -/

namespace RobotClient

/-- A JSON value. -/
inductive Json where
  | null
  | bool (value : Bool)
  | integer (value : Int)
  | real (value : Number.Binary64)
  | text (value : String)
  | list (items : List Json)
  | object (members : List (String × Json))
deriving Repr, Inhabited

namespace Json

/-- Members with one more, which replaces an earlier one of the same name. -/
def insertMember (members : List (String × Json)) (name : String) (value : Json) :
    List (String × Json) :=
  members.filter (·.1 != name) ++ [(name, value)]

/-- The member of a name; `none` also for a value that is no object. -/
def member? (name : String) : Json → Option Json
  | .object members => members.lookup name
  | _ => none

/-- The member of a name, where `null` counts as absent. -/
def given? (name : String) (value : Json) : Option Json :=
  match value.member? name with
  | some .null => none
  | found => found

/-- The text of a value that is one. -/
def text? : Json → Option String
  | .text s => some s
  | _ => none

/-- The items of a value that is a list. -/
def list? : Json → Option (List Json)
  | .list items => some items
  | _ => none

/-- The members of a value that is an object. -/
def object? : Json → Option (List (String × Json))
  | .object members => some members
  | _ => none

/-- The truth value of a value that is one. -/
def bool? : Json → Option Bool
  | .bool b => some b
  | _ => none

/-- The whole number of a value that is one. -/
def integer? : Json → Option Int
  | .integer n => some n
  | _ => none

end Json
end RobotClient
