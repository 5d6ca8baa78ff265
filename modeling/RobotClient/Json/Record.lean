import RobotClient.Json.Basic

set_option autoImplicit false

/-! # Records in JSON

A record is written as an object, whose members may come in any order and beside unknown ones, or as
a list of its fields in their order. -/

namespace RobotClient.Json

/-- A record as it is written. -/
inductive Record where
  | named (members : List (String × Json))
  | listed (fields : List Json)

namespace Record

/-- The record of `count` fields that a value writes. -/
def of? (count : Nat) : Json → Option Record
  | .object members => some (.named members)
  | .list fields => if fields.length ≤ count then some (.listed fields) else none
  | _ => none

/-- The value of the field at a position and of a name. -/
def find? (r : Record) (position : Nat) (name : String) : Option Json :=
  match r with
  | .named members => members.lookup name
  | .listed fields => fields[position]?

/-- A field that must be there. -/
def required {α : Type} (r : Record) (position : Nat) (name : String) (read : Json → Option α) :
    Option α :=
  (r.find? position name).bind read

/-- A field that has a default. -/
def orDefault {α : Type} (r : Record) (position : Nat) (name : String) (read : Json → Option α)
    (default : α) : Option α :=
  match r.find? position name with
  | some value => read value
  | none => some default

/-- How an optional value is read: `null` is none. -/
def nullable {α : Type} (read : Json → Option α) : Json → Option (Option α)
  | .null => some none
  | value => (read value).map some

/-- An optional field, which may be left out of an object but not of a list. -/
def optional {α : Type} (r : Record) (position : Nat) (name : String) (read : Json → Option α) :
    Option (Option α) :=
  match r with
  | .named _ => r.orDefault position name (nullable read) none
  | .listed _ => r.required position name (nullable read)

end Record

/-! ## Fields of common types -/

/-- A list of things of one kind. -/
def listOf? {α : Type} (read : Json → Option α) : Json → Option (List α)
  | .list items => items.mapM read
  | _ => none

/-- A table from texts to things of one kind. -/
def tableOf? {α : Type} (read : Json → Option α) : Json → Option (List (String × α))
  | .object members => members.mapM fun (name, value) => (read value).map (name, ·)
  | _ => none

/-- A whole number of an unsigned word. -/
def unsigned? (value : Json) : Option UInt64 := value.integer?.bind Number.unsigned?

/-- A whole number of a signed word. -/
def signed? (value : Json) : Option Int64 := value.integer?.bind Number.signed?

/-- A name out of a fixed set, alone or as the only member of an object with nothing to it. -/
def variant? {α : Type} (ofName? : String → Option α) : Json → Option α
  | .text name => ofName? name
  | .object [(name, .null)] => ofName? name
  | _ => none

/-! ## Writing -/

/-- A value or `null`. -/
def orNull {α : Type} (write : α → Json) : Option α → Json
  | some x => write x
  | none => .null

/-- A member that is left out when there is no value. -/
def present {α : Type} (name : String) (write : α → Json) (value : Option α) :
    List (String × Json) :=
  value.toList.map fun x => (name, write x)

/-- A list of texts. -/
def texts (items : List String) : Json := .list (items.map .text)

end RobotClient.Json
