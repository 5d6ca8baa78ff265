import RobotClient.Json.Basic
import RobotClient.Text.Lowercase

set_option autoImplicit false

/-! # Configuration values

What the layers of a configuration hold: scalars, lists and tables. A scalar and a list remember the
layer that they came from. A table is put together from several layers, and remembers none. -/

namespace RobotClient.Config

/-- A value that holds no others. -/
inductive Scalar where
  | nothing
  | bool (value : Bool)
  | integer (value : Int)
  | real (value : Number.Binary64)
  | text (value : String)
deriving DecidableEq, Repr, Inhabited

/-- A configuration value. -/
inductive Value where
  | scalar (origin : Option String) (value : Scalar)
  | list (origin : Option String) (items : List Value)
  | table (origin : Option String) (entries : List (String × Value))
deriving Repr, Inhabited

/-- The keys of a table with their values. -/
abbrev Entries := List (String × Value)

namespace Value

/-- The layer that a value came from. -/
def origin : Value → Option String
  | .scalar origin _ | .list origin _ | .table origin _ => origin

/-- The value of a missing key on the way to another. -/
def nothing : Value := .scalar none .nothing

/-- A text without an origin. -/
def ofText (s : String) : Value := .scalar none (.text s)

/-- A number without an origin. -/
def ofNat (n : Nat) : Value := .scalar none (.integer n)

mutual

/-- A JSON value from a layer. A whole number beyond signed words becomes a real one. -/
def ofJson (origin : Option String) : Json → Value
  | .null => .scalar origin .nothing
  | .bool b => .scalar origin (.bool b)
  | .integer n =>
    .scalar origin <|
      if n ≤ Number.maxSigned then .integer n
      else .real (Number.Binary64.ofQuotient false n.toNat 1)
  | .real x => .scalar origin (.real x)
  | .text s => .scalar origin (.text s)
  | .list items => .list origin (ofItems origin items)
  | .object members => .table origin (ofMembers origin members)

/-- The items of a list from a layer. -/
def ofItems (origin : Option String) : List Json → List Value
  | [] => []
  | item :: rest => ofJson origin item :: ofItems origin rest

/-- The members of an object from a layer. -/
def ofMembers (origin : Option String) : List (String × Json) → Entries
  | [] => []
  | (key, value) :: rest => (key, ofJson origin value) :: ofMembers origin rest

end

end Value

/-- Entries with one more, which replaces an earlier one of the same key in its place. -/
def Entries.put (key : String) (value : Value) : Entries → Entries
  | [] => [(key, value)]
  | (k, v) :: rest => if k = key then (k, value) :: rest else (k, v) :: put key value rest

@[simp] theorem Entries.lookup_put_self (key : String) (value : Value) (entries : Entries) :
    (Entries.put key value entries).lookup key = some value := by
  induction entries with
  | nil => simp [Entries.put]
  | cons entry rest ih =>
    obtain ⟨k, v⟩ := entry
    simp only [Entries.put]
    split
    · next h => subst h; simp
    · next h =>
      have hne : (key == k) = false := by simpa using fun e => h e.symm
      simp [List.lookup_cons, hne, ih]

theorem Entries.lookup_put_of_ne {key other : String} (h : other ≠ key) (value : Value)
    (entries : Entries) : (Entries.put key value entries).lookup other = entries.lookup other := by
  have hne : (other == key) = false := by simpa using h
  induction entries with
  | nil => simp [Entries.put, List.lookup_cons, hne]
  | cons entry rest ih =>
    obtain ⟨k, v⟩ := entry
    simp only [Entries.put]
    split
    · next hk => subst hk; simp [List.lookup_cons, hne]
    · simp only [List.lookup_cons, ih]

end RobotClient.Config
