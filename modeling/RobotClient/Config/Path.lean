import RobotClient.Number.Decimal
import RobotClient.Text.Lowercase

set_option autoImplicit false

/-! # Configuration keys as paths

A key of a layer may name a place inside tables and lists, as in `domain.env_var` or `list[0]`. A
key that has no such form is a name as it stands. -/

namespace RobotClient.Config

/-- One step into a table or a list. -/
inductive Step where
  | key (name : String)
  | index (position : Int)
deriving DecidableEq, Repr, Inhabited

/-- A character of a name in a path. -/
def isNameChar (c : Char) : Bool := c.isAlphanum || c == ' ' || c == '_' || c == '-'

/-- A name at the front. -/
def readName (cs : List Char) : Option (String × List Char) :=
  let (name, rest) := cs.span isNameChar
  if name.isEmpty then none else some (String.ofList name, rest)

/-- A blank inside brackets. -/
def isIndexBlank (c : Char) : Bool := c == ' ' || c == '\t'

/-- A position at the front, behind its bracket. -/
def readIndex (cs : List Char) : Option (Int × List Char) := do
  let cs := cs.dropWhile isIndexBlank
  let sign := cs.takeWhile (· == '-')
  let (digits, rest) := (cs.drop sign.length).span Char.isDigit
  let n ← Number.integer? (sign ++ digits)
  let _ ← Number.signed? n
  match rest.dropWhile isIndexBlank with
  | ']' :: rest => return (n, rest)
  | _ => none

/-- The steps after the first one, at most `count` of them; nothing may be left. -/
def readSteps : Nat → List Char → Option (List Step)
  | _, [] => some []
  | 0, _ => none
  | count + 1, '.' :: cs => do
    let (name, rest) ← readName cs
    return .key name :: (← readSteps count rest)
  | count + 1, '[' :: cs => do
    let (position, rest) ← readIndex cs
    return .index position :: (← readSteps count rest)
  | _, _ => none

/-- The path that a key names, the key being in lower case. -/
def pathOf (key : String) : List Step :=
  let read : Option (List Step) := do
    let (name, rest) ← readName key.toList
    return .key name :: (← readSteps rest.length rest)
  read.getD [.key key]

end RobotClient.Config
