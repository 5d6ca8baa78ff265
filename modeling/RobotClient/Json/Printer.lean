import RobotClient.Json.Basic

set_option autoImplicit false

/-! # Writing JSON

Two layouts: one line without blanks, and one member or item a line with two blanks a level. Text
escapes the quote, the backslash and the control characters, the five common ones by a letter. -/

namespace RobotClient.Json

/-! ## Text -/

/-- A control character by its number. -/
def escapeControl (c : Char) : List Char :=
  ['\\', 'u', '0', '0'] ++ Nat.toDigits 16 (c.toNat / 16) ++ Nat.toDigits 16 (c.toNat % 16)

/-- How a character is written inside quotes. -/
def escapeChar (c : Char) : List Char :=
  if c = '"' then ['\\', '"']
  else if c = '\\' then ['\\', '\\']
  else if c = '\n' then ['\\', 'n']
  else if c = '\r' then ['\\', 'r']
  else if c = '\t' then ['\\', 't']
  else if c = Char.ofNat 8 then ['\\', 'b']
  else if c = Char.ofNat 12 then ['\\', 'f']
  else if c.toNat < 0x20 then escapeControl c
  else [c]

/-- A text between quotes. -/
def quote (s : String) : List Char := '"' :: s.toList.flatMap escapeChar ++ ['"']

/-! ## Values -/

/-- A whole number. -/
def printInteger (n : Int) : List Char := (toString n).toList

/-- A value that holds no others. -/
def printLeaf : Json → List Char
  | .null => ['n', 'u', 'l', 'l']
  | .bool true => ['t', 'r', 'u', 'e']
  | .bool false => ['f', 'a', 'l', 's', 'e']
  | .integer n => printInteger n
  | .real x => x.toPointText.toList
  | .text s => quote s
  | .list _ => ['[', ']']
  | .object _ => [Char.ofNat 0x7B, Char.ofNat 0x7D]

/-- A line break and the blanks of a level. -/
def newline (level : Nat) : List Char := '\n' :: List.replicate (2 * level) ' '

mutual

/-- A value at a level of the layout with a line for each member or item. -/
def printPretty (level : Nat) : Json → List Char
  | .list (item :: items) =>
    '[' :: newline (level + 1) ++ printPretty (level + 1) item ++ printPrettyItems (level + 1) items
      ++ newline level ++ [']']
  | .object ((name, value) :: members) =>
    Char.ofNat 0x7B :: newline (level + 1) ++ quote name ++ [':', ' ']
      ++ printPretty (level + 1) value ++ printPrettyMembers (level + 1) members
      ++ newline level ++ [Char.ofNat 0x7D]
  | value => printLeaf value

/-- The items after the first one. -/
def printPrettyItems (level : Nat) : List Json → List Char
  | [] => []
  | item :: items => ',' :: newline level ++ printPretty level item ++ printPrettyItems level items

/-- The members after the first one. -/
def printPrettyMembers (level : Nat) : List (String × Json) → List Char
  | [] => []
  | (name, value) :: members =>
    ',' :: newline level ++ quote name ++ [':', ' '] ++ printPretty level value
      ++ printPrettyMembers level members

end

mutual

/-- A value on one line. -/
def printCompact : Json → List Char
  | .list (item :: items) => '[' :: printCompact item ++ printCompactItems items ++ [']']
  | .object ((name, value) :: members) =>
    Char.ofNat 0x7B :: quote name ++ ':' :: printCompact value ++ printCompactMembers members
      ++ [Char.ofNat 0x7D]
  | value => printLeaf value

/-- The items after the first one. -/
def printCompactItems : List Json → List Char
  | [] => []
  | item :: items => ',' :: printCompact item ++ printCompactItems items

/-- The members after the first one. -/
def printCompactMembers : List (String × Json) → List Char
  | [] => []
  | (name, value) :: members =>
    ',' :: quote name ++ ':' :: printCompact value ++ printCompactMembers members

end

/-- A value with a line for each member or item. -/
def pretty (value : Json) : String := String.ofList (printPretty 0 value)

/-- A value on one line. -/
def compact (value : Json) : String := String.ofList (printCompact value)

end RobotClient.Json
