import RobotClient.Toml.Scalar
import RobotClient.Toml.Text
import RobotClient.Toml.Tree

set_option autoImplicit false

/-! # Reading TOML

A document is a list of lines: blank ones, headings, and keys with their values. -/

namespace RobotClient.Toml

/-! ## Between values -/

/-- The input from the next line break on, after a comment; `none` if the comment holds a control
    character. -/
def skipComment : List Char → Option (List Char)
  | [] => some []
  | c :: rest =>
    if c = '\n' then some (c :: rest)
    else if c = '\r' then if rest.head? = some '\n' then some (c :: rest) else none
    else if isPlain c then skipComment rest
    else none

/-- The input after blanks, line breaks and comments; at most `count` lines of them. -/
def skipLines : Nat → List Char → Option (List Char)
  | 0, cs => some cs
  | count + 1, cs =>
    match skipSpaces cs with
    | '#' :: rest => do skipLines count (← skipComment rest)
    | rest =>
      match lineBreak? rest with
      | some rest => skipLines count rest
      | none => some rest

/-- The input after all blanks, line breaks and comments. -/
def skipAllLines (cs : List Char) : Option (List Char) := skipLines (2 * cs.length) cs

/-- The input after the end of a line, where a comment may stand; nothing is left at the end of the
    document. -/
def endOfLine (cs : List Char) : Option (List Char) := do
  let rest ←
    match skipSpaces cs with
    | '#' :: rest => skipComment rest
    | rest => some rest
  if rest.isEmpty then return [] else lineBreak? rest

/-! ## Values -/

/-- The items of an array up to its bracket, at most `count` of them. -/
def readItems (value : List Char → Option (Json × List Char)) :
    Nat → List Char → Option (List Json × List Char)
  | 0, _ => none
  | count + 1, cs => do
    match ← skipAllLines cs with
    | ']' :: rest => return ([], rest)
    | cs =>
      let (item, cs) ← value cs
      match ← skipAllLines cs with
      | ']' :: rest => return ([item], rest)
      | ',' :: rest =>
        let (items, rest) ← readItems value count rest
        return (item :: items, rest)
      | _ => none

/-- A key with its value. -/
def readPair (value : List Char → Option (Json × List Char)) (cs : List Char) :
    Option ((List String × Json) × List Char) := do
  let (key, cs) ← readKey maxDepth cs
  let cs ← after? '=' (skipSpaces cs)
  let (v, cs) ← value (skipSpaces cs)
  return ((key, v), cs)

/-- The members of an inline table up to its brace, at most `count` of them. -/
def readMembers (value : List Char → Option (Json × List Char)) (entries : Entries) :
    Nat → List Char → Option (Entries × List Char)
  | 0, _ => none
  | count + 1, cs => do
    let ((key, v), cs) ← readPair value cs
    let entries ← Entries.insert v key entries
    match skipSpaces cs with
    | ',' :: rest => readMembers value entries count rest
    | c :: rest => if c = Char.ofNat 0x7D then return (entries, rest) else none
    | [] => none

/-- A value, nested at most so deep. -/
def readValue (depth : Nat) (cs : List Char) : Option (Json × List Char) :=
  match cs with
  | [] => none
  | c :: rest =>
    if c = '"' ∨ c = '\'' then
      (readText cs).map fun (s, rest) => (.text (String.ofList s), rest)
    else if c = '[' then
      match depth with
      | 0 => none
      | depth + 1 =>
        (readItems (readValue depth) (rest.length + 1) rest).map fun (items, rest) =>
          (.list items, rest)
    else if c = Char.ofNat 0x7B then
      match depth with
      | 0 => none
      | depth + 1 =>
        match after? (Char.ofNat 0x7D) (skipSpaces rest) with
        | some rest => some (.object [], rest)
        | none =>
          (readMembers (readValue depth) [] (rest.length + 1) rest).map fun (entries, rest) =>
            (.object (entriesToJson entries), rest)
    else readScalar cs

/-! ## Documents -/

/-- What a line of a document does. -/
inductive Line where
  | heading (path : List String) (repeated : Bool)
  | pair (key : List String) (value : Json)

/-- The path of a heading up to its brackets. -/
def readHeading (repeated : Bool) (cs : List Char) : Option (Line × List Char) := do
  let (path, cs) ← readKey maxDepth cs
  let cs ← after? ']' (skipSpaces cs)
  let cs ← if repeated then after? ']' cs else some cs
  return (.heading path repeated, cs)

/-- A line that is not blank. -/
def readLine (cs : List Char) : Option (Line × List Char) :=
  match cs with
  | '[' :: '[' :: rest => readHeading true rest
  | '[' :: rest => readHeading false rest
  | _ => (readPair (readValue maxDepth) cs).map fun ((key, value), rest) => (.pair key value, rest)

/-- A document in the making: its tree and the path of the table that is open. -/
structure Draft where
  root : Entries := []
  path : List String := []

/-- What a line makes of a draft. -/
def Draft.apply (d : Draft) : Line → Option Draft
  | .heading path repeated => do
    let key ← path.getLast?
    let open_ : Entries → Option Entries :=
      if repeated then Entries.openRepeated key else Entries.openTable key
    return { root := ← Entries.within path.dropLast open_ d.root, path }
  | .pair key value => do
    return { d with root := ← Entries.within d.path (Entries.insert value key) d.root }

/-- Reads the lines of a document, at most `count` of them. -/
def readLines (d : Draft) : Nat → List Char → Option Draft
  | 0, _ => none
  | count + 1, cs => do
    match ← skipAllLines cs with
    | [] => return d
    | cs =>
      let (line, cs) ← readLine cs
      let d ← d.apply line
      readLines d count (← endOfLine cs)

/-- The members of a document. One that stands for a time as a whole has none. -/
def parse? (s : String) : Option (List (String × Json)) := do
  let cs := s.toList
  let d ← readLines {} (cs.length + 1) cs
  match ← settle (.object (entriesToJson d.root)) with
  | .object members => return members
  | _ => none

end RobotClient.Toml
