set_option autoImplicit false

/-! # Writing TOML texts and keys

A text has four spellings: basic and literal, each on one line or on several. The plainest one that
can hold the text without escapes is chosen; only where none can, escapes are used. -/

namespace RobotClient.Toml

/-! ## What a text holds -/

/-- A control character other than the tab and the line feed. -/
def isControl (c : Char) : Bool :=
  (c.toNat < 0x20 && c != '\t' && c != '\n') || c.toNat == 0x7F

/-- The longest run of a character, where `current` have just been seen. -/
def longestRun (mark : Char) (current : Nat) : List Char → Nat
  | [] => current
  | c :: rest =>
    if c = mark then longestRun mark (current + 1) rest else max current (longestRun mark 0 rest)

/-! ## Spellings -/

/-- The spellings of a text. -/
inductive Spelling where
  | basic
  | literal
  | longBasic
  | longLiteral
deriving DecidableEq, Repr

namespace Spelling

/-- Whether a spelling can hold line breaks. -/
def isLong : Spelling → Bool
  | .longBasic | .longLiteral => true
  | _ => false

/-- Whether a spelling has escapes. -/
def hasEscapes : Spelling → Bool
  | .basic | .longBasic => true
  | _ => false

/-- The quotes around a text. -/
def quotes : Spelling → List Char
  | .basic => ['"']
  | .literal => ['\'']
  | .longBasic => ['"', '"', '"']
  | .longLiteral => ['\'', '\'', '\'']

/-- The spelling of a value. -/
def ofValue (cs : List Char) : Spelling :=
  let control := cs.any isControl
  let backslash := cs.contains '\\'
  let newline := cs.contains '\n'
  let doubles := longestRun '"' 0 cs
  let singles := longestRun '\'' 0 cs
  if !control && !backslash && doubles == 0 && !newline then .basic
  else if !control && singles == 0 && !newline then .literal
  else if !control && !backslash && doubles ≤ 2 then .longBasic
  else if !control && singles ≤ 2 then .longLiteral
  else if newline then .longBasic
  else .basic

/-- The spelling of a key that needs quotes. -/
def ofKey (cs : List Char) : Spelling :=
  let control := cs.any fun c => isControl c || c == '\n'
  if !control && !cs.contains '\\' && !cs.contains '"' then .basic
  else if !control && !cs.contains '\'' then .literal
  else .basic

end Spelling

/-! ## Escapes -/

/-- A control character by its number. -/
def escapeControl (c : Char) : List Char :=
  ['\\', 'u', '0', '0'] ++
    (Nat.toDigits 16 (c.toNat / 16) ++ Nat.toDigits 16 (c.toNat % 16)).map Char.toUpper

/-- How a character other than the quote is written in a spelling with escapes. -/
def escapeChar (long : Bool) (c : Char) : List Char :=
  if c = '\\' then ['\\', '\\']
  else if c = '\t' then ['\\', 't']
  else if c = '\n' then if long then ['\n'] else ['\\', 'n']
  else if c = '\r' then ['\\', 'r']
  else if c = Char.ofNat 8 then ['\\', 'b']
  else if c = Char.ofNat 12 then ['\\', 'f']
  else if isControl c then escapeControl c
  else [c]

/-- A text with escapes; on several lines two quotes in a row stand for themselves, and `run` of
    them have just been written. -/
def escape (long : Bool) (run : Nat) : List Char → List Char
  | [] => []
  | c :: rest =>
    if c = '"' then
      if long && run < 2 then '"' :: escape long (run + 1) rest
      else '\\' :: '"' :: escape long 0 rest
    else escapeChar long c ++ escape long 0 rest

/-- A text in a spelling. A text of several lines starts on the line after the quotes. -/
def spell (spelling : Spelling) (cs : List Char) : List Char :=
  let opening := if spelling.isLong && cs.contains '\n' then ['\n'] else []
  let body := if spelling.hasEscapes then escape spelling.isLong 0 cs else cs
  spelling.quotes ++ opening ++ body ++ spelling.quotes

/-! ## Texts and keys -/

/-- A text as a value. -/
def writeText (s : String) : String := String.ofList (spell (.ofValue s.toList) s.toList)

/-- A character that a key may hold without quotes. -/
def isBareChar (c : Char) : Bool := c.isAlphanum || c == '_' || c == '-'

/-- A key. -/
def writeKey (s : String) : String :=
  if s ≠ "" && s.toList.all isBareChar then s
  else String.ofList (spell (.ofKey s.toList) s.toList)

end RobotClient.Toml
