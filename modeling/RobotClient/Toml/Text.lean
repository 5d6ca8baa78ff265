import RobotClient.Json.Reader

set_option autoImplicit false

/-! # Reading TOML texts and keys

The four spellings of a text, and keys, which are bare or quoted. -/

namespace RobotClient.Toml

open Json (consText hexValue? hexFour?)

/-! ## Blanks -/

/-- A blank within a line. -/
def isSpace (c : Char) : Bool := c = ' ' || c = '\t'

/-- The input without the blanks at its front. -/
def skipSpaces (cs : List Char) : List Char := cs.dropWhile isSpace

/-- The input after a line break. -/
def lineBreak? : List Char → Option (List Char)
  | '\n' :: rest => some rest
  | '\r' :: '\n' :: rest => some rest
  | _ => none

/-- A character that a comment may hold, and a text unless it has a meaning there. -/
def isPlain (c : Char) : Bool := c = '\t' || (0x20 ≤ c.toNat && c.toNat != 0x7F)

/-! ## Escapes -/

/-- The character of a number, unless it is none. -/
def charOfNumber? (n : Nat) : Option Char :=
  if n < 0xD800 ∨ 0xE000 ≤ n ∧ n < 0x110000 then some (Char.ofNat n) else none

/-- The character that a letter after a backslash stands for. -/
def unescape? (c : Char) : Option Char :=
  if c = '"' || c = '\\' then some c
  else if c = 'b' then some (Char.ofNat 8)
  else if c = 't' then some '\t'
  else if c = 'n' then some '\n'
  else if c = 'f' then some (Char.ofNat 12)
  else if c = 'r' then some '\r'
  else none

/-! ## Texts on one line -/

/-- The rest of a basic text after its quote. -/
def readBasic : List Char → Option (List Char × List Char)
  | [] => none
  | '"' :: rest => some ([], rest)
  | '\\' :: 'u' :: a :: b :: c :: d :: rest => do
    let ch ← charOfNumber? (← hexFour? a b c d)
    consText ch (readBasic rest)
  | '\\' :: 'U' :: a :: b :: c :: d :: e :: f :: g :: h :: rest => do
    let ch ← charOfNumber? ((← hexFour? a b c d) * 0x10000 + (← hexFour? e f g h))
    consText ch (readBasic rest)
  | '\\' :: c :: rest => do consText (← unescape? c) (readBasic rest)
  | c :: rest => if isPlain c ∧ c ≠ '\\' then consText c (readBasic rest) else none

/-- The rest of a literal text after its quote. -/
def readLiteral : List Char → Option (List Char × List Char)
  | [] => none
  | c :: rest =>
    if c = '\'' then some ([], rest)
    else if isPlain c then consText c (readLiteral rest)
    else none

/-! ## Texts on several lines -/

/-- The quotes at the front beyond the three that end a text; two of them still belong to it. -/
def extraQuotes (quote : Char) : List Char → List Char × List Char
  | a :: b :: rest =>
    if a = quote ∧ b = quote then ([a, b], rest)
    else if a = quote then ([a], b :: rest)
    else ([], a :: b :: rest)
  | [a] => if a = quote then ([a], []) else ([], [a])
  | [] => ([], [])

/-- Whether nothing but blanks stands before the next line break. -/
def lineEndsHere (cs : List Char) : Bool := (lineBreak? (skipSpaces cs)).isSome

/-- The rest of a basic text of several lines. While `skipping`, after a backslash at the end of a
    line, blanks and line breaks are passed over. -/
def readLongBasic (skipping : Bool) : List Char → Option (List Char × List Char)
  | [] => none
  | '"' :: '"' :: '"' :: rest => some (extraQuotes '"' rest)
  | '\n' :: rest =>
    if skipping then readLongBasic true rest else consText '\n' (readLongBasic false rest)
  | '\r' :: '\n' :: rest =>
    if skipping then readLongBasic true rest else consText '\n' (readLongBasic false rest)
  | '\\' :: 'u' :: a :: b :: c :: d :: rest => do
    let ch ← charOfNumber? (← hexFour? a b c d)
    consText ch (readLongBasic false rest)
  | '\\' :: 'U' :: a :: b :: c :: d :: e :: f :: g :: h :: rest => do
    let ch ← charOfNumber? ((← hexFour? a b c d) * 0x10000 + (← hexFour? e f g h))
    consText ch (readLongBasic false rest)
  | '\\' :: c :: rest =>
    if lineEndsHere (c :: rest) then readLongBasic true (c :: rest)
    else do consText (← unescape? c) (readLongBasic false rest)
  | c :: rest =>
    if skipping ∧ isSpace c then readLongBasic true rest
    else if isPlain c ∧ c ≠ '\\' then consText c (readLongBasic false rest)
    else none

/-- The rest of a literal text of several lines. -/
def readLongLiteral : List Char → Option (List Char × List Char)
  | [] => none
  | '\'' :: '\'' :: '\'' :: rest => some (extraQuotes '\'' rest)
  | '\n' :: rest => consText '\n' (readLongLiteral rest)
  | '\r' :: '\n' :: rest => consText '\n' (readLongLiteral rest)
  | c :: rest => if isPlain c then consText c (readLongLiteral rest) else none

/-- The input without a line break right at its front. -/
def dropLineBreak (cs : List Char) : List Char := (lineBreak? cs).getD cs

/-- A text of any spelling; `none` if the input does not start with one. -/
def readText : List Char → Option (List Char × List Char)
  | '"' :: '"' :: '"' :: rest => readLongBasic false (dropLineBreak rest)
  | '\'' :: '\'' :: '\'' :: rest => readLongLiteral (dropLineBreak rest)
  | '"' :: rest => readBasic rest
  | '\'' :: rest => readLiteral rest
  | _ => none

/-! ## Keys -/

/-- A character of a bare key. -/
def isKeyChar (c : Char) : Bool := c.isAlphanum || c == '_' || c == '-'

/-- A key without dots. -/
def readSimpleKey : List Char → Option (String × List Char)
  | '"' :: rest => (readBasic rest).map fun (s, rest) => (String.ofList s, rest)
  | '\'' :: rest => (readLiteral rest).map fun (s, rest) => (String.ofList s, rest)
  | cs =>
    let (key, rest) := cs.span isKeyChar
    if key.isEmpty then none else some (String.ofList key, rest)

/-- How many parts a key may have, and how deep values may be nested. -/
def maxDepth : Nat := 79

/-- A key of at most `count` parts with dots between them. -/
def readKey : Nat → List Char → Option (List String × List Char)
  | 0, _ => none
  | count + 1, cs => do
    let (first, cs) ← readSimpleKey (skipSpaces cs)
    match skipSpaces cs with
    | '.' :: rest =>
      let (more, rest) ← readKey count rest
      return (first :: more, rest)
    | rest => return ([first], rest)

end RobotClient.Toml
