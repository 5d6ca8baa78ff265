import RobotClient.Json.Basic
import RobotClient.Text.Split

set_option autoImplicit false

/-! # Reading JSON

A document is one value with blanks around it. A whole number beyond the words of 64 bits, or
written with a minus before zero, is a real one. Of two members with one name the later counts. -/

namespace RobotClient.Json

/-- How deep values may be nested. -/
def maxDepth : Nat := 127

/-! ## Blanks and punctuation -/

/-- A blank between tokens. -/
def isSpace (c : Char) : Bool := c = ' ' || c = '\n' || c = '\t' || c = '\r'

/-- The input without the blanks at its front. -/
def skipSpaces (cs : List Char) : List Char := cs.dropWhile isSpace

/-- The input after a character that must come first, blanks before it allowed. -/
def expect (c : Char) (cs : List Char) : Option (List Char) :=
  match skipSpaces cs with
  | d :: rest => if d = c then some rest else none
  | [] => none

/-! ## Text -/

/-- The value of a hexadecimal digit. -/
def hexValue? (c : Char) : Option Nat :=
  if '0' ≤ c ∧ c ≤ '9' then some (c.toNat - 48)
  else if 'a' ≤ c ∧ c ≤ 'f' then some (c.toNat - 87)
  else if 'A' ≤ c ∧ c ≤ 'F' then some (c.toNat - 55)
  else none

/-- The value of four hexadecimal digits. -/
def hexFour? (a b c d : Char) : Option Nat := do
  return (((← hexValue? a) * 16 + (← hexValue? b)) * 16 + (← hexValue? c)) * 16 + (← hexValue? d)

/-- The character that a letter after a backslash stands for. -/
def unescape? (c : Char) : Option Char :=
  if c = '"' || c = '\\' || c = '/' then some c
  else if c = 'b' then some (Char.ofNat 8)
  else if c = 'f' then some (Char.ofNat 12)
  else if c = 'n' then some '\n'
  else if c = 'r' then some '\r'
  else if c = 't' then some '\t'
  else none

/-- Adds a character to a text that was read. -/
def consText (c : Char) (read : Option (List Char × List Char)) : Option (List Char × List Char) :=
  read.map fun (cs, rest) => (c :: cs, rest)

/-- Whether a number is the first half of a pair. -/
def isHighSurrogate (n : Nat) : Bool := 0xD800 ≤ n && n < 0xDC00

/-- Whether a number is the second half of a pair. -/
def isLowSurrogate (n : Nat) : Bool := 0xDC00 ≤ n && n < 0xE000

/-- The rest of a text after its opening quote. -/
def readText : List Char → Option (List Char × List Char)
  | [] => none
  | '"' :: rest => some ([], rest)
  | '\\' :: 'u' :: a :: b :: c :: d :: rest =>
    match hexFour? a b c d with
    | none => none
    | some n =>
      if isLowSurrogate n then none
      else if isHighSurrogate n then
        match rest with
        | '\\' :: 'u' :: e :: f :: g :: h :: rest' =>
          match hexFour? e f g h with
          | none => none
          | some m =>
            if isLowSurrogate m then
              consText (Char.ofNat (0x10000 + (n - 0xD800) * 0x400 + (m - 0xDC00))) (readText rest')
            else none
        | _ => none
      else consText (Char.ofNat n) (readText rest)
  | '\\' :: c :: rest =>
    match unescape? c with
    | some d => consText d (readText rest)
    | none => none
  | c :: rest => if c.toNat < 0x20 ∨ c = '\\' then none else consText c (readText rest)

/-! ## Numbers -/

/-- The digits of a whole part: a zero alone, or digits without a leading zero. -/
def readWhole (cs : List Char) : Option (List Char × List Char) :=
  match cs with
  | '0' :: rest => some (['0'], rest)
  | _ =>
    let (digits, rest) := Number.Binary64.spanDigits cs
    if digits.isEmpty then none else some (digits, rest)

/-- The digits after a point, if there is one. -/
def readFraction (cs : List Char) : Option (Option (List Char) × List Char) :=
  match cs with
  | '.' :: more =>
    let (digits, rest) := Number.Binary64.spanDigits more
    if digits.isEmpty then none else some (some digits, rest)
  | _ => some (none, cs)

/-- The exponent, if there is one. -/
def readPower (cs : List Char) : Option (Option Int × List Char) :=
  match cs with
  | e :: more =>
    if e = 'e' ∨ e = 'E' then
      let (sign, more) :=
        match more with
        | '-' :: m => (['-'], m)
        | '+' :: m => ([], m)
        | m => ([], m)
      let (digits, rest) := Number.Binary64.spanDigits more
      (Number.integer? (sign ++ digits)).map fun n => (some n, rest)
    else some (none, cs)
  | [] => some (none, cs)

/-- The value of the digits from the front that fit in a word of 64 bits after those that gave `n`,
    and the digits left over. -/
def takeWord (n : Nat) : List Char → Nat × List Char
  | [] => (n, [])
  | c :: cs =>
    let next := n * 10 + Number.digitValue c
    if next ≤ Number.maxUnsigned then takeWord next cs else (n, c :: cs)

/-- The value of a number that is not whole or not in range, from its leading digits; digits left
    over in the whole part still count as places. `none` beyond all finite numbers. -/
def realOf? (negative : Bool) (whole fraction : List Char) (power : Int) : Option Json :=
  let (value, places) := takeWord 0 whole
  let (value, dropped) := takeWord value fraction
  let shift : Int := places.length - (fraction.length - dropped.length)
  (Number.Binary64.inSteps? negative value (power + shift)).map Json.real

/-- The value of a number's parts; `none` beyond all finite numbers. -/
def ofParts? (negative : Bool) (whole : List Char) (fraction : Option (List Char))
    (power : Option Int) : Option Json :=
  let n : Int := Number.foldDigits 0 whole
  let n := if negative then -n else n
  let exact := fraction.isNone && power.isNone && !(negative && n == 0)
    && Number.minSigned ≤ n && n ≤ Number.maxUnsigned
  if exact then some (.integer n) else realOf? negative whole (fraction.getD []) (power.getD 0)

/-- A number. -/
def readNumber (cs : List Char) : Option (Json × List Char) := do
  let (negative, cs) := match cs with
    | '-' :: rest => (true, rest)
    | _ => (false, cs)
  let (whole, cs) ← readWhole cs
  let (fraction, cs) ← readFraction cs
  let (power, cs) ← readPower cs
  let value ← ofParts? negative whole fraction power
  return (value, cs)

/-! ## Values -/

/-- Items with commas between them up to a closing character; at most `count` of them. -/
def readItems {α : Type} (item : List Char → Option (α × List Char)) (close : Char) :
    Nat → List Char → Option (List α × List Char)
  | 0, _ => none
  | count + 1, cs => do
    let (first, cs) ← item cs
    match skipSpaces cs with
    | c :: rest =>
      if c = close then return ([first], rest)
      else if c = ',' then
        let (more, rest) ← readItems item close count rest
        return (first :: more, rest)
      else none
    | [] => none

/-- No items, or items with commas between them, up to a closing character. -/
def readAll {α : Type} (item : List Char → Option (α × List Char)) (close : Char) (cs : List Char) :
    Option (List α × List Char) :=
  match skipSpaces cs with
  | c :: rest => if c = close then some ([], rest) else readItems item close (rest.length + 1) cs
  | [] => none

/-- A member of an object, given the reader of its value. -/
def readMember (value : List Char → Option (Json × List Char)) (cs : List Char) :
    Option ((String × Json) × List Char) := do
  let cs ← expect '"' cs
  let (name, cs) ← readText cs
  let cs ← expect ':' cs
  let (v, cs) ← value cs
  return ((String.ofList name, v), cs)

/-- A value, nested at most so deep. -/
def readValue (depth : Nat) (cs : List Char) : Option (Json × List Char) :=
  match skipSpaces cs with
  | [] => none
  | c :: rest =>
    if c = '"' then (readText rest).map fun (s, rest) => (.text (String.ofList s), rest)
    else if c = '[' then
      match depth with
      | 0 => none
      | depth + 1 =>
        (readAll (readValue depth) ']' rest).map fun (items, rest) => (.list items, rest)
    else if c = Char.ofNat 0x7B then
      match depth with
      | 0 => none
      | depth + 1 =>
        (readAll (readMember (readValue depth)) (Char.ofNat 0x7D) rest).map fun (members, rest) =>
          (.object (members.foldl (fun all m => insertMember all m.1 m.2) []), rest)
    else if c = '-' || c.isDigit then readNumber (c :: rest)
    else
      match Text.dropMark? ['t', 'r', 'u', 'e'] (c :: rest) with
      | some rest => some (.bool true, rest)
      | none =>
        match Text.dropMark? ['f', 'a', 'l', 's', 'e'] (c :: rest) with
        | some rest => some (.bool false, rest)
        | none =>
          (Text.dropMark? ['n', 'u', 'l', 'l'] (c :: rest)).map fun rest => (.null, rest)

/-- The value of a document. -/
def parse? (s : String) : Option Json := do
  let (value, rest) ← readValue maxDepth s.toList
  if (skipSpaces rest).isEmpty then return value else none

end RobotClient.Json
