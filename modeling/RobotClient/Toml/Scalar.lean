import RobotClient.Text.Split
import RobotClient.Toml.Time

set_option autoImplicit false

/-! # Reading TOML numbers, truth values and times

Each is a word without blanks, but for a blank that may stand between a date and a time. -/

namespace RobotClient.Toml

open Number (Binary64)

/-! ## Digits -/

/-- Digits with single underscores between them, without the underscores. -/
def digits? (isDigit : Char → Bool) (cs : List Char) : Option (List Char) :=
  let parts := Text.pieces '_' cs
  if parts.all fun part => !part.isEmpty && part.all isDigit then some parts.flatten else none

/-- Decimal digits. -/
def decimal? (cs : List Char) : Option (List Char) := digits? Char.isDigit cs

/-- Decimal digits without a leading zero, unless it is alone. -/
def whole? (cs : List Char) : Option (List Char) :=
  (decimal? cs).bind fun ds =>
    match ds with
    | '0' :: _ :: _ => none
    | _ => some ds

/-- The value of digits to a base. -/
def valueInBase (base : Nat) (ds : List Char) : Nat :=
  ds.foldl (fun n c => n * base +
    if c.isDigit then c.toNat - 48 else if c.isLower then c.toNat - 87 else c.toNat - 55) 0

/-- Whether a character is a digit to base 16. -/
def isHexDigit (c : Char) : Bool :=
  c.isDigit || ('a' ≤ c && c ≤ 'f') || ('A' ≤ c && c ≤ 'F')

/-! ## Numbers -/

/-- A sign and what follows it. -/
def splitSign : List Char → Bool × List Char
  | '-' :: rest => (true, rest)
  | '+' :: rest => (false, rest)
  | cs => (false, cs)

/-- A whole number that fits a signed word. -/
def fitting? (n : Int) : Option Json := (Number.signed? n).map fun _ => .integer n

/-- A whole number: decimal with an optional sign, or to base 16, 8 or 2 without one. -/
def integer? (cs : List Char) : Option Json :=
  match cs with
  | '0' :: 'x' :: rest => (digits? isHexDigit rest).bind fun ds => fitting? (valueInBase 16 ds)
  | '0' :: 'o' :: rest =>
    (digits? (fun c => '0' ≤ c && c ≤ '7') rest).bind fun ds => fitting? (valueInBase 8 ds)
  | '0' :: 'b' :: rest =>
    (digits? (fun c => c == '0' || c == '1') rest).bind fun ds => fitting? (valueInBase 2 ds)
  | _ =>
    let (negative, rest) := splitSign cs
    (whole? rest).bind fun ds =>
      let n : Int := Number.foldDigits 0 ds
      fitting? (if negative then -n else n)

/-- The exponent after its mark. -/
def exponent? (cs : List Char) : Option Int :=
  let (negative, rest) := splitSign cs
  (decimal? rest).map fun ds =>
    let n : Int := Number.foldDigits 0 ds
    if negative then -n else n

/-- The part before an exponent, and the exponent if there is one. -/
def splitExponent (cs : List Char) : List Char × Option (List Char) :=
  let front := cs.takeWhile fun c => c != 'e' && c != 'E'
  match cs.drop front.length with
  | [] => (front, none)
  | _ :: power => (front, some power)

/-- A number with a fraction or an exponent. One above all finite numbers is none; one below them is
    the negative infinity. -/
def real? (cs : List Char) : Option Json := do
  let (negative, rest) := splitSign cs
  if rest = ['i', 'n', 'f'] then return .real (.infinite negative)
  if rest = ['n', 'a', 'n'] then return .real .nan
  let (front, power) := splitExponent rest
  let (wholePart, fraction) ←
    match Text.splitAtMark? ['.'] front with
    | some (w, f) => (decimal? f).map fun ds => (w, ds)
    | none => if power.isNone then none else some (front, [])
  let ds ← whole? wholePart
  let exponent ←
    match power with
    | some p => exponent? p
    | none => some 0
  let x := Binary64.ofDecimal negative (ds ++ fraction) (exponent - fraction.length)
  if x = .infinite false then none else return .real x

/-! ## Words -/

/-- A character of a word. -/
def isWordChar (c : Char) : Bool :=
  c.isAlphanum || c == '+' || c == '-' || c == '_' || c == '.' || c == ':'

/-- The value of a word. -/
def word? (cs : List Char) : Option Json :=
  if cs = ['t', 'r', 'u', 'e'] then some (.bool true)
  else if cs = ['f', 'a', 'l', 's', 'e'] then some (.bool false)
  else
    ((moment? cs).map momentTable).orElse fun _ => (integer? cs).orElse fun _ => real? cs

/-- A value that is a word, or a date and a time with a blank between them. -/
def readScalar (cs : List Char) : Option (Json × List Char) :=
  let (word, rest) := cs.span isWordChar
  let joined : Option (Json × List Char) :=
    match date? word, rest with
    | some (_, []), ' ' :: more =>
      let (time, rest) := more.span isWordChar
      (moment? (word ++ ' ' :: time)).map fun text => (momentTable text, rest)
    | _, _ => none
  joined.orElse fun _ => (word? word).map fun value => (value, rest)

end RobotClient.Toml
