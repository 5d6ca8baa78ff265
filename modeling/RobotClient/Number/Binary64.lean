import RobotClient.Number.Decimal

set_option autoImplicit false

/-! # Binary floating-point numbers

Numbers of 64 bits as exact values: a sign, a whole number and a power of two. Reading a decimal
gives the nearest of them, the even one of two equally near. -/

namespace RobotClient.Number

/-- A floating-point number of 64 bits. A finite one is `mantissa * 2 ^ exponent`. -/
inductive Binary64 where
  | nan
  | infinite (negative : Bool)
  | finite (negative : Bool) (mantissa : Nat) (exponent : Int)
deriving DecidableEq, Repr, Inhabited

namespace Binary64

/-- The smallest exponent of a finite number. -/
def minExponent : Int := -1074

/-- The largest exponent of a finite number. -/
def maxExponent : Int := 971

/-- One more than the largest mantissa. -/
def mantissaLimit : Nat := Nat.pow 2 53

/-! ## Rounding -/

/-- The whole number nearest to a quotient, the even one of two equally near. -/
def divideToEven (num den : Nat) : Nat :=
  let q := num / den
  let twice := 2 * (num % den)
  if twice < den then q
  else if den < twice then q + 1
  else if q % 2 = 0 then q else q + 1

/-- `num / den * 2 ^ (-exponent)`, as a numerator and a denominator. -/
def scale (num den : Nat) (exponent : Int) : Nat × Nat :=
  if exponent < 0 then (num * Nat.pow 2 (-exponent).toNat, den)
  else (num, den * Nat.pow 2 exponent.toNat)

/-- The exponent at which a quotient has 53 binary digits, or the smallest one. -/
def exponentFor (num den : Nat) : Int :=
  let guess : Int := max minExponent ((num.log2 : Int) - (den.log2 : Int) - 53)
  let (n, d) := scale num den guess
  if n / d < mantissaLimit then guess else guess + 1

/-- The number nearest to a quotient. -/
def ofQuotient (negative : Bool) (num den : Nat) : Binary64 :=
  if num = 0 then .finite negative 0 minExponent
  else
    let exponent := exponentFor num den
    let (n, d) := scale num den exponent
    let mantissa := divideToEven n d
    let (mantissa, exponent) :=
      if mantissa = mantissaLimit then (mantissa / 2, exponent + 1) else (mantissa, exponent)
    if maxExponent < exponent then .infinite negative else .finite negative mantissa exponent

/-- The number nearest to `digits * 10 ^ power`. Powers far outside the range are not computed. -/
def ofDecimal (negative : Bool) (digits : List Char) (power : Int) : Binary64 :=
  let value := foldDigits 0 digits
  let size : Int := digits.length + power
  if value = 0 then .finite negative 0 minExponent
  else if 400 < size - (digits.takeWhile (· == '0')).length then .infinite negative
  else if size < -400 then .finite negative 0 minExponent
  else if power < 0 then ofQuotient negative value (Nat.pow 10 (-power).toNat)
  else ofQuotient negative (value * Nat.pow 10 power.toNat) 1

/-! ## Parts -/

/-- Whether a number is zero, of either sign. -/
def isZero : Binary64 → Bool
  | .finite _ 0 _ => true
  | _ => false

/-- Whether a number is neither infinite nor undefined. -/
def isFinite : Binary64 → Bool
  | .finite .. => true
  | _ => false

/-- The nearest whole number, a half going away from zero; the bounds stand for the infinities and
    for numbers outside them, and zero for an undefined number. -/
def roundWithin (lo hi : Int) : Binary64 → Int
  | .nan => 0
  | .infinite negative => if negative then lo else hi
  | .finite negative mantissa exponent =>
    let unit := Nat.pow 2 exponent.natAbs
    let size : Int :=
      if exponent < 0 then ((2 * mantissa + unit) / (2 * unit) : Nat) else (mantissa * unit : Nat)
    max lo (min hi (if negative then -size else size))

/-! ## Arithmetic -/

/-- The number nearest to `num / den * 2 ^ exponent`. -/
def ofScaled (negative : Bool) (num den : Nat) (exponent : Int) : Binary64 :=
  let (n, d) := scale num den (-exponent)
  ofQuotient negative n d

/-- The number nearest to a whole number. -/
def ofNat (n : Nat) : Binary64 := ofQuotient false n 1

/-- The number nearest to a power of ten. -/
def tenTo (power : Nat) : Binary64 := ofQuotient false (Nat.pow 10 power) 1

/-- The rounded product of two positive numbers. -/
def times : Binary64 → Binary64 → Binary64
  | .finite _ m e, .finite _ n f => ofScaled false (m * n) 1 (e + f)
  | .nan, _ | _, .nan => .nan
  | _, _ => .infinite false

/-- The rounded quotient of two positive numbers, the second one finite. -/
def dividedBy : Binary64 → Binary64 → Binary64
  | .finite _ m e, .finite _ n f => ofScaled false m n (e - f)
  | .infinite _, .finite .. => .infinite false
  | _, _ => .nan

/-- The number with its sign reversed if so asked. -/
def signed (negative : Bool) : Binary64 → Binary64
  | .nan => .nan
  | .infinite sign => .infinite (sign != negative)
  | .finite sign mantissa exponent => .finite (sign != negative) mantissa exponent

/-- `value * 10 ^ power` from a rounded value, a rounded power of ten and their rounded product or
    quotient; `none` beyond all finite numbers. It may miss the nearest number. A power below the
    least power of ten is divided by in two steps, and two of them leave nothing of a word. -/
def inSteps? (negative : Bool) (value : Nat) (power : Int) : Option Binary64 :=
  let x := ofNat value
  if value = 0 then some (.finite negative 0 minExponent)
  else if 308 < power then none
  else if 0 ≤ power then
    let y := x.times (tenTo power.toNat)
    if y.isFinite then some (y.signed negative) else none
  else if -308 ≤ power then some ((x.dividedBy (tenTo (-power).toNat)).signed negative)
  else if -616 ≤ power then
    some (((x.dividedBy (tenTo 308)).dividedBy (tenTo (-power - 308).toNat)).signed negative)
  else some (.finite negative 0 minExponent)

/-! ## Reading -/

/-- The digits at the front, and the rest. -/
def spanDigits (cs : List Char) : List Char × List Char := cs.span Char.isDigit

/-- The exponent after its mark: an optional sign and digits, with nothing behind them. -/
def readExponent? : List Char → Option Int
  | [] => some 0
  | e :: cs => if e = 'e' ∨ e = 'E' then integer? cs else none

/-- A number without its sign: digits, a point and digits, an exponent; one digit at least, and the
    point and the exponent may be missing. -/
def readMagnitude? (negative : Bool) (cs : List Char) : Option Binary64 :=
  let (whole, rest) := spanDigits cs
  let (fraction, rest) :=
    match rest with
    | '.' :: more => spanDigits more
    | _ => ([], rest)
  if whole.isEmpty && fraction.isEmpty then none
  else (readExponent? rest).map fun power =>
    ofDecimal negative (whole ++ fraction) (power - fraction.length)

/-- A number in any of its spellings, with an optional sign; the names of the special numbers may be
    written in any case. -/
def read? (cs : List Char) : Option Binary64 :=
  let (negative, cs) :=
    match cs with
    | '-' :: rest => (true, rest)
    | '+' :: rest => (false, rest)
    | _ => (false, cs)
  let name := String.ofList (cs.map Char.toLower)
  if name = "nan" then some .nan
  else if name = "inf" ∨ name = "infinity" then some (.infinite negative)
  else readMagnitude? negative cs

/-! ## Shortest decimal -/

/-- The two ends of the reals that read as `mantissa * 2 ^ exponent`, in quarters of its last
    digit. -/
def interval (mantissa : Nat) (exponent : Int) : Nat × Nat :=
  let below := if mantissa = Nat.pow 2 52 ∧ minExponent < exponent then 1 else 2
  (4 * mantissa - below, 4 * mantissa + 2)

/-- A multiple of `10 ^ power` that reads as `mantissa * 2 ^ exponent`, the nearest if there are
    several, the larger of two equally near. -/
def onGrid? (mantissa : Nat) (exponent power : Int) : Option Nat :=
  let (lo, hi) := interval mantissa exponent
  -- The value and the ends over a common denominator of quarters and tens.
  let (unit, grid) :=
    let (n, d) := scale 1 1 (-(exponent - 2))
    if power < 0 then (n * Nat.pow 10 (-power).toNat, d) else (n, d * Nat.pow 10 power.toNat)
  let value := 4 * mantissa * unit
  let inside (k : Nat) : Bool :=
    if mantissa % 2 = 0 then lo * unit ≤ k * grid && k * grid ≤ hi * unit
    else lo * unit < k * grid && k * grid < hi * unit
  let below := value / grid
  let belowOk := 0 < below && inside below
  let aboveOk := inside (below + 1)
  if belowOk && aboveOk then
    some (if value - below * grid < (below + 1) * grid - value then below else below + 1)
  else if belowOk then some below
  else if aboveOk then some (below + 1)
  else none

/-- The coarsest grid, from `power` downward, with a number that reads as the value. -/
def searchGrid (mantissa : Nat) (exponent : Int) : Nat → Int → Nat × Int
  | 0, power => (0, power)
  | steps + 1, power =>
    match onGrid? mantissa exponent power with
    | some digits => (digits, power)
    | none => searchGrid mantissa exponent steps (power - 1)

/-- Digits and a power of ten that read as the value, as few digits as there can be. -/
def shortest (mantissa : Nat) (exponent : Int) : Nat × Int := searchGrid mantissa exponent 700 310

/-- `digits * 10 ^ power` without an exponent. -/
def positional (digits : Nat) (power : Int) : List Char :=
  let ds := Nat.toDigits 10 digits
  if 0 ≤ power then ds ++ List.replicate power.toNat '0'
  else
    let places := (-power).toNat
    if places < ds.length then ds.take (ds.length - places) ++ '.' :: ds.drop (ds.length - places)
    else '0' :: '.' :: List.replicate (places - ds.length) '0' ++ ds

/-- The shortest text that reads back as the number, without an exponent. -/
def toText : Binary64 → String
  | .nan => "NaN"
  | .infinite negative => if negative then "-inf" else "inf"
  | .finite negative mantissa exponent =>
    let sign := if negative then ['-'] else []
    if mantissa = 0 then String.ofList (sign ++ ['0'])
    else
      let (digits, power) := shortest mantissa exponent
      String.ofList (sign ++ positional digits power)

/-- As `toText`, with a fraction even for a whole number. -/
def toPointText (x : Binary64) : String :=
  let text := x.toText
  if x.isFinite && !text.toList.contains '.' then text ++ ".0" else text

end Binary64
end RobotClient.Number
