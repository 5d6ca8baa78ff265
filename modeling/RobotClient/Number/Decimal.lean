set_option autoImplicit false

/-! # Whole numbers in decimal

A written number is an optional sign and one or more ASCII digits, leading zeros allowed. It is
refused when it lies outside the word that is to hold it. -/

namespace RobotClient.Number

/-! ## Bounds -/

/-- The largest unsigned word of 64 bits. -/
def maxUnsigned : Nat := 18446744073709551615

/-- The largest signed word of 64 bits. -/
def maxSigned : Int := 9223372036854775807

/-- The smallest signed word of 64 bits. -/
def minSigned : Int := -9223372036854775808

/-- A number as a signed word, if it fits. -/
def signed? (n : Int) : Option Int64 :=
  if minSigned ≤ n ∧ n ≤ maxSigned then some (Int64.ofInt n) else none

/-- A number as an unsigned word, if it fits. -/
def unsigned? (n : Int) : Option UInt64 :=
  if 0 ≤ n ∧ n ≤ maxUnsigned then some (UInt64.ofNat n.toNat) else none

/-! ## Digits -/

/-- The value of a digit. -/
def digitValue (c : Char) : Nat := c.toNat - 48

/-- The value of digits that continue a number. -/
def foldDigits (value : Nat) (digits : List Char) : Nat :=
  digits.foldl (fun value c => value * 10 + digitValue c) value

/-- The value of one or more digits. -/
def natural? (cs : List Char) : Option Nat :=
  if cs.isEmpty || !cs.all Char.isDigit then none else some (foldDigits 0 cs)

/-- The value of digits after an optional plus. -/
def plusNatural? : List Char → Option Nat
  | '+' :: cs => natural? cs
  | cs => natural? cs

/-- The value of digits after an optional sign. -/
def integer? : List Char → Option Int
  | '-' :: cs => (natural? cs).map fun n => -(n : Int)
  | cs => (plusNatural? cs).map fun n => (n : Int)

/-- The unsigned word that a text writes. -/
def readUnsigned? (s : String) : Option UInt64 :=
  (plusNatural? s.toList).bind fun n => unsigned? n

/-- The signed word that a text writes. -/
def readSigned? (s : String) : Option Int64 := (integer? s.toList).bind signed?

/-! ## Laws -/

theorem foldDigits_append (v : Nat) (xs ys : List Char) :
    foldDigits v (xs ++ ys) = foldDigits (foldDigits v xs) ys := List.foldl_append

end RobotClient.Number
