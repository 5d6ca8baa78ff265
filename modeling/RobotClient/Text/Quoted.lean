import RobotClient.Text.Printable
import RobotClient.Text.Utf8

set_option autoImplicit false

/-! # Quoted text

Messages show values between quotes, so that their ends and their invisible characters can be seen.
Text stands between double quotes and escapes only these, a single character stands between single
quotes and escapes only these, and octets that need not be text escape both. -/

namespace RobotClient.Text

/-! ## Hexadecimal numbers -/

/-- The digits of a number to base 16, small letters. -/
def hexDigits (n : Nat) : List Char := Nat.toDigits 16 n

/-- An octet as two capital hexadecimal digits. -/
def hexOctet (octet : UInt8) : List Char :=
  (Nat.toDigits 16 (octet.toNat / 16) ++ Nat.toDigits 16 (octet.toNat % 16)).map Char.toUpper

/-! ## Escapes -/

/-- A character by its number. -/
def escapeByNumber (c : Char) : List Char :=
  ['\\', 'u', Char.ofNat 0x7B] ++ hexDigits c.toNat ++ [Char.ofNat 0x7D]

/-- How a character is written between quotes, where `marks` are the quotes that need a
    backslash. -/
def escapeChar (marks : List Char) (c : Char) : List Char :=
  if c = Char.ofNat 0 then ['\\', '0']
  else if c = '\t' then ['\\', 't']
  else if c = '\r' then ['\\', 'r']
  else if c = '\n' then ['\\', 'n']
  else if c = '\\' ∨ c ∈ marks then ['\\', c]
  else if extendsGrapheme c then escapeByNumber c
  else if isPrintable c then [c]
  else escapeByNumber c

/-- A text between double quotes. -/
def quoted (s : String) : String :=
  String.ofList ('"' :: s.toList.flatMap (escapeChar ['"']) ++ ['"'])

/-- A character between single quotes. -/
def quotedChar (c : Char) : String :=
  String.ofList ('\'' :: escapeChar ['\''] c ++ ['\''])

/-- A text between double quotes with the quotes of both kinds escaped. -/
def quotedPath (s : String) : String :=
  String.ofList ('"' :: s.toList.flatMap (escapeChar ['"', '\'']) ++ ['"'])

/-- A text between backticks. -/
def ticked (s : String) : String := String.ofList (Char.ofNat 0x60 :: s.toList ++ [Char.ofNat 0x60])

/-! ## Octets -/

/-- The octets of a spoiled sequence, each by its number. -/
def escapeOctets (octets : List UInt8) : List Char :=
  octets.flatMap fun octet => ['\\', 'x'] ++ hexOctet octet

/-- The octets between quotes from a decoding state, where `held` are the octets of the open
    sequence, latest first. -/
def escapeFrom (held : List UInt8) (open? : Option Utf8.Pending) : List UInt8 → List Char
  | [] => escapeOctets held.reverse
  | octet :: rest =>
    match open?.bind (·.continue? octet) with
    | some p =>
      if p.ranges.isEmpty then
        escapeChar ['"', '\''] (Char.ofNat p.bits) ++ escapeFrom [] none rest
      else escapeFrom (octet :: held) (some p) rest
    | none =>
      escapeOctets held.reverse ++
        match Utf8.opening octet with
        | none => escapeOctets [octet] ++ escapeFrom [] none rest
        | some p =>
          if p.ranges.isEmpty then
            escapeChar ['"', '\''] (Char.ofNat p.bits) ++ escapeFrom [] none rest
          else escapeFrom [octet] (some p) rest

/-- Octets between double quotes: as text where they are text, by number elsewhere. -/
def quotedOctets (octets : List UInt8) : String :=
  String.ofList ('"' :: escapeFrom [] none octets ++ ['"'])

end RobotClient.Text
