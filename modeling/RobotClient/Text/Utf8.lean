set_option autoImplicit false

/-! # Octets as text

Command-line arguments and files arrive as octets. `decode` reads them as UTF-8 and names the first
place where they stop being so; `decodeLossy` puts a replacement character there and goes on. Both
walk the octets once, with the sequence that is open as their only state. -/

namespace RobotClient.Text.Utf8

/-! ## Sequences -/

/-- The rest of a started sequence: the bits read so far, the ranges that the octets to come must
    lie in, and how many octets have been read. -/
structure Pending where
  bits : Nat
  ranges : List (UInt8 × UInt8)
  seen : Nat
deriving DecidableEq, Repr

/-- The range of an octet that continues a sequence, unless its lead narrows it. -/
def continuation : UInt8 × UInt8 := (0x80, 0xBF)

/-- What a lead octet opens. The octet after some leads is narrowed, so that no character has a
    longer form than it needs, none is a surrogate and none lies beyond the last code point. -/
def opening (lead : UInt8) : Option Pending :=
  if lead < 0x80 then some ⟨lead.toNat, [], 1⟩
  else if lead < 0xC2 then none
  else if lead < 0xE0 then some ⟨lead.toNat - 0xC0, [continuation], 1⟩
  else if lead = 0xE0 then some ⟨0, [(0xA0, 0xBF), continuation], 1⟩
  else if lead = 0xED then some ⟨0xD, [(0x80, 0x9F), continuation], 1⟩
  else if lead < 0xF0 then some ⟨lead.toNat - 0xE0, [continuation, continuation], 1⟩
  else if lead = 0xF0 then some ⟨0, [(0x90, 0xBF), continuation, continuation], 1⟩
  else if lead < 0xF4 then some ⟨lead.toNat - 0xF0, [continuation, continuation, continuation], 1⟩
  else if lead = 0xF4 then some ⟨4, [(0x80, 0x8F), continuation, continuation], 1⟩
  else none

/-- What the next octet does to a started sequence; `none` if it does not belong to it. -/
def Pending.continue? (p : Pending) (octet : UInt8) : Option Pending :=
  match p.ranges with
  | [] => none
  | (lo, hi) :: rest =>
    if lo ≤ octet ∧ octet ≤ hi then some ⟨p.bits * 64 + (octet.toNat - 0x80), rest, p.seen + 1⟩
    else none

/-! ## Decoding -/

/-- Where octets stop being UTF-8: the length of the longest valid part in front, and how many
    octets of a sequence are spoiled there; `none` if the input ends inside a sequence. -/
structure Defect where
  validUpTo : Nat
  spoiled : Option Nat
deriving DecidableEq, Repr

/-- The wording of a defect. -/
def Defect.message (d : Defect) : String :=
  match d.spoiled with
  | some n => s!"invalid utf-8 sequence of {n} bytes from index {d.validUpTo}"
  | none => s!"incomplete utf-8 byte sequence from index {d.validUpTo}"

/-- Decode from a state: `start` octets have become characters, and `open?` is the sequence that the
    octets after them have started. -/
def decodeFrom (start : Nat) (open? : Option Pending) : List UInt8 → Except Defect (List Char)
  | [] =>
    match open? with
    | none => .ok []
    | some _ => .error ⟨start, none⟩
  | octet :: rest =>
    match open? with
    | none =>
      match opening octet with
      | none => .error ⟨start, some 1⟩
      | some p =>
        if p.ranges.isEmpty then
          (decodeFrom (start + p.seen) none rest).map (Char.ofNat p.bits :: ·)
        else decodeFrom start (some p) rest
    | some q =>
      match q.continue? octet with
      | none => .error ⟨start, some q.seen⟩
      | some p =>
        if p.ranges.isEmpty then
          (decodeFrom (start + p.seen) none rest).map (Char.ofNat p.bits :: ·)
        else decodeFrom start (some p) rest

/-- The characters that octets encode, or the first defect. -/
def decodeChars (octets : List UInt8) : Except Defect (List Char) := decodeFrom 0 none octets

/-- The text that octets encode, or the first defect. -/
def decode (octets : List UInt8) : Except Defect String := (decodeChars octets).map String.ofList

/-- The octets of a text. -/
def encode (s : String) : List UInt8 := s.toList.flatMap String.utf8EncodeChar

/-! ## Decoding with replacement -/

/-- The character that stands for a spoiled sequence. -/
def replacement : Char := Char.ofNat 0xFFFD

/-- The characters and the sequence left open after a lead octet. -/
def openWith (octet : UInt8) : List Char × Option Pending :=
  match opening octet with
  | none => ([replacement], none)
  | some p => if p.ranges.isEmpty then ([Char.ofNat p.bits], none) else ([], some p)

/-- Decode from a state, a replacement character standing for each spoiled sequence. -/
def decodeLossyFrom (open? : Option Pending) : List UInt8 → List Char
  | [] => if open?.isSome then [replacement] else []
  | octet :: rest =>
    match open? with
    | none =>
      let (chars, next) := openWith octet
      chars ++ decodeLossyFrom next rest
    | some q =>
      match q.continue? octet with
      | none =>
        let (chars, next) := openWith octet
        replacement :: chars ++ decodeLossyFrom next rest
      | some p =>
        if p.ranges.isEmpty then Char.ofNat p.bits :: decodeLossyFrom none rest
        else decodeLossyFrom (some p) rest

/-- The text of octets, with replacement characters where they are not UTF-8. -/
def decodeLossy (octets : List UInt8) : String := String.ofList (decodeLossyFrom none octets)

end RobotClient.Text.Utf8
