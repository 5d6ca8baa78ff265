import RobotClient.Logging.Pattern
import RobotClient.Logging.Record
import RobotClient.Text.Blank
import RobotClient.Text.Lowercase
import RobotClient.Text.Utf8

set_option autoImplicit false

/-! # Log directives

A directive says how much of a log passes: `target=level`, where either half may be missing. A level
alone is for all targets, a target alone lets everything of it pass. Behind the target a span or
fields may stand in brackets.

A directive is read character by character without the blanks around it, and its parts are cut out
of the text by the positions of these characters. The positions are those in the text without
blanks, but the text that is cut has them: blanks in front move all parts to the left. -/

namespace RobotClient

/-! ## Thresholds -/

/-- How much passes: the events up to a level, or none. -/
abbrev Threshold := Option LogLevel

/-- Whether an event of a level passes. -/
def Threshold.allows (threshold : Threshold) (level : LogLevel) : Bool :=
  threshold.any fun most => level.rank ≤ most.rank

/-- The thresholds with their names, by number. -/
def Threshold.names : List (String × Threshold) :=
  [("off", none), ("error", some .error), ("warn", some .warn), ("info", some .info),
    ("debug", some .debug), ("trace", some .trace)]

/-- The threshold of a number, or of a name in any case. -/
def Threshold.ofText? (s : String) : Option Threshold :=
  match (Number.plusNatural? s.toList).bind fun n => names[n]? with
  | some (_, threshold) => some threshold
  | none => names.lookup (Text.asciiLower s)

/-! ## Directives -/

/-- How much of a part of a log passes. -/
structure Directive where
  /-- The start of the targets that it is for; all targets if there is none. -/
  target : Option String
  /-- The fields that an event must have. -/
  fields : List String := []
  /-- Whether it is only for events inside of some spans. -/
  inSpans : Bool := false
  threshold : Threshold
deriving DecidableEq, Repr, Inhabited

/-- Why a directive cannot be read. -/
inductive DirectiveError where
  | malformed
  | unknownLevel
  | badPattern (error : PatternError)
  /-- A part would start or end inside of a character. -/
  | insideCharacter
deriving DecidableEq, Repr, Inhabited

/-- The wording of an error. -/
def DirectiveError.message : DirectiveError → String
  | .malformed => "invalid filter directive"
  | .unknownLevel =>
    "error parsing level filter: expected one of \"off\", \"error\", \"warn\", \"info\", "
      ++ "\"debug\", \"trace\", or a number 0-5"
  | .badPattern e => "invalid field filter: " ++ e.message
  | .insideCharacter => "a part ends inside of a character"

namespace Directive

/-! ## Parts -/

/-- The character that opens a list of fields. -/
def openBrace : Char := Char.ofNat 0x7B

/-- The character that closes a list of fields. -/
def closeBrace : Char := Char.ofNat 0x7D

/-- A character that a directive can start with, brackets aside. -/
def startsTarget (c : Char) : Bool := c = '-' || c = ':' || c = '_' || Text.isAlphanumeric c

/-- Whether a position is between two characters, as it is unless an octet is next that goes on with
    a character. -/
def isBoundary (octets : List UInt8) (position : Nat) : Bool :=
  octets[position]?.all fun octet => octet &&& 0xC0 ≠ 0x80

/-- The octets between two positions, as text. -/
def cut (octets : List UInt8) (start stop : Nat) : Except DirectiveError String :=
  if isBoundary octets start && isBoundary octets stop then
    (Text.Utf8.decode ((octets.drop start).take (stop - start))).mapError fun _ => .insideCharacter
  else .error .insideCharacter

/-- The level that a part writes; everything passes if it is empty. -/
def readLevel (part : String) : Except DirectiveError Threshold :=
  if part = "" then .ok (some .trace)
  else
    match Threshold.ofText? part with
    | some threshold => .ok threshold
    | none => .error .unknownLevel

/-- Whether a value of a field is a truth value or a number, and no pattern. -/
def isPlainValue (cs : List Char) : Bool :=
  cs = ['t', 'r', 'u', 'e'] || cs = ['f', 'a', 'l', 's', 'e'] || (Number.Binary64.read? cs).isSome

/-- A field in a list of fields: its name, and whether a value is asked for. What stands behind a
    second equality sign does not count. -/
def readField (part : String) : Except DirectiveError (String × Bool) :=
  if part = "" then .error .malformed
  else
    match Text.pieces '=' part.toList with
    | name :: value :: _ =>
      if isPlainValue value then .ok (String.ofList name, true)
      else ((Pattern.check value).mapError .badPattern).map fun _ => (String.ofList name, true)
    | _ => .ok (part, false)

/-! ## Reading -/

/-- Where the reading of a directive stands; `start` is where the open part started. -/
inductive Place where
  | start
  | levelOrTarget (start : Nat)
  | span (start : Nat)
  /-- Between fields. -/
  | fields
  | field (start : Nat)
  /-- Behind the bracket that closes a span. -/
  | behindSpan
  | level (start : Nat)
  | complete
deriving DecidableEq, Repr

/-- A directive as far as it is read. -/
structure Draft where
  place : Place := .start
  target : Option String := none
  span : Option String := none
  fields : List (String × Bool) := []
  threshold : Threshold := some .trace

/-- A draft with a part that is a level, or else a target of which everything passes. -/
def Draft.withLevelOrTarget (d : Draft) (part : String) : Draft :=
  match Threshold.ofText? part with
  | some threshold => { d with target := none, threshold }
  | none =>
    { d with target := if part = "" then none else some part, threshold := some .trace }

/-- A draft after the next character, which stands at position `i`. -/
def Draft.next (octets : List UInt8) (i : Nat) (c : Char) (d : Draft) :
    Except DirectiveError Draft :=
  match d.place with
  | .start =>
    if c = '[' then .ok { d with place := .span (i + 1) }
    else if startsTarget c then .ok { d with place := .levelOrTarget i }
    else .error .malformed
  | .levelOrTarget start =>
    if c = '=' then return { d with target := ← cut octets start i, place := .level (i + 1) }
    else if c = '[' then return { d with target := ← cut octets start i, place := .span (i + 1) }
    else if c = ',' then
      return { d.withLevelOrTarget (← cut octets start octets.length) with place := .complete }
    else .ok d
  | .span start =>
    if c = ']' then return { d with span := ← cut octets start i, place := .behindSpan }
    else if c = openBrace then do
      let span ← cut octets start i
      return { d with span := if span = "" then none else some span, place := .fields }
    else .ok d
  | .fields => .ok { d with place := if c = ']' then .behindSpan else .field i }
  | .field start =>
    if c = closeBrace ∨ c = ',' then do
      let field ← readField (← cut octets start i)
      return { d with
        fields := d.fields ++ [field]
        place := if c = ',' then .field (i + 1) else .fields }
    else .ok d
  | .behindSpan => if c = '=' then .ok { d with place := .level (i + 1) } else .error .malformed
  | .level start =>
    if c = ',' then
      return { d with threshold := ← readLevel (← cut octets start i), place := .complete }
    else .ok d
  | .complete => .error .malformed

/-- A draft after all characters, the first of which stands at position `i`. -/
def Draft.readAll (octets : List UInt8) : Nat → List Char → Draft → Except DirectiveError Draft
  | _, [], d => .ok d
  | i, c :: cs, d => do readAll octets (i + c.utf8Size) cs (← d.next octets i c)

/-- A draft at the end of the text. The part that is open goes on to the end of what is cut. -/
def Draft.finish (octets : List UInt8) (d : Draft) : Except DirectiveError Draft :=
  match d.place with
  | .levelOrTarget start => return d.withLevelOrTarget (← cut octets start octets.length)
  | .level start => return { d with threshold := ← readLevel (← cut octets start octets.length) }
  | .behindSpan | .complete => .ok d
  | _ => .error .malformed

/-- The directive that a text writes. -/
def parse (s : String) : Except DirectiveError Directive := do
  let octets := Text.Utf8.encode s
  let d ← Draft.readAll octets 0 (Text.trimBlanks s.toList) {}
  let d ← d.finish octets
  return {
    target := d.target
    fields := d.fields.map (·.1)
    inSpans := d.span.isSome || d.fields.any (·.2)
    threshold := d.threshold }

end Directive
end RobotClient
