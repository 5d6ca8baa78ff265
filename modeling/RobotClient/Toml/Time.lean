import RobotClient.Json.Basic

set_option autoImplicit false

/-! # Times in TOML

A date, a time of day, or both, with an offset from universal time. A time is read as its text in
one fixed form.

A document has two ways to give a time: as a word, or as a table whose first key is a reserved one
with the time as its text. Here a word is read as such a table, and all of them are replaced when
the document is complete, so that the two ways differ only in what they accept. -/

namespace RobotClient.Toml

/-! ## Dates and times of day -/

/-- The number of so many digits at the front. -/
def fixedNumber? (count : Nat) (cs : List Char) : Option (Nat × List Char) :=
  let ds := cs.take count
  if ds.length = count ∧ ds.all Char.isDigit then
    some (Number.foldDigits 0 ds, cs.drop count)
  else none

/-- The input after a character that must come first. -/
def after? (c : Char) : List Char → Option (List Char)
  | d :: rest => if d = c then some rest else none
  | [] => none

/-- A number with zeros in front of it. -/
def padded (count n : Nat) : List Char :=
  let ds := Nat.toDigits 10 n
  List.replicate (count - ds.length) '0' ++ ds

/-- The days of a month. -/
def daysOf (year month : Nat) : Nat :=
  if month = 2 then
    if year % 4 = 0 && (year % 100 != 0 || year % 400 = 0) then 29 else 28
  else if month = 4 || month = 6 || month = 9 || month = 11 then 30
  else 31

/-- A date at the front, as its text. -/
def date? (cs : List Char) : Option (List Char × List Char) := do
  let (year, cs) ← fixedNumber? 4 cs
  let cs ← after? '-' cs
  let (month, cs) ← fixedNumber? 2 cs
  let cs ← after? '-' cs
  let (day, cs) ← fixedNumber? 2 cs
  if 1 ≤ month ∧ month ≤ 12 ∧ 1 ≤ day ∧ day ≤ daysOf year month then
    return (padded 4 year ++ '-' :: padded 2 month ++ '-' :: padded 2 day, cs)
  else none

/-- The text of a fraction of a second: nine digits at most, no zeros at the end, and nothing at all
    for a fraction of zero. -/
def fractionText (ds : List Char) : List Char :=
  let kept := ((ds.take 9).reverse.dropWhile (· == '0')).reverse
  if kept.isEmpty then [] else '.' :: kept

/-- A time of day at the front, as its text. -/
def timeOfDay? (cs : List Char) : Option (List Char × List Char) := do
  let (hour, cs) ← fixedNumber? 2 cs
  let cs ← after? ':' cs
  let (minute, cs) ← fixedNumber? 2 cs
  let cs ← after? ':' cs
  let (second, cs) ← fixedNumber? 2 cs
  if 24 ≤ hour ∨ 60 ≤ minute ∨ 61 ≤ second then none
  let clock := padded 2 hour ++ ':' :: padded 2 minute ++ ':' :: padded 2 second
  match cs with
  | '.' :: rest =>
    let (ds, rest) := rest.span Char.isDigit
    if ds.isEmpty then none else return (clock ++ fractionText ds, rest)
  | _ => return (clock, cs)

/-- An offset from universal time, as its text; the whole rest must be one. -/
def offset? : List Char → Option (List Char)
  | [] => some []
  | ['Z'] | ['z'] => some ['Z']
  | sign :: cs => do
    if sign ≠ '+' ∧ sign ≠ '-' then none
    let (hour, cs) ← fixedNumber? 2 cs
    let cs ← after? ':' cs
    let (minute, cs) ← fixedNumber? 2 cs
    if cs ≠ [] ∨ 24 ≤ hour ∨ 60 ≤ minute then none
    let sign := if hour = 0 ∧ minute = 0 then '+' else sign
    return sign :: padded 2 hour ++ ':' :: padded 2 minute

/-- A time of day with an optional offset. -/
def offsetTime? (cs : List Char) : Option (List Char) := do
  let (clock, rest) ← timeOfDay? cs
  return clock ++ (← offset? rest)

/-- Whether a character parts a date from a time. -/
def isTimeMark (c : Char) : Bool := c = 'T' || c = 't' || c = ' '

/-- A date, a time of day without an offset, or a date and a time in one word, as its text. -/
def moment? (cs : List Char) : Option (List Char) :=
  match date? cs with
  | some (date, []) => some date
  | some (date, mark :: rest) =>
    if isTimeMark mark then (offsetTime? rest).map fun time => date ++ 'T' :: time else none
  | none =>
    match timeOfDay? cs with
    | some (time, []) => some time
    | _ => none

/-! ## Times in quotes -/

/-- An offset in minutes, from a day before to a day after, as its text; the whole rest must be
    one. -/
def minutesOffset? : List Char → Option (List Char)
  | [] => some []
  | ['Z'] | ['z'] => some ['Z']
  | sign :: cs => do
    if sign ≠ '+' ∧ sign ≠ '-' then none
    let (hour, cs) ← fixedNumber? 2 cs
    let cs ← after? ':' cs
    let (minute, cs) ← fixedNumber? 2 cs
    let minutes := hour * 60 + minute
    if cs ≠ [] ∨ 24 * 60 < minutes then none
    let sign := if minutes = 0 then '+' else sign
    return sign :: padded 2 (minutes / 60) ++ ':' :: padded 2 (minutes % 60)

/-- A time as it may be written in quotes, as its text. Unlike a word, a date alone may have an
    offset, and an offset may be any number of minutes within a day. -/
def quotedMoment? (cs : List Char) : Option (List Char) :=
  if cs[2]? = some ':' then
    match timeOfDay? cs with
    | some (time, []) => some time
    | _ => none
  else do
    let (date, rest) ← date? cs
    match rest with
    | [] => return date
    | mark :: more =>
      if isTimeMark mark then
        let (time, rest) ← timeOfDay? more
        return date ++ 'T' :: time ++ (← minutesOffset? rest)
      else return date ++ (← minutesOffset? rest)

/-! ## Times as tables -/

/-- The key of a table that stands for a time. -/
def momentKey : String := "$__toml_private_datetime"

/-- The table that stands for a time. -/
def momentTable (time : List Char) : Json := .object [(momentKey, .text (String.ofList time))]

/-- The time that a value under the reserved key gives. -/
def momentOf? : Json → Option Json
  | .text s => (quotedMoment? s.toList).map fun time => .text (String.ofList time)
  | _ => none

mutual

/-- A value with the tables in it that stand for times replaced by their texts; `none` if one holds
    no time. -/
def settle : Json → Option Json
  | .list items => (settleItems items).map .list
  | .object ((key, value) :: rest) =>
    if key = momentKey then momentOf? value
    else do
      let value ← settle value
      let rest ← settleMembers rest
      return .object ((key, value) :: rest)
  | value => some value

/-- The items of a list, each settled. -/
def settleItems : List Json → Option (List Json)
  | [] => some []
  | item :: rest => do
    let item ← settle item
    let rest ← settleItems rest
    return item :: rest

/-- The members of a table behind its first one, each settled. -/
def settleMembers : List (String × Json) → Option (List (String × Json))
  | [] => some []
  | (key, value) :: rest => do
    let value ← settle value
    let rest ← settleMembers rest
    return (key, value) :: rest

end

end RobotClient.Toml
