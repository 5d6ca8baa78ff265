import RobotClient.Json.Reader
import RobotClient.Text.Alphanumeric

set_option autoImplicit false

/-! # Patterns

The value of a field in a log directive may be a pattern: a regular expression. It is never matched
here, because no event is inside of a span, but a directive counts only if its patterns can be
compiled.

A value never holds a closing brace, so whatever needs one cannot be complete. There are no tables
of characters by property or of pairs of cases, so whatever needs those cannot be compiled
either. -/

namespace RobotClient

/-- Why a text is no pattern. -/
inductive PatternError where
  | unreadable
  /-- It is well formed, but asks for the edges of words of all scripts. -/
  | wordEdge
deriving DecidableEq, Repr, Inhabited

/-- The wording of an error. -/
def PatternError.message : PatternError → String
  | .unreadable => "error building NFA"
  | .wordEdge =>
    "unsupported regex feature for DFAs: cannot build DFAs for regexes with Unicode word "
      ++ "boundaries; switch to ASCII word boundaries, or heuristically enable Unicode word "
      ++ "boundaries or use a different regex engine"

namespace Pattern

/-- How the characters of a pattern are taken. -/
structure Flags where
  caseless : Bool := false
  /-- Whether characters are those of all scripts, and not only of ASCII. -/
  allScripts : Bool := true
deriving DecidableEq, Repr, Inhabited

/-- Whether a character cannot stand for its other case as well. -/
def Flags.needCases (flags : Flags) : Bool := flags.caseless && flags.allScripts

/-- Whether a character may be asked for. -/
def Flags.admits (flags : Flags) (c : Char) : Bool := flags.allScripts || c.toNat < 0x80

/-- The flags with one of them set; most of them make no difference here. -/
def Flags.set (flags : Flags) (letter : Char) (value : Bool) : Flags :=
  if letter = 'i' then { flags with caseless := value }
  else if letter = 'u' then { flags with allScripts := value }
  else flags

/-! ## Escapes -/

/-- What an escape stands for. -/
inductive Escaped where
  | char (c : Char)
  | characters
  /-- A place between characters; `wordEdge` if it depends on what words are. -/
  | place (wordEdge : Bool)
deriving DecidableEq, Repr

/-- The character of so many hexadecimal digits at the front. -/
def hexChar? (count : Nat) (cs : List Char) : Option (Escaped × List Char) := do
  let digits ← (cs.take count).mapM Json.hexValue?
  let n := digits.foldl (fun n d => n * 16 + d) 0
  if digits.length = count ∧ n.isValidChar then
    return (.char (Char.ofNat n), cs.drop count)
  else none

/-- The control characters that have a letter. -/
def controls : List (Char × Nat) :=
  [('a', 7), ('t', 9), ('n', 10), ('v', 11), ('f', 12), ('r', 13)]

/-- What stands behind a backslash. -/
def readEscape? (flags : Flags) : List Char → Option (Escaped × List Char)
  | [] => none
  | c :: rest =>
    let hex (count : Nat) : Option (Escaped × List Char) :=
      (hexChar? count rest).filter fun
        | (.char c, _) => flags.admits c
        | _ => true
    if c = 'x' then hex 2
    else if c = 'u' then hex 4
    else if c = 'U' then hex 8
    else if ['d', 's', 'w'].contains c then
      if flags.allScripts then none else some (.characters, rest)
    else if c = 'A' ∨ c = 'z' then some (.place false, rest)
    else if ['b', 'B', '<', '>'].contains c then some (.place flags.allScripts, rest)
    else
      match controls.lookup c with
      | some n => some (.char (Char.ofNat n), rest)
      | none => if c.toNat < 0x80 ∧ !c.isAlphanum then some (.char c, rest) else none

/-! ## Classes of characters -/

/-- The names of classes of ASCII characters. -/
def classNames : List String :=
  ["alnum", "alpha", "ascii", "blank", "cntrl", "digit", "graph", "lower", "print", "punct",
    "space", "upper", "word", "xdigit"]

/-- A negation, if there is one, with what follows it. -/
def splitNegation : List Char → Bool × List Char
  | '^' :: cs => (true, cs)
  | cs => (false, cs)

/-- Whether a named class is negated, and the input after it, its opening bracket being read. -/
def readNamed? : List Char → Option (Bool × List Char)
  | ':' :: cs =>
    let (negated, cs) := splitNegation cs
    let (name, rest) := cs.span (· ≠ ':')
    match rest with
    | ':' :: ']' :: rest =>
      if classNames.contains (String.ofList name) then some (negated, rest) else none
    | _ => none
  | _ => none

/-- The input after what a class may start with: a negation, and dashes or a bracket that stand for
    themselves. What is no ASCII character cannot be asked for by a negation. -/
def classStart? (flags : Flags) (cs : List Char) : Option (List Char) :=
  let (negated, cs) := splitNegation cs
  if negated && !flags.allScripts then none
  else
    match cs with
    | '-' :: rest => some (rest.dropWhile (· = '-'))
    | ']' :: rest => some rest
    | _ => some cs

/-- A member of a class: its character, if it is a single one. -/
def readMember? (flags : Flags) : List Char → Option (Option Char × List Char)
  | [] => none
  | '\\' :: cs =>
    match readEscape? flags cs with
    | some (.char c, rest) => some (some c, rest)
    | some (.characters, rest) => some (none, rest)
    | _ => none
  | c :: cs => if flags.admits c then some (some c, cs) else none

/-- The input after a member of a class or a range of them. -/
def readRange? (flags : Flags) (cs : List Char) : Option (List Char) := do
  let (first, rest) ← readMember? flags cs
  match rest with
  | '-' :: ']' :: _ | '-' :: '-' :: _ => return rest
  | '-' :: more =>
    let (last, rest) ← readMember? flags more
    if (← first) ≤ (← last) then return rest else none
  | _ => return rest

/-- The input after a class that is open, with `depth` classes open around it; at most `count`
    pieces. -/
def readClass? (flags : Flags) : Nat → Nat → List Char → Option (List Char)
  | 0, _, _ => none
  | _ + 1, _, [] => none
  | count + 1, depth, '[' :: cs =>
    match readNamed? cs with
    | some (negated, rest) =>
      if negated && !flags.allScripts then none else readClass? flags count depth rest
    | none => (classStart? flags cs).bind (readClass? flags count (depth + 1))
  | count + 1, depth, ']' :: cs =>
    match depth with
    | 0 => some cs
    | depth + 1 => readClass? flags count depth cs
  | count + 1, depth, '&' :: '&' :: cs | count + 1, depth, '-' :: '-' :: cs
  | count + 1, depth, '~' :: '~' :: cs => readClass? flags count depth cs
  | count + 1, depth, cs => (readRange? flags cs).bind (readClass? flags count depth)

/-! ## Groups -/

/-- Letters and dashes for flags up to the character behind them, which comes with the rest; `seen`
    holds what was read of them, latest first. -/
def readFlags? (flags : Flags) (seen : List Char) :
    List Char → Option (Flags × List Char × Char × List Char)
  | [] => none
  | c :: cs =>
    if c = ':' ∨ c = ')' then
      if seen.head? = some '-' then none else some (flags, seen, c, cs)
    else if seen.contains c then none
    else if c = '-' then readFlags? flags (c :: seen) cs
    else if ['i', 'm', 's', 'U', 'u', 'R', 'x'].contains c then
      readFlags? (flags.set c !(seen.contains '-')) (c :: seen) cs
    else none

/-- The name of a group up to its bracket. -/
def readName? (cs : List Char) : Option (String × List Char) := do
  let (name, rest) := cs.span (· ≠ '>')
  let first ← name.head?
  let starts := first = '_' || Text.isAlphanumeric first && !first.isDigit
  let goesOn (c : Char) : Bool := ['_', '.', '[', ']'].contains c || Text.isAlphanumeric c
  match rest with
  | _ :: rest => if starts && name.all goesOn then return (String.ofList name, rest) else none
  | [] => none

/-! ## Patterns -/

/-- What is known in the middle of a pattern. -/
structure Scan where
  flags : Flags := {}
  /-- The flags around each open group, the innermost first. -/
  outer : List Flags := []
  /-- The names of the groups so far. -/
  names : List String := []
  /-- Whether there is something that can be repeated. -/
  repeatable : Bool := false
  /-- Whether the edges of words of all scripts are asked for. -/
  wordEdge : Bool := false
deriving Repr, Inhabited

namespace Scan

/-- After something that can be repeated. -/
def item (s : Scan) : Scan := { s with repeatable := true }

/-- Inside of a new group. -/
def enter (s : Scan) (flags : Flags) : Scan :=
  { s with flags, outer := s.flags :: s.outer, repeatable := false }

/-- Inside of a new group with a name. -/
def enterNamed? (s : Scan) (cs : List Char) : Option (Scan × List Char) := do
  let (name, rest) ← readName? cs
  if s.names.contains name then none
  else return ({ s with names := name :: s.names }.enter s.flags, rest)

/-- After an opening parenthesis. -/
def openGroup? (s : Scan) : List Char → Option (Scan × List Char)
  | '?' :: '<' :: cs | '?' :: 'P' :: '<' :: cs => s.enterNamed? cs
  | '?' :: cs => do
    let (flags, seen, c, rest) ← readFlags? s.flags [] cs
    if c = ':' then return (s.enter flags, rest)
    else if seen.isEmpty then none
    else return ({ s with flags, repeatable := false }, rest)
  | cs => some (s.enter s.flags, cs)

/-- After a character and what belongs to it. -/
def next? (s : Scan) (c : Char) (cs : List Char) : Option (Scan × List Char) :=
  if c = '(' then s.openGroup? cs
  else if c = ')' then
    match s.outer with
    | flags :: outer => some ({ s with flags, outer }.item, cs)
    | [] => none
  else if c = '|' then some ({ s with repeatable := false }, cs)
  else if c = '?' ∨ c = '*' ∨ c = '+' then
    if s.repeatable then some (s, if cs.head? = some '?' then cs.tail else cs) else none
  else if c = Char.ofNat 0x7B then none
  else if c = '[' then
    if s.flags.needCases then none
    else
      (classStart? s.flags cs).bind fun inside =>
        (readClass? s.flags (inside.length + 1) 0 inside).map (s.item, ·)
  else if c = '\\' then
    match readEscape? s.flags cs with
    | some (.place wordEdge, rest) =>
      some ({ s with wordEdge := s.wordEdge || wordEdge }.item, rest)
    | some (_, rest) => if s.flags.needCases then none else some (s.item, rest)
    | none => none
  else if c = '.' then if s.flags.allScripts then some (s.item, cs) else none
  else if c = '^' ∨ c = '$' then some (s.item, cs)
  else if s.flags.needCases || !s.flags.admits c then none
  else some (s.item, cs)

end Scan

/-- Checks the rest of a pattern, at most `count` pieces of it. -/
def checkFrom : Nat → Scan → List Char → Except PatternError Unit
  | 0, _, _ => .error .unreadable
  | _ + 1, s, [] =>
    if !s.outer.isEmpty then .error .unreadable
    else if s.wordEdge then .error .wordEdge
    else .ok ()
  | count + 1, s, c :: cs =>
    match s.next? c cs with
    | some (s, rest) => checkFrom count s rest
    | none => .error .unreadable

/-- Whether a text is a pattern, and why not. -/
def check (cs : List Char) : Except PatternError Unit := checkFrom (cs.length + 1) {} cs

end Pattern
end RobotClient
