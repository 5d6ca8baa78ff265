import RobotClient.Logging.Directive
import RobotClient.Text.Split

set_option autoImplicit false

/-! # Log filters

A filter is a list of directives, and the most specific one that is for an event decides whether it
passes: the one with the longest target, and of these the one with the most fields. An event that no
directive is for does not pass. -/

namespace RobotClient

/-- Directives, the most specific first. -/
structure LogFilter where
  directives : List Directive := []
deriving DecidableEq, Repr, Inhabited

namespace LogFilter

/-! ## Order -/

/-- How specific a directive is by its target and by the number of its fields. -/
def weight (d : Directive) : Nat × Nat :=
  ((d.target.map fun t => t.utf8ByteSize + 1).getD 0, d.fields.length)

/-- Whether a directive comes before another one. Where both are as specific, the names of the
    fields decide. -/
def precedes (d e : Directive) : Bool :=
  let (target, fields) := weight d
  let (target', fields') := weight e
  target' < target
    || target = target' && (fields' < fields || fields = fields' && e.fields < d.fields)

/-- Directives with one more, which takes the place of one for the same events. -/
def insert (d : Directive) : List Directive → List Directive
  | [] => [d]
  | e :: rest =>
    if d.target = e.target ∧ d.fields = e.fields then d :: rest
    else if precedes d e then d :: e :: rest
    else e :: insert d rest

/-- A filter with one more directive. No event is inside of a span here, so a directive for spans
    has no effect. -/
def add (f : LogFilter) (d : Directive) : LogFilter :=
  if d.inSpans then f else ⟨insert d f.directives⟩

/-- The filter of some directives; of two for the same events the later one counts. -/
def ofDirectives (directives : List Directive) : LogFilter := directives.foldl add {}

/-! ## Reading -/

/-- The texts between the commas of a list of directives; empty ones do not count. -/
def directiveTexts (s : String) : List String := (Text.splitAll ',' s).filter (· ≠ "")

/-- The filter that a text writes. -/
def parse (s : String) : Except DirectiveError LogFilter :=
  ((directiveTexts s).mapM Directive.parse).map ofDirectives

/-- The directives that a text writes, with the texts that cannot be read. -/
def readLenient (s : String) : List Directive × List (String × DirectiveError) :=
  (directiveTexts s).foldr
    (fun text (read, unread) =>
      match Directive.parse text with
      | .ok d => (d :: read, unread)
      | .error e => (read, (text, e) :: unread))
    ([], [])

/-- The filter that a text writes, less what cannot be read. Without any directive, errors pass. -/
def parseLenient (s : String) : LogFilter × List (String × DirectiveError) :=
  let (read, unread) := readLenient s
  let errorsOnly : Directive := { target := none, threshold := some .error }
  (ofDirectives (if read.isEmpty then [errorsOnly] else read), unread)

/-! ## Filtering -/

/-- Whether a directive is for an event. -/
def concerns (d : Directive) (event : LogRecord) : Bool :=
  d.target.all (fun t => t.toList.isPrefixOf event.target.toList)
    && d.fields.all fun name => name = "message" || event.fields.any (·.1 = name)

/-- Whether an event passes. -/
def allows (f : LogFilter) (event : LogRecord) : Bool :=
  (f.directives.find? (concerns · event)).any (·.threshold.allows event.level)

end LogFilter
end RobotClient
