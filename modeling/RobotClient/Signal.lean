import RobotClient.Text.Lowercase

set_option autoImplicit false

/-! # Termination signals

The two signals that end a client, and the choices of which of them a context handles. -/

namespace RobotClient

/-- A signal that asks the process to end. -/
inductive Signal where
  | interrupt
  | terminate
deriving DecidableEq, Repr, Inhabited

/-- The name of a signal. -/
def Signal.name : Signal → String
  | .interrupt => "SIGINT"
  | .terminate => "SIGTERM"

/-- The signal of a name. -/
def Signal.ofName? (name : String) : Option Signal :=
  if name = "SIGINT" then some .interrupt
  else if name = "SIGTERM" then some .terminate
  else none

/-- Which signals a context installs handlers for. -/
inductive HandlerOptions where
  | all
  | no
  | interrupt
  | terminate
deriving DecidableEq, Repr, Inhabited

namespace HandlerOptions

/-- The signals covered, in the order in which their handlers are installed. -/
def signals : HandlerOptions → List Signal
  | .all => [.interrupt, .terminate]
  | .no => []
  | .interrupt => [.interrupt]
  | .terminate => [.terminate]

/-- The name of a choice. -/
def name : HandlerOptions → String
  | .all => "all"
  | .no => "no"
  | .interrupt => "sigint"
  | .terminate => "sigterm"

/-- The choices, in order. -/
def values : List HandlerOptions := [.all, .no, .interrupt, .terminate]

/-- The choice of exactly this name. -/
def ofName? (name : String) : Option HandlerOptions := values.find? (·.name = name)

theorem ofName?_name (o : HandlerOptions) : ofName? o.name = some o := by
  cases o <;> decide

/-- The choice that a text asks for in any case, `none` being another word for no handlers; else the
    complaint. -/
def ofText (text : String) : Except String HandlerOptions :=
  let folded := Text.asciiLower text
  if folded = "none" then .ok .no
  else match ofName? folded with
    | some options => .ok options
    | none => .error ("Invalid signal handler option: " ++ folded ++
        " (must be 'all', 'no', 'sigint' or 'sigterm')")

end HandlerOptions
end RobotClient
