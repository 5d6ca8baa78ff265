import RobotClient.Arguments.Basic
import RobotClient.Json.Record
import RobotClient.Signal

set_option autoImplicit false

/-! # Contexts

A context is uninitialized, then initialized, then shut down, and never goes back. While it is
initialized it is bound to a session. Callbacks that wait for its shutdown are kept in order; what a
callback is does not matter here. -/

namespace RobotClient

/-! ## Life cycle -/

/-- What an initialized context is bound to. -/
structure Session where
  domainId : UInt64
  arguments : Arguments
  handlers : HandlerOptions
  /-- Whether the context holds the process's signal handlers. -/
  ownsHandlers : Bool
  /-- The time of the initialization. -/
  initializedAt : String
deriving DecidableEq, Repr, Inhabited

/-- Where a context is in its life. -/
inductive Phase where
  | uninitialized
  | initialized (session : Session)
  | shutdown
deriving DecidableEq, Repr, Inhabited

/-- The session of an initialized context. -/
def Phase.session? : Phase → Option Session
  | .initialized s => some s
  | _ => none

/-- The three states that others see. -/
inductive Lifecycle where
  | uninitialized
  | initialized
  | shutdown
deriving DecidableEq, Repr, Inhabited

namespace Lifecycle

/-- The name of a state. -/
def name : Lifecycle → String
  | .uninitialized => "uninitialized"
  | .initialized => "initialized"
  | .shutdown => "shutdown"

/-- A state as it is shown on one line. -/
def display : Lifecycle → String
  | .uninitialized => "Uninitialized"
  | .initialized => "Initialized"
  | .shutdown => "Shutdown"

/-- The states, in order. -/
def values : List Lifecycle := [.uninitialized, .initialized, .shutdown]

/-- The state of a name. -/
def ofName? (name : String) : Option Lifecycle := values.find? (·.name = name)

theorem ofName?_name (s : Lifecycle) : ofName? s.name = some s := by
  cases s <;> decide

end Lifecycle

/-- The state that others see. -/
def Phase.lifecycle : Phase → Lifecycle
  | .uninitialized => .uninitialized
  | .initialized _ => .initialized
  | .shutdown => .shutdown

/-- A context with the callbacks that wait for its shutdown. -/
structure Context (κ : Type) where
  id : Nat
  phase : Phase := .uninitialized
  callbacks : List κ := []
deriving DecidableEq, Repr, Inhabited

/-- The name of a context in messages. -/
def contextName (id : Nat) : String := s!"ctx-{id}"

/-! ## Status -/

/-- A context as it can be shown and sent. -/
structure Status where
  id : UInt64
  state : Lifecycle
  domainId : Option UInt64 := none
  handlers : Option HandlerOptions := none
  ownsHandlers : Bool := false
  initializedAt : Option String := none
deriving DecidableEq, Repr, Inhabited

namespace Status

/-- The status of a context. -/
def ofPhase (id : Nat) : Phase → Status
  | .initialized s => {
      id := UInt64.ofNat id
      state := .initialized
      domainId := some s.domainId
      handlers := some s.handlers
      ownsHandlers := s.ownsHandlers
      initializedAt := some s.initializedAt }
  | phase => { id := UInt64.ofNat id, state := phase.lifecycle }

/-- A status in JSON; what there is no value for is left out. -/
def toJson (s : Status) : Json :=
  .object ([("id", .integer s.id.toNat), ("state", .text s.state.name)]
    ++ Json.present "domain_id" (fun id : UInt64 => .integer id.toNat) s.domainId
    ++ Json.present "signal_handler_options" (fun o => .text o.name) s.handlers
    ++ [("owns_signal_handlers", .bool s.ownsHandlers)]
    ++ Json.present "initialized_at" .text s.initializedAt)

/-- The status that JSON gives. -/
def ofJson? (value : Json) : Option Status := do
  let r ← Json.Record.of? 6 value
  return {
    id := ← r.required 0 "id" Json.unsigned?
    state := ← r.required 1 "state" (Json.variant? Lifecycle.ofName?)
    domainId := ← r.optional 2 "domain_id" Json.unsigned?
    handlers := ← r.optional 3 "signal_handler_options" (Json.variant? HandlerOptions.ofName?)
    ownsHandlers := ← r.required 4 "owns_signal_handlers" Json.bool?
    initializedAt := ← r.optional 5 "initialized_at" Json.text? }

end Status
end RobotClient
