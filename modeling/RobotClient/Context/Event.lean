import RobotClient.Context.Basic
import RobotClient.Logging.Config
import RobotClient.Logging.Record

set_option autoImplicit false

/-! # Events of a process's contexts

Every change of a context or of the signal handlers leaves an event, and so does a run that waits. A
log sees it as a record. -/

namespace RobotClient

/-- What happened to the contexts of a process or to its signal handlers. -/
inductive Event where
  | defaultCreated (context : Nat)
  | initialized (context : Nat) (session : Session)
  | runningCallbacks (context count : Nat)
  | shutDown (context : Nat)
  | droppedInitialized (context : Nat)
  | nodeCreated (context : Nat) (name namespaceText : String)
  | watcherStarted
  | handlersInstalled (context : Nat) (options : HandlerOptions)
  | handlersTaken (requester owner : Nat) (options : HandlerOptions)
  | handlersUninstalled (context : Nat)
  | signalReceived (signal : Signal) (count : Nat)
  | signalForwarded (signal : Signal)
  | signalKept (signal : Signal)
  /-- A run waits for its end, for some seconds at most. -/
  | waiting (context : Nat) (timeout : Option UInt64)
deriving DecidableEq, Repr, Inhabited

namespace Event

/-- The part of the program that deals with contexts, as logs name it. -/
def contextTarget : String := "rclctx::context"

/-- The part of the program that deals with nodes, as logs name it. -/
def nodeTarget : String := "rclctx::node"

/-- The part of the program that deals with signals, as logs name it. -/
def signalTarget : String := "rclctx::signals"

/-- The part of the program that runs a context from a command line, as logs name it. -/
def runTarget : String := "rclctx::cli::route"

/-- A field that names a context. -/
def contextField (name : String) (id : Nat) : String × FieldValue := (name, .text (contextName id))

/-- An event as a log sees it. -/
def record : Event → LogRecord
  | .defaultCreated context =>
    ⟨.debug, contextTarget, "Created default context", [contextField "context" context]⟩
  | .initialized context s =>
    ⟨.info, contextTarget, "Context initialized",
      [contextField "context" context, ("domain_id", .integer s.domainId.toNat),
        ("signal_handlers", .text s.handlers.name), ("owns_signal_handlers", .flag s.ownsHandlers)]⟩
  | .runningCallbacks context count =>
    ⟨.debug, contextTarget, "Running shutdown callbacks",
      [contextField "context" context, ("callbacks", .integer count)]⟩
  | .shutDown context =>
    ⟨.info, contextTarget, "Context shut down", [contextField "context" context]⟩
  | .droppedInitialized context =>
    ⟨.warn, contextTarget, "Context dropped while initialized", [contextField "context" context]⟩
  | .nodeCreated context name ns =>
    ⟨.debug, nodeTarget, "Node created",
      [contextField "context" context, ("name", .text name), ("namespace", .text ns)]⟩
  | .watcherStarted => ⟨.debug, signalTarget, "Signal watcher started", []⟩
  | .handlersInstalled context options =>
    ⟨.info, signalTarget, "Signal handlers installed",
      [contextField "context" context, ("options", .text options.name)]⟩
  | .handlersTaken requester owner options =>
    ⟨.debug, signalTarget, "Signal handlers already installed, not installing again",
      [contextField "requested_by" requester, contextField "owner" owner,
        ("options", .text options.name)]⟩
  | .handlersUninstalled context =>
    ⟨.info, signalTarget, "Signal handlers uninstalled", [contextField "context" context]⟩
  | .signalReceived signal count =>
    ⟨.info, signalTarget, "Signal received, contexts shut down",
      [("signal", .text signal.name), ("contexts", .integer count)]⟩
  | .signalForwarded signal =>
    ⟨.debug, signalTarget, "Forwarding signal to previous disposition",
      [("signal", .text signal.name)]⟩
  | .signalKept signal =>
    ⟨.warn, signalTarget, "Signal handlers still installed, not forwarding",
      [("signal", .text signal.name)]⟩
  | .waiting context timeout =>
    ⟨.info, runTarget, "Waiting for shutdown signal",
      [contextField "context" context,
        ("timeout_secs", .text (LoggingConfig.optionText toString timeout))]⟩

end Event
end RobotClient
