import RobotClient.Arguments.Reader
import RobotClient.Context.Event
import RobotClient.Context.Options
import RobotClient.Node.Basic

set_option autoImplicit false

/-! # The hub

The hub is what all contexts of a process share: the contexts themselves, the slot of the default
one, the registry of the live ones, and the one table of signal handlers. Every operation here is a
single step; an operation that can fail checks everything before it changes anything. Callbacks are
only kept and handed out; running them is the business of `Machine`. -/

namespace RobotClient

/-! ## Signal handlers -/

/-- What the system does with a signal. -/
inductive Disposition where
  /-- The library's handler records the signal. -/
  | library
  /-- A handler of the host program, known by a number. -/
  | host (label : Nat)
deriving DecidableEq, Repr, Inhabited

/-- What the system does with each signal. -/
structure Dispositions where
  interrupt : Disposition := .host 0
  terminate : Disposition := .host 0
deriving DecidableEq, Repr, Inhabited

namespace Dispositions

/-- What the system does with a signal. -/
def get (d : Dispositions) : Signal → Disposition
  | .interrupt => d.interrupt
  | .terminate => d.terminate

/-- Changes what the system does with a signal. -/
def set (d : Dispositions) (signal : Signal) (disposition : Disposition) : Dispositions :=
  match signal with
  | .interrupt => { d with interrupt := disposition }
  | .terminate => { d with terminate := disposition }

@[simp] theorem get_set_self (d : Dispositions) (s : Signal) (x : Disposition) :
    (d.set s x).get s = x := by
  cases s <;> rfl

theorem get_set_of_ne (d : Dispositions) {s t : Signal} (x : Disposition) (h : t ≠ s) :
    (d.set s x).get t = d.get t := by
  cases s <;> cases t <;> first | rfl | exact absurd rfl h

end Dispositions

/-- The installed handlers: who owns them, which signals they cover, and what was there before. -/
structure HandlerTable where
  owner : Nat
  options : HandlerOptions
  previous : List (Signal × Disposition)
deriving DecidableEq, Repr, Inhabited

/-! ## State -/

/-- What all contexts of a process share. -/
structure Hub (κ : Type) where
  /-- The time, as the host tells it. -/
  clock : String := ""
  /-- The number of the next context. The counter has 64 bits; as it starts at one and only grows by
      one, no run gets near its end, and the numbers are taken as unbounded. -/
  nextId : Nat := 1
  /-- The contexts that are not freed, the oldest first. -/
  contexts : List (Context κ) := []
  /-- The default context. -/
  slot : Option Nat := none
  /-- The contexts that were initialized, in this order; it may name freed ones. -/
  live : List Nat := []
  table : Option HandlerTable := none
  dispositions : Dispositions := {}
  /-- A caught signal that nobody dealt with. -/
  pending : Option Signal := none
  /-- The last signal that was dealt with under the current owner. -/
  delivered : Option Signal := none
  /-- Whether caught signals are watched for. -/
  watching : Bool := false
  /-- The signals that reached the host's handlers, with the handler. -/
  received : List (Signal × Nat) := []
  log : List Event := []
deriving Inhabited

namespace Hub

variable {κ : Type}

/-! ## Looking -/

/-- The context of an id, unless it is freed. -/
def find? (p : Hub κ) (id : Nat) : Option (Context κ) := p.contexts.find? (·.id = id)

/-- Where a context is in its life; a freed one counts as shut down. -/
def phase (p : Hub κ) (id : Nat) : Phase := ((p.find? id).map (·.phase)).getD .shutdown

/-- The state that others see. -/
def lifecycle (p : Hub κ) (id : Nat) : Lifecycle := (p.phase id).lifecycle

/-- The session of an initialized context. -/
def session? (p : Hub κ) (id : Nat) : Option Session := (p.phase id).session?

/-- Whether a context is initialized. -/
def isInitialized (p : Hub κ) (id : Nat) : Bool := (p.session? id).isSome

/-- Whether a context is the default one. -/
def isDefault (p : Hub κ) (id : Nat) : Bool := p.slot = some id

/-- Whether the default context is initialized. -/
def defaultIsInitialized (p : Hub κ) : Bool := (p.slot.map p.isInitialized).getD false

/-- The status of a context. -/
def status (p : Hub κ) (id : Nat) : Status := Status.ofPhase id (p.phase id)

/-- The owner of the signal handlers. -/
def owner? (p : Hub κ) : Option Nat := p.table.map (·.owner)

/-- The signals handled at the moment. -/
def handlers (p : Hub κ) : HandlerOptions := (p.table.map (·.options)).getD .no

/-- The live contexts that are not freed. -/
def liveContexts (p : Hub κ) : List Nat := p.live.filter fun id => (p.find? id).isSome

/-- The number of a context's domain. -/
def domainId (p : Hub κ) (id : Nat) : Except ClientError UInt64 :=
  match p.session? id with
  | some s => .ok s.domainId
  | none => .error .notInitialized

/-- What a context's arguments said. -/
def arguments (p : Hub κ) (id : Nat) : Except ClientError Arguments :=
  match p.session? id with
  | some s => .ok s.arguments
  | none => .error .notInitialized

/-! ## Small changes -/

/-- Adds an event to the log. -/
def emit (p : Hub κ) (event : Event) : Hub κ := { p with log := p.log ++ [event] }

/-- Changes the first context of an id. -/
def modifyFirst (id : Nat) (change : Context κ → Context κ) : List (Context κ) → List (Context κ)
  | [] => []
  | c :: rest => if c.id = id then change c :: rest else c :: modifyFirst id change rest

/-- Changes the context of an id. -/
def modify (p : Hub κ) (id : Nat) (change : Context κ → Context κ) : Hub κ :=
  { p with contexts := modifyFirst id change p.contexts }

/-- Moves a context to a phase. -/
def setPhase (p : Hub κ) (id : Nat) (phase : Phase) : Hub κ :=
  p.modify id fun c => { c with phase }

/-- Adds a context to the registry, which forgets the freed ones. -/
def register (p : Hub κ) (id : Nat) : Hub κ := { p with live := p.liveContexts ++ [id] }

/-- Takes a context out of the registry, which forgets the freed ones. -/
def unregister (p : Hub κ) (id : Nat) : Hub κ :=
  { p with live := p.liveContexts.filter (· ≠ id) }

/-- A fresh context. -/
def create (p : Hub κ) : Nat × Hub κ :=
  (p.nextId, { p with nextId := p.nextId + 1, contexts := p.contexts ++ [{ id := p.nextId }] })

/-! ## Handlers -/

/-- Starts watching for caught signals, once in a process. -/
def watch (p : Hub κ) : Hub κ :=
  if p.watching then p else { p with watching := true }.emit .watcherStarted

/-- Puts the library's handler in for some signals. -/
def catchSignals (d : Dispositions) (signals : List Signal) : Dispositions :=
  signals.foldl (fun d s => d.set s .library) d

/-- Puts back what was there before, the last one first. -/
def restoreSignals (d : Dispositions) (previous : List (Signal × Disposition)) : Dispositions :=
  previous.reverse.foldl (fun d entry => d.set entry.1 entry.2) d

/-- Installs handlers for a context, unless none are asked for or another context owns them. The
    outcome tells whether the context owns them now. A new owner inherits no caught signal. -/
def install (p : Hub κ) (id : Nat) (options : HandlerOptions) : Bool × Hub κ :=
  if options = .no then (false, p)
  else
    let p := p.watch
    match p.table with
    | some current => (false, p.emit (.handlersTaken id current.owner current.options))
    | none =>
      let previous := options.signals.map fun s => (s, p.dispositions.get s)
      (true, { p with
        table := some ⟨id, options, previous⟩
        dispositions := catchSignals p.dispositions options.signals
        pending := none
        delivered := none }.emit (.handlersInstalled id options))

/-- Takes the handlers out again if a context owns them. -/
def uninstall (p : Hub κ) (id : Nat) : Hub κ :=
  match p.table with
  | none => p
  | some current =>
    if current.owner = id then
      { p with
        table := none
        dispositions := restoreSignals p.dispositions current.previous
        pending := none }.emit (.handlersUninstalled id)
    else p

/-! ## Initialization -/

/-- What an initialization binds, found before anything changes. -/
def prepare (p : Hub κ) (id : Nat) (o : InitOptions) : Except ClientError (Arguments × UInt64) := do
  match p.phase id with
  | .uninitialized => pure ()
  | _ => throw .alreadyInitialized
  let arguments ← Arguments.ofRaw o.args
  let domainId ← resolveDomain o.domainId o.domain o.source
  return (arguments, domainId)

/-- The handlers that an initialization asks for. -/
def requestedHandlers (p : Hub κ) (id : Nat) (o : InitOptions) : HandlerOptions :=
  o.handlers.getD (if p.isDefault id then .all else .no)

/-- Binds a context to a session. -/
def openSession (p : Hub κ) (id : Nat) (options : HandlerOptions) (arguments : Arguments)
    (domainId : UInt64) : Hub κ :=
  let (ownsHandlers, p) := p.install id options
  let session : Session := ⟨domainId, arguments, options, ownsHandlers, p.clock⟩
  ((p.setPhase id (.initialized session)).register id).emit (.initialized id session)

/-- Initializes a context. -/
def init (p : Hub κ) (id : Nat) (o : InitOptions) : Except ClientError (Hub κ) :=
  (p.prepare id o).map fun (arguments, domainId) =>
    p.openSession id (p.requestedHandlers id o) arguments domainId

/-! ## The default context -/

/-- The default context; a fresh one if there is none or it is shut down. -/
def defaultContext (p : Hub κ) : Nat × Hub κ :=
  match p.slot with
  | some id => if p.lifecycle id = .shutdown then fresh p else (id, p)
  | none => fresh p
where
  /-- A fresh context in the slot. -/
  fresh (p : Hub κ) : Nat × Hub κ :=
    let (id, p) := p.create
    (id, { p with slot := some id }.emit (.defaultCreated id))

/-- Empties the slot if it holds a context. -/
def releaseDefault (p : Hub κ) (id : Nat) : Hub κ :=
  if p.slot = some id then { p with slot := none } else p

/-! ## Shutdown -/

/-- Shuts a context down as far as its callbacks, which the outcome holds. -/
def beginShutdown (p : Hub κ) (id : Nat) : Except ClientError (List κ × Hub κ) :=
  match p.session? id with
  | none => .error .notInitialized
  | some session =>
    let p := if session.ownsHandlers then p.uninstall id else p
    let p := (p.setPhase id .shutdown).unregister id
    let callbacks := ((p.find? id).map (·.callbacks)).getD []
    .ok (callbacks, (p.modify id fun c => { c with callbacks := [] }).emit
      (.runningCallbacks id callbacks.length))

/-- Ends a shutdown whose callbacks have run. -/
def finishShutdown (p : Hub κ) (id : Nat) : Hub κ := p.emit (.shutDown id)

/-- Keeps a callback for a context's shutdown. If that is over, the callback has to run at once. -/
def onShutdown (p : Hub κ) (id : Nat) (callback : κ) : Option κ × Hub κ :=
  match p.phase id with
  | .shutdown => (some callback, p)
  | _ => (none, p.modify id fun c => { c with callbacks := c.callbacks ++ [callback] })

/-- Frees a context that nobody holds. -/
def free (p : Hub κ) (id : Nat) : Hub κ :=
  let q :=
    match p.session? id with
    | none => p
    | some session =>
      let p := p.emit (.droppedInitialized id)
      if session.ownsHandlers then p.uninstall id else p
  { q with contexts := q.contexts.filter (·.id ≠ id) }

/-! ## Nodes -/

/-- A node of a context. -/
def createNode (p : Hub κ) (id : Nat) (name ns : String) : Except ClientError (Node × Hub κ) :=
  (p.arguments id).bind fun arguments =>
    (Node.make id arguments name ns).map fun node =>
      (node, p.emit (.nodeCreated id node.name node.namespaceText))

/-! ## Signals -/

/-- Both signals go to a handler of the host program from now on. -/
def handOver (p : Hub κ) (label : Nat) : Hub κ :=
  { p with dispositions := ⟨.host label, .host label⟩ }

/-- The last signal that reached a handler of the host program. -/
def lastReceived (p : Hub κ) (label : Nat) : Option Signal :=
  ((p.received.filter (·.2 = label)).getLast?).map Prod.fst

/-- The system hands a signal to the process. -/
def deliver (p : Hub κ) (signal : Signal) : Hub κ :=
  match p.dispositions.get signal with
  | .library => { p with pending := some signal }
  | .host label => { p with received := p.received ++ [(signal, label)] }

/-- Notes that a signal has been dealt with. -/
def noteDelivered (p : Hub κ) (signal : Signal) : Hub κ := { p with delivered := some signal }

end Hub
end RobotClient
