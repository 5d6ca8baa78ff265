import RobotClient.Context.Op

set_option autoImplicit false

/-! # Running a client program

A shutdown runs callbacks, and these are programs again. The machine therefore keeps the work that
is going on as a stack of frames, the innermost first, and each step does one thing: it executes one
operation, starts one callback, or ends one frame. Between any two steps the hub is in a state that
a callback, or another thread, can see. -/

namespace RobotClient

/-! ## State -/

/-- What is left of a dispatch whose contexts are shut down. Nothing is locked in between, so the
    handlers can change hands before the next moment. -/
inductive Conclusion where
  /-- To look whether anybody owns the handlers. -/
  | check
  /-- To raise the signal again. -/
  | raise
  /-- To note the signal as dealt with, and to answer. -/
  | record
deriving DecidableEq, Repr, Inhabited

/-- Work that is going on. -/
inductive Frame where
  /-- A program, or a callback if it has a label, with the replies so far. -/
  | script (label : Option String) (rest : List Op) (replies : List Reply)
  /-- The callbacks of a shutdown that are still to run. -/
  | shutting (id : Nat) (callbacks : List Callback)
  /-- Empties the slot of the default context when the shutdown above is over. -/
  | releasing (id : Nat)
  /-- Answers the operation below. -/
  | returning (reply : Reply)
  /-- The contexts that a signal still has to shut down, and how many it has. The answer is the
      signal, or, if it was raised, what became of it: `before` is how many signals had reached the
      host. -/
  | dispatching (signal : Signal) (rest : List Nat) (count : Nat) (before : Option Nat)
  /-- The end of a dispatch, from `next` on. -/
  | concluding (next : Conclusion) (signal : Signal) (before : Option Nat)
  /-- The calls of a race that are still to be made, with the outcomes so far. -/
  | racing (target : Option Nat) (call : RacingCall) (rest : Nat) (replies : List Reply)
deriving Inhabited

/-- A hub with the program that uses it. -/
structure Machine where
  hub : Hub Callback := {}
  /-- The contexts that the program holds, by name. -/
  handles : List (String × Nat) := []
  /-- The nodes that the program holds, by name. -/
  nodes : List (String × Node) := []
  frames : List Frame := []
  /-- The callbacks that have run. -/
  finished : List FinishedCallback := []
  /-- The replies of the last program that ended. -/
  replies : List Reply := []
deriving Inhabited

namespace Machine

/-- A table with an entry that replaces an earlier one of the same name. -/
def put {α : Type} (table : List (String × α)) (name : String) (value : α) : List (String × α) :=
  table.filter (·.1 ≠ name) ++ [(name, value)]

/-- Adds an entry if it is to be kept. -/
def keep {α : Type} (table : List (String × α)) (name : Option String) (value : α) :
    List (String × α) :=
  match name with
  | some name => put table name value
  | none => table

/-- Adds a reply to the innermost program or race. -/
def answer (m : Machine) (reply : Reply) : Machine :=
  match m.frames with
  | .script label rest replies :: below =>
    { m with frames := .script label rest (replies ++ [reply]) :: below }
  | .racing target call rest replies :: below =>
    { m with frames := .racing target call rest (replies ++ [reply]) :: below }
  | _ => m

/-- Whether a callback is running. -/
def inCallback (m : Machine) : Bool :=
  m.frames.any fun
    | .script (some _) _ _ => true
    | _ => false

/-! ## Freeing -/

/-- Whether work that is going on holds a context. -/
def Frame.holds (id : Nat) : Frame → Bool
  | .shutting id' _ => id' = id
  | .dispatching _ rest _ _ => id ∈ rest
  | _ => false

/-- Whether a context is held: by a name, a node, the slot, or work that is going on. -/
def held (m : Machine) (id : Nat) : Bool :=
  m.handles.any (·.2 = id) || m.nodes.any (·.2.context = id) || m.hub.slot = some id
    || m.frames.any (Frame.holds id)

/-- The contexts that nobody holds. -/
def unheld (m : Machine) : List Nat :=
  (m.hub.contexts.map (·.id)).filter fun id => !m.held id

/-- Frees the contexts that nobody holds. -/
def collect (m : Machine) : Machine :=
  { m with hub := m.unheld.foldl Hub.free m.hub }

/-! ## Operations -/

/-- Goes on with the context of a name; the operation is refused if there is none. -/
def withHandle (m : Machine) (handle : String) (act : Nat → Machine) : Machine :=
  match m.handles.lookup handle with
  | some id => act id
  | none => m.answer (.refused "no such handle")

/-- Goes on with the context of a name, or with none. -/
def withTarget (m : Machine) (target : Option String) (act : Option Nat → Machine) : Machine :=
  match target with
  | some handle => m.withHandle handle fun id => act (some id)
  | none => act none

/-- The answer to a question about a context. -/
def reply (p : Hub Callback) (id : Nat) : Question → Reply
  | .lifecycle => .ok (.lifecycle (p.lifecycle id))
  | .id => .ok (.id id)
  | .isDefault => .ok (.flag (p.isDefault id))
  | .domainId => .ofExcept .domainId (p.domainId id)
  | .arguments => .ofExcept .arguments (p.arguments id)
  | .status => .ok (.status (p.status id))
  | .display =>
    .ok (.text
      (s!"Context \x7b id: ContextId({id}), state: " ++ (p.lifecycle id).display ++ " \x7d"))
  | .ok => .ok (.flag (p.isInitialized id))
  | .waitForShutdown => .ok (.flag (p.lifecycle id = .shutdown))

/-- The context that an operation is about; the default one, made if need be, if none is given. -/
def contextFor (m : Machine) (target : Option Nat) : Nat × Machine :=
  match target with
  | some id => (id, m)
  | none =>
    let (id, hub) := m.hub.defaultContext
    (id, { m with hub })

/-- Initializes a context, or the default one. -/
def initContext (m : Machine) (target : Option Nat) (keepAs : Option String)
    (options : InitOptions) : Machine :=
  let (id, m) := m.contextFor target
  match m.hub.init id options with
  | .error e => m.answer (.failed e)
  | .ok hub =>
    { m with hub, handles := keep m.handles keepAs id }.answer (.ok (.id id))

/-- Starts to shut a context down, or the default one, which then leaves its slot. When the shutdown
    is over the operation answers with `reply`. -/
def startShutdown (m : Machine) (target : Option Nat) (tolerant : Bool) (reply : Reply) : Machine :=
  match target.or m.hub.slot with
  | none => m.answer (if tolerant then reply else .failed .notInitialized)
  | some id =>
    match m.hub.beginShutdown id with
    | .error e => m.answer (if tolerant then reply else .failed e)
    | .ok (callbacks, hub) =>
      let releasing : List Frame := if target.isNone then [.releasing id] else []
      { m with hub, frames := .shutting id callbacks :: releasing ++ .returning reply :: m.frames }

/-- Creates a node in a context, or in the default one. -/
def createNode (m : Machine) (target : Option Nat) (name ns : String) (keepAs : Option String) :
    Machine :=
  let (id, m) := m.contextFor target
  match m.hub.createNode id name ns with
  | .error e => m.answer (.failed e)
  | .ok (node, hub) =>
    { m with hub, nodes := keep m.nodes keepAs node }.answer
      (.ok (.node ⟨node, hub.isInitialized id⟩))

/-- Deals with a pending signal, if there is one: shuts the live contexts down, one after
    another. -/
def startDispatch (m : Machine) (before : Option Nat) : Machine :=
  match m.hub.pending with
  | none => m.answer (.ok (.signal none))
  | some signal =>
    { m with
      hub := { m.hub with pending := none }
      frames := .dispatching signal m.hub.liveContexts 0 before :: m.frames }

/-- Raises a signal in the process and deals with it. -/
def raise (m : Machine) (signal : Signal) : Machine :=
  if m.inCallback then m.answer (.refused "raise")
  else
    match m.hub.dispositions.get signal with
    | .host _ =>
      { m with hub := m.hub.deliver signal }.answer (.ok (.raised false (some signal)))
    | .library =>
      if m.hub.delivered.isSome then m.answer (.refused "an earlier signal is still reported")
      else
        { m with hub := m.hub.deliver signal }.startDispatch
          (some m.hub.received.length)

/-- Makes one of the calls of a race. -/
def makeCall (m : Machine) (target : Option Nat) : RacingCall → Machine
  | .init options => m.initContext target none options
  | .shutdown => m.startShutdown target false (.ok .done)

/-- Executes an operation. -/
def execute (m : Machine) : Op → Machine
  | .create handle =>
    let (id, hub) := m.hub.create
    { m with hub, handles := put m.handles handle id }.answer (.ok (.id id))
  | .clone source handle =>
    m.withHandle source fun id =>
      { m with handles := put m.handles handle id }.answer (.ok .done)
  | .drop handle =>
    { m with handles := m.handles.filter (·.1 ≠ handle) }.answer
      (.ok (.flag (m.handles.lookup handle).isSome))
  | .useDefault handle =>
    let (id, m) := m.contextFor none
    { m with handles := keep m.handles handle id }.answer (.ok (.id id))
  | .ask question handle => m.withHandle handle fun id => m.answer (reply m.hub id question)
  | .defaultOk => m.answer (.ok (.flag m.hub.defaultIsInitialized))
  | .init target keepAs options => m.withTarget target fun id => m.initContext id keepAs options
  | .shutdown target tolerant =>
    m.withTarget target fun id => m.startShutdown id tolerant (.ok .done)
  | .shutdownAwaited handle =>
    m.withHandle handle fun id =>
      if m.hub.isInitialized id && !m.inCallback then
        m.startShutdown (some id) false (.ok (.flag true))
      else m.answer (.refused "not initialized")
  | .race target call count =>
    m.withTarget target fun id => { m with frames := .racing id call count [] :: m.frames }
  | .onShutdown handle label body =>
    m.withHandle handle fun id =>
      match m.hub.onShutdown id ⟨label, body⟩ with
      | (none, hub) => { m with hub }.answer (.ok .done)
      | (some callback, hub) =>
        { m with
          hub
          frames := .script (some callback.label) callback.body [] :: .returning (.ok .done)
            :: m.frames }
  | .createNode target name ns keepAs =>
    m.withTarget target fun id => m.createNode id name ns keepAs
  | .nodeInfo node =>
    match m.nodes.lookup node with
    | some node => m.answer (.ok (.node ⟨node, m.hub.isInitialized node.context⟩))
    | none => m.answer (.refused "no such node")
  | .dropNode node =>
    { m with nodes := m.nodes.filter (·.1 ≠ node) }.answer
      (.ok (.flag (m.nodes.lookup node).isSome))
  | .raise signal => m.raise signal
  | .handlers => m.answer (.ok (.handlers m.hub.handlers))
  | .owner => m.answer (.ok (.owner m.hub.owner?))
  | .pending => m.answer (.ok (.signal m.hub.pending))
  | .takePending =>
    { m with hub := { m.hub with pending := none } }.answer
      (.ok (.signal m.hub.pending))
  | .dispatch => m.startDispatch none
  | .waitSignal => m.answer (.ok (.signal m.hub.delivered))
  | .malformed complaint => m.answer (.refused complaint)
  | .unreadable => m.answer .unreadable

/-! ## Steps -/

/-- Takes a dispatch through one moment of its end. The signal is raised again if nobody owns the
    handlers when it looks, and goes to whoever handles it when it is raised. -/
def conclude (m : Machine) (signal : Signal) (before : Option Nat) : Conclusion → Machine
  | .check =>
    match m.hub.table with
    | none =>
      { m with
        hub := m.hub.emit (.signalForwarded signal)
        frames := .concluding .raise signal before :: m.frames }
    | some _ =>
      { m with
        hub := m.hub.emit (.signalKept signal)
        frames := .concluding .record signal before :: m.frames }
  | .raise =>
    { m with
      hub := m.hub.deliver signal
      frames := .concluding .record signal before :: m.frames }
  | .record =>
    { m with hub := m.hub.noteDelivered signal }.answer <| .ok <|
      match before with
      | none => .signal (some signal)
      | some n => .raised true ((m.hub.received.drop n).getLast?.map Prod.fst)

/-- Goes on with the innermost frame, `m` being the machine without it. -/
def advance (m : Machine) : Frame → Machine
  | .script label (op :: rest) replies =>
    { m with frames := .script label rest replies :: m.frames }.execute op
  | .script (some label) [] replies => { m with finished := m.finished ++ [⟨label, replies⟩] }
  | .script none [] replies => { m with replies }
  | .shutting id (callback :: rest) =>
    { m with
      frames := .script (some callback.label) callback.body [] :: .shutting id rest :: m.frames }
  | .shutting id [] => { m with hub := m.hub.finishShutdown id }
  | .releasing id => { m with hub := m.hub.releaseDefault id }
  | .returning reply => m.answer reply
  | .dispatching signal (id :: rest) count before =>
    match m.hub.beginShutdown id with
    | .error _ => { m with frames := .dispatching signal rest count before :: m.frames }
    | .ok (callbacks, hub) =>
      { m with
        hub
        frames :=
          .shutting id callbacks :: .dispatching signal rest (count + 1) before :: m.frames }
  | .dispatching signal [] count before =>
    { m with
      hub := m.hub.emit (.signalReceived signal count)
      frames := .concluding .check signal before :: m.frames }
  | .concluding next signal before => m.conclude signal before next
  | .racing target call (rest + 1) replies =>
    { m with frames := .racing target call rest replies :: m.frames }.makeCall target call
  | .racing _ _ 0 replies => m.answer (.ok (.outcomes replies))

/-- One step; a machine without work stays as it is. -/
def step (m : Machine) : Machine :=
  match m.frames with
  | [] => m
  | frame :: below => ({ m with frames := below }.advance frame).collect

end Machine
end RobotClient
