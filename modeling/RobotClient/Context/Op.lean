import RobotClient.Context.Hub

set_option autoImplicit false

/-! # Operations of a client program

What a client program asks of the library. A program holds contexts and nodes by names of its own;
an operation without a context is about the default one. A callback is a list of operations that
runs when a context is shut down. -/

namespace RobotClient

/-! ## Operations -/

/-- A question about a context. -/
inductive Question where
  | lifecycle
  | id
  | isDefault
  | domainId
  | arguments
  | status
  | display
  /-- Whether the context is initialized. -/
  | ok
  /-- Whether the context is shut down by the time that a wait for it ends. -/
  | waitForShutdown
deriving DecidableEq, Repr, Inhabited

/-- A call that several threads make at once. -/
inductive RacingCall where
  | init (options : InitOptions)
  | shutdown
deriving Repr, Inhabited

/-- One operation. -/
inductive Op where
  | create (handle : String)
  | clone (source handle : String)
  | drop (handle : String)
  | useDefault (handle : Option String)
  | ask (question : Question) (handle : String)
  | defaultOk
  | init (target : Option String) (keepAs : Option String) (options : InitOptions)
  /-- A tolerant shutdown takes a context that is not initialized as done. -/
  | shutdown (target : Option String) (tolerant : Bool)
  /-- A shutdown that another thread waits for; a callback cannot ask for one. -/
  | shutdownAwaited (handle : String)
  | race (target : Option String) (call : RacingCall) (count : Nat)
  | onShutdown (handle label : String) (body : List Op)
  | createNode (target : Option String) (name namespaceText : String) (keepAs : Option String)
  | nodeInfo (node : String)
  | dropNode (node : String)
  | raise (signal : Signal)
  | handlers
  | owner
  | pending
  | takePending
  | dispatch
  | waitSignal
  /-- A request that names no operation; the text tells what is wrong with it. -/
  | malformed (complaint : String)
  /-- A request whose configuration cannot be read. -/
  | unreadable
deriving Repr, Inhabited

/-- A callback: its name and what it does. Its body holds operations of the library and nothing
    else. What the host may do besides, such as to put in a handler of its own while nobody owns the
    handlers, is not part of it: in a run that happens between two steps (`Machine.Next.handle`). -/
structure Callback where
  label : String
  body : List Op
deriving Repr, Inhabited

/-! ## Replies -/

/-- A node as a program sees it. -/
structure NodeInfo where
  node : Node
  /-- Whether its context is initialized. -/
  valid : Bool
deriving DecidableEq, Repr, Inhabited

mutual

/-- What an operation answers. -/
inductive Answer where
  | done
  | flag (value : Bool)
  | id (id : Nat)
  | lifecycle (state : Lifecycle)
  | domainId (id : UInt64)
  | arguments (arguments : Arguments)
  | status (status : Status)
  | text (text : String)
  | node (info : NodeInfo)
  | handlers (options : HandlerOptions)
  | owner (owner : Option Nat)
  | signal (signal : Option Signal)
  /-- Whether the library caught the signal, and the signal that reached the host. -/
  | raised (caught : Bool) (forwarded : Option Signal)
  /-- The outcome of each call of a race. -/
  | outcomes (replies : List Reply)

/-- The outcome of an operation. -/
inductive Reply where
  | ok (answer : Answer)
  | failed (error : ClientError)
  /-- The request makes no sense here; the text tells what is wrong with it. -/
  | refused (complaint : String)
  | unreadable

end

instance : Inhabited Answer := ⟨.done⟩

instance : Inhabited Reply := ⟨.ok .done⟩

/-- The outcome of a computation as a reply. -/
def Reply.ofExcept {α : Type} (answer : α → Answer) : Except ClientError α → Reply
  | .ok value => .ok (answer value)
  | .error e => .failed e

/-- A callback that has run, with the outcome of each of its operations. -/
structure FinishedCallback where
  label : String
  replies : List Reply
deriving Inhabited

end RobotClient
