import Mathlib.Logic.Relation
import RobotClient.Context.Run
import RobotClient.Proofs.Context.Operation

set_option autoImplicit false

/-! # What a step can do

A machine changes its hub only through the operations of hubs. `Act` lists those that shut nothing
down, `Move` lists all, the changes from outside included. `Outcome` is what an operation of a
program comes to, so that a proof about steps never opens `execute`: it goes through the frames of
`advance`, and through `Outcome` where a frame executes an operation. -/

namespace RobotClient

open Relation (ReflTransGen)

/-! ## Changes of a hub -/

namespace Hub

variable {κ : Type}

/-- What a program does to a hub without shutting a context down. -/
inductive Act (p : Hub κ) : Hub κ → Prop where
  | create : Act p p.create.2
  | useDefault : Act p p.defaultContext.2
  | init {id : Nat} {o : InitOptions} {q : Hub κ} (h : p.init id o = .ok q) : Act p q
  | releaseDefault (id : Nat) : Act p (p.releaseDefault id)
  | onShutdown (id : Nat) (callback : κ) : Act p (p.onShutdown id callback).2
  | createNode {id : Nat} {name ns : String} {node : Node} {q : Hub κ}
      (h : p.createNode id name ns = .ok (node, q)) : Act p q

/-- What can happen to a hub. The host may put in handlers of its own while nobody owns the
    handlers. -/
inductive Move (p : Hub κ) : Hub κ → Prop where
  | act {q : Hub κ} (h : Act p q) : Move p q
  | beginShutdown {id : Nat} {callbacks : List κ} {q : Hub κ}
      (h : p.beginShutdown id = .ok (callbacks, q)) : Move p q
  | finishShutdown (id : Nat) : Move p (p.finishShutdown id)
  | free (id : Nat) : Move p (p.free id)
  | takePending : Move p { p with pending := none }
  | deliver (signal : Signal) : Move p (p.deliver signal)
  | report {event : Event} (h : event.tellsDispatch = true) : Move p (p.emit event)
  | noteDelivered (signal : Signal) : Move p (p.noteDelivered signal)
  | tick (clock : String) : Move p { p with clock }
  | handle (signal : Signal) (label : Nat) (h : p.table = none) :
      Move p { p with dispositions := p.dispositions.set signal (.host label) }

end Hub

namespace Machine

/-! ## Replies -/

/-- Frames with a reply added to the innermost one, if it takes replies. -/
def answered (reply : Reply) : List Frame → List Frame
  | .script label rest replies :: below => .script label rest (replies ++ [reply]) :: below
  | .racing target call rest replies :: below =>
    .racing target call rest (replies ++ [reply]) :: below
  | frames => frames

theorem answer_eq (m : Machine) (reply : Reply) :
    m.answer reply = { m with frames := answered reply m.frames } := by
  unfold answer answered
  split <;> simp_all

theorem answered_cons (reply : Reply) (f : Frame) :
    ∃ f', ∀ below, answered reply (f :: below) = f' :: below := by
  cases f <;> exact ⟨_, fun _ => rfl⟩

/-- The context that a call of a program is about. -/
theorem contextFor_about (m : Machine) (target : Option Nat) :
    m.contextFor target
      = ((m.hub.about target).1, { m with hub := (m.hub.about target).2 }) := by
  cases target <;> rfl

/-! ## Names -/

/-- Whether the names that a call leaves belong to contexts that had a name before or exist now. -/
structure Known (m : Machine) (hub : Hub Callback) (handles : List (String × Nat))
    (nodes : List (String × Node)) : Prop where
  handles : ∀ entry ∈ handles,
    (∃ name, (name, entry.2) ∈ m.handles) ∨ (hub.find? entry.2).isSome = true
  nodes : ∀ entry ∈ nodes,
    entry ∈ m.nodes ∨ (hub.find? entry.2.context).isSome = true

theorem mem_put {α : Type} {table : List (String × α)} {name : String} {value : α}
    {entry : String × α} (h : entry ∈ put table name value) :
    entry ∈ table ∨ entry.2 = value := by
  rcases List.mem_append.1 h with h | h
  · exact .inl (List.mem_of_mem_filter h)
  · exact .inr (by rw [List.mem_singleton.1 h])

theorem mem_keep {α : Type} {table : List (String × α)} {name : Option String} {value : α}
    {entry : String × α} (h : entry ∈ keep table name value) :
    entry ∈ table ∨ entry.2 = value := by
  cases name with
  | none => exact .inl h
  | some name => exact mem_put h

theorem Known.same (m : Machine) (hub : Hub Callback) : Known m hub m.handles m.nodes :=
  ⟨fun entry h => .inl ⟨entry.1, h⟩, fun _ h => .inl h⟩

/-- A new name for a context that exists. -/
theorem Known.put {m : Machine} {hub : Hub Callback} {id : Nat}
    (h : (hub.find? id).isSome = true) (handle : String) :
    Known m hub (put m.handles handle id) m.nodes := by
  refine ⟨fun entry hentry => ?_, fun _ h => .inl h⟩
  rcases mem_put hentry with hentry | hid
  · exact .inl ⟨entry.1, hentry⟩
  · exact .inr (hid ▸ h)

theorem Known.keep {m : Machine} {hub : Hub Callback} {id : Nat}
    (h : (hub.find? id).isSome = true) (handle : Option String) :
    Known m hub (keep m.handles handle id) m.nodes := by
  cases handle with
  | none => exact .same m hub
  | some handle => exact .put h handle

/-! ## Operations -/

/-- What a call of the library comes to: it answers at once, or a shutdown starts. If that is one of
    the default context, the slot is emptied after it. -/
inductive Called (m : Machine) : Machine → Prop where
  | answer {hub : Hub Callback} (handles : List (String × Nat)) (nodes : List (String × Node))
      (reply : Reply) (acts : ReflTransGen Hub.Act m.hub hub) (known : Known m hub handles nodes) :
      Called m ({ m with hub, handles, nodes }.answer reply)
  | shut {id : Nat} {callbacks : List Callback} {hub : Hub Callback} (releasing : List Frame)
      (reply : Reply) (h : m.hub.beginShutdown id = .ok (callbacks, hub))
      (hr : ∀ f ∈ releasing, f = .releasing id) :
      Called m { m with
        hub, frames := .shutting id callbacks :: (releasing ++ .returning reply :: m.frames) }

/-- What an operation comes to in a machine whose innermost frame is the operation's program. -/
inductive Outcome (m : Machine) (op : Op) : Machine → Prop where
  | called {r : Machine} (h : Called m r) : Outcome m op r
  /-- A callback runs at once. -/
  | call (callback : Callback) :
      Outcome m op { m with
        frames := .script (some callback.label) callback.body [] :: .returning (.ok .done)
          :: m.frames }
  | race (target : Option Nat) (call : RacingCall) (count : Nat)
      (known : ∀ id, target = some id → ∃ name, (name, id) ∈ m.handles) :
      Outcome m op { m with frames := .racing target call count [] :: m.frames }
  | takePending (reply : Reply) :
      Outcome m op ({ m with hub := { m.hub with pending := none } }.answer reply)
  | dispatch {signal : Signal} (h : m.hub.pending = some signal) :
      Outcome m op { m with
        hub := { m.hub with pending := none }
        frames := .dispatching signal m.hub.liveContexts 0 none :: m.frames }
  /-- The program raises a signal that reaches the host. -/
  | host (signal : Signal) (reply : Reply) (hc : m.inCallback = false)
      (h : m.hub.dispositions.get signal ≠ .library) :
      Outcome m op ({ m with hub := m.hub.deliver signal }.answer reply)
  /-- The program raises a signal that the library catches. -/
  | caught {signal : Signal} (h : m.hub.dispositions.get signal = .library)
      (hc : m.inCallback = false) (hop : op = .raise signal) (hd : m.hub.delivered = none) :
      Outcome m op { m with
        hub := { m.hub with pending := none }
        frames := .dispatching signal m.hub.liveContexts 0 (some m.hub.received.length)
          :: m.frames }

/-- A call that does nothing but answer. -/
theorem Called.plain (m : Machine) (reply : Reply) : Called m (m.answer reply) :=
  .answer m.handles m.nodes reply .refl (.same m m.hub)

theorem Outcome.plain (m : Machine) (op : Op) (reply : Reply) : Outcome m op (m.answer reply) :=
  .called (.plain m reply)

theorem contextFor_eq (m : Machine) (target : Option Nat) :
    ∃ id hub, m.contextFor target = (id, { m with hub }) ∧ ReflTransGen Hub.Act m.hub hub := by
  cases target with
  | some id => exact ⟨id, m.hub, rfl, .refl⟩
  | none => exact ⟨_, _, rfl, .single .useDefault⟩

theorem mem_of_lookup {α : Type} {table : List (String × α)} {name : String} {value : α}
    (h : table.lookup name = some value) : (name, value) ∈ table := by
  obtain ⟨front, rest, htable, -⟩ := List.lookup_eq_some_iff.1 h
  rw [htable]
  exact List.mem_append_right _ List.mem_cons_self

/-- What holds of a refusal, and of the operation for every context with a name, holds of the
    operation for the context of a name. -/
@[elab_as_elim]
theorem withHandle_induction {motive : Machine → Prop} (m : Machine) (handle : String)
    {act : Nat → Machine} (refused : motive (m.answer (.refused "no such handle")))
    (act_of_mem : ∀ id, (∃ name, (name, id) ∈ m.handles) → motive (act id)) :
    motive (m.withHandle handle act) := by
  unfold withHandle
  split
  · next id hid => exact act_of_mem id ⟨handle, mem_of_lookup hid⟩
  · exact refused

@[elab_as_elim]
theorem withTarget_induction {motive : Machine → Prop} (m : Machine) (target : Option String)
    {act : Option Nat → Machine} (refused : motive (m.answer (.refused "no such handle")))
    (act_of_mem : ∀ id, (∀ j, id = some j → ∃ name, (name, j) ∈ m.handles) → motive (act id)) :
    motive (m.withTarget target act) := by
  unfold withTarget
  split
  · exact withHandle_induction m _ refused
      fun id hid => act_of_mem _ fun j hj => Option.some.inj hj ▸ hid
  · exact act_of_mem none fun j hj => absurd hj (by simp)

theorem outcome_withHandle {op : Op} (m : Machine) (handle : String) {act : Nat → Machine}
    (h : ∀ id, (∃ name, (name, id) ∈ m.handles) → Outcome m op (act id)) :
    Outcome m op (m.withHandle handle act) :=
  withHandle_induction m handle (.plain m _ _) h

theorem outcome_withTarget {op : Op} (m : Machine) (target : Option String)
    {act : Option Nat → Machine}
    (h : ∀ id, (∀ j, id = some j → ∃ name, (name, j) ∈ m.handles) → Outcome m op (act id)) :
    Outcome m op (m.withTarget target act) :=
  withTarget_induction m target (.plain m _ _) h

theorem called_initContext (m : Machine) (target : Option Nat) (keepAs : Option String)
    (options : InitOptions) : Called m (m.initContext target keepAs options) := by
  obtain ⟨id, hub, heq, acts⟩ := contextFor_eq m target
  unfold initContext
  simp only [heq]
  split
  · exact .answer m.handles m.nodes _ acts (.same m hub)
  · next hub' h =>
    exact .answer _ m.nodes _ (acts.tail (.init h)) (.keep (Hub.exists_of_init h) keepAs)

theorem called_startShutdown (m : Machine) (target : Option Nat) (tolerant : Bool)
    (reply : Reply) : Called m (m.startShutdown target tolerant reply) := by
  unfold startShutdown
  split
  · exact .plain m _
  · next id _ =>
    split
    · exact .plain m _
    · next callbacks hub h =>
      refine .shut (if target.isNone then [.releasing id] else []) reply h ?_
      split <;> simp

theorem called_createNode (m : Machine) (target : Option Nat) (name ns : String)
    (keepAs : Option String) : Called m (m.createNode target name ns keepAs) := by
  obtain ⟨id, hub, heq, acts⟩ := contextFor_eq m target
  unfold createNode
  simp only [heq]
  split
  · exact .answer m.handles m.nodes _ acts (.same m hub)
  · next node hub' h =>
    refine .answer m.handles _ _ (acts.tail (.createNode h)) ⟨fun entry hentry =>
      .inl ⟨entry.1, hentry⟩, fun entry hentry => ?_⟩
    rcases mem_keep hentry with hentry | rfl
    · exact .inl hentry
    · exact .inr (Hub.exists_of_createNode h)

theorem outcome_raise (m : Machine) (signal : Signal) :
    Outcome m (.raise signal) (m.raise signal) := by
  unfold raise
  by_cases hc : m.inCallback = true
  · rw [if_pos hc]
    exact .plain m _ _
  · rw [if_neg hc]
    have hc : m.inCallback = false := by simpa using hc
    split
    · next label hd => exact .host signal _ hc (by simp [hd])
    · next hd =>
      split
      · exact .plain m _ _
      · next hnone =>
        have hdeliver : m.hub.deliver signal = { m.hub with pending := some signal } := by
          simp [Hub.deliver, hd]
        simp only [hdeliver, startDispatch]
        exact .caught hd hc rfl (by simpa using hnone)

theorem called_makeCall (m : Machine) (target : Option Nat) (call : RacingCall) :
    Called m (m.makeCall target call) := by
  cases call with
  | init options => exact called_initContext m target none options
  | shutdown => exact called_startShutdown m target false _

/-- **What an operation comes to.** -/
theorem outcome_execute (m : Machine) (op : Op) : Outcome m op (m.execute op) := by
  cases op with
  | create handle =>
    exact .called (.answer _ m.nodes _ (.single .create) (.put (Hub.exists_of_create m.hub) handle))
  | clone source handle =>
    refine outcome_withHandle m _ fun id hid => .called (.answer _ m.nodes _ .refl ?_)
    refine ⟨fun entry hentry => .inl ?_, fun _ h => .inl h⟩
    rcases mem_put hentry with hentry | rfl
    · exact ⟨entry.1, hentry⟩
    · exact hid
  | drop handle =>
    refine .called (.answer _ m.nodes _ .refl ⟨fun entry hentry => ?_, fun _ h => .inl h⟩)
    exact .inl ⟨entry.1, List.mem_of_mem_filter hentry⟩
  | useDefault handle =>
    exact .called (.answer _ m.nodes _ (.single .useDefault)
      (.keep (Hub.exists_of_defaultContext m.hub) handle))
  | ask question handle => exact outcome_withHandle m _ fun id _ => .plain m _ _
  | defaultOk => exact .plain m _ _
  | init target keepAs options =>
    exact outcome_withTarget m _ fun id _ => .called (called_initContext m id keepAs options)
  | shutdown target tolerant =>
    exact outcome_withTarget m _ fun id _ => .called (called_startShutdown m id tolerant _)
  | shutdownAwaited handle =>
    refine outcome_withHandle m _ fun id _ => ?_
    split
    · exact .called (called_startShutdown ..)
    · exact .plain m _ _
  | race target call count =>
    exact outcome_withTarget m _ fun id hid => .race id call count hid
  | onShutdown handle label body =>
    refine outcome_withHandle m _ fun id _ => ?_
    have act := Hub.Act.onShutdown (p := m.hub) id (⟨label, body⟩ : Callback)
    rcases Hub.onShutdown_cases m.hub id ⟨label, body⟩ with ⟨-, heq⟩ | ⟨-, heq⟩
    · rw [heq]
      exact .call ⟨label, body⟩
    · rw [heq] at act ⊢
      exact .called (.answer m.handles m.nodes _ (.single act) (.same m _))
  | createNode target name ns keepAs =>
    exact outcome_withTarget m _ fun id _ =>
      .called (called_createNode m id name ns keepAs)
  | nodeInfo node =>
    simp only [execute]
    split <;> exact .plain m _ _
  | dropNode node =>
    refine .called (.answer m.handles _ _ .refl ⟨fun entry hentry => .inl ⟨entry.1, hentry⟩,
      fun entry hentry => .inl (List.mem_of_mem_filter hentry)⟩)
  | raise signal => exact outcome_raise m signal
  | handlers => exact .plain m _ _
  | owner => exact .plain m _ _
  | pending => exact .plain m _ _
  | takePending => exact .takePending _
  | dispatch =>
    simp only [execute, startDispatch]
    split
    · exact .plain m _ _
    · next signal h => exact .dispatch h
  | waitSignal => exact .plain m _ _
  | malformed complaint => exact .plain m _ _
  | unreadable => exact .plain m _ _

/-! ## The end of a dispatch -/

/-- What one moment of the end of a dispatch comes to: it reports or raises the signal and goes on,
    or notes the signal and answers. -/
inductive Concluded (m : Machine) (signal : Signal) (before : Option Nat) : Machine → Prop where
  | report {event : Event} (next : Conclusion) (h : event.tellsDispatch = true) :
      Concluded m signal before { m with
        hub := m.hub.emit event
        frames := .concluding next signal before :: m.frames }
  | raise :
      Concluded m signal before { m with
        hub := m.hub.deliver signal
        frames := .concluding .record signal before :: m.frames }
  | record (reply : Reply) :
      Concluded m signal before ({ m with hub := m.hub.noteDelivered signal }.answer reply)

theorem concluded_conclude (m : Machine) (signal : Signal) (before : Option Nat)
    (next : Conclusion) : Concluded m signal before (m.conclude signal before next) := by
  cases next with
  | check =>
    cases ht : m.hub.table <;> simp only [conclude, ht] <;> exact .report _ rfl
  | raise => exact .raise
  | record => exact .record _

/-- The end of the line is a moment like these. -/
theorem concluded_line (m : Machine) (signal : Signal) (count : Nat) (before : Option Nat) :
    Concluded m signal before { m with
      hub := m.hub.emit (.signalReceived signal count)
      frames := .concluding .check signal before :: m.frames } :=
  .report .check rfl

/-- The dispatch goes on as one frame, or its answer takes its place. -/
theorem Concluded.frames {m r : Machine} {signal : Signal} {before : Option Nat}
    (h : Concluded m signal before r) :
    (∃ later, r.frames = .concluding later signal before :: m.frames) ∨
      ∃ reply, r.frames = answered reply m.frames := by
  cases h with
  | report next h => exact .inl ⟨next, rfl⟩
  | raise => exact .inl ⟨.record, rfl⟩
  | record reply => exact .inr ⟨reply, by rw [answer_eq]⟩

/-! ## Steps -/

end Machine

/-- Whether a frame is a program that has nothing left to do. -/
def Frame.ends : Frame → Bool
  | .script _ [] _ => true
  | _ => false

/-- The signal whose dispatch a frame goes on with. -/
def Frame.signal? : Frame → Option Signal
  | .dispatching signal _ _ _ | .concluding _ signal _ => some signal
  | _ => none

namespace Hub

variable {κ : Type}

/-- What a step does to a hub before it frees anything: what a program does, or one other change. -/
inductive Stride (p : Hub κ) : Hub κ → Prop where
  | acts {q : Hub κ} (h : ReflTransGen Act p q) : Stride p q
  | beginShutdown {id : Nat} {callbacks : List κ} {q : Hub κ}
      (h : p.beginShutdown id = .ok (callbacks, q)) : Stride p q
  | finishShutdown (id : Nat) : Stride p (p.finishShutdown id)
  | takePending : Stride p { p with pending := none }
  | deliver (signal : Signal) : Stride p (p.deliver signal)
  | report {event : Event} (h : event.tellsDispatch = true) : Stride p (p.emit event)
  | noteDelivered (signal : Signal) : Stride p (p.noteDelivered signal)

theorem acts_moves {p q : Hub κ} (h : ReflTransGen Act p q) : ReflTransGen Move p q :=
  ReflTransGen.mono (fun _ _ => Move.act) p q h

theorem Stride.moves {p q : Hub κ} (h : Stride p q) : ReflTransGen Move p q := by
  cases h with
  | acts acts => exact acts_moves acts
  | beginShutdown h => exact .single (.beginShutdown h)
  | finishShutdown id => exact .single (.finishShutdown id)
  | takePending => exact .single .takePending
  | deliver signal => exact .single (.deliver signal)
  | report h => exact .single (.report h)
  | noteDelivered signal => exact .single (.noteDelivered signal)

end Hub

namespace Machine

theorem Called.stride {m r : Machine} (h : Called m r) : Hub.Stride m.hub r.hub := by
  cases h with
  | answer handles nodes reply acts => simpa using .acts acts
  | shut releasing reply h hr => exact .beginShutdown h

theorem Concluded.stride {m r : Machine} {signal : Signal} {before : Option Nat}
    (h : Concluded m signal before r) : Hub.Stride m.hub r.hub := by
  cases h with
  | report next h => exact .report h
  | raise => exact .deliver signal
  | record reply => simpa using .noteDelivered signal

theorem Outcome.stride {m r : Machine} {op : Op} (h : Outcome m op r) :
    Hub.Stride m.hub r.hub := by
  cases h with
  | called h => exact h.stride
  | call callback => exact .acts .refl
  | race target call count known => exact .acts .refl
  | takePending reply => simpa using .takePending
  | dispatch h => exact .takePending
  | host signal reply hc h => simpa using .deliver signal
  | caught h hc hop hd => exact .takePending

/-- **What a step can do** to the hub before it frees anything. -/
theorem stride_advance (m : Machine) (frame : Frame) :
    Hub.Stride m.hub (m.advance frame).hub := by
  fun_cases advance m frame with
  | case1 label op rest replies => exact (outcome_execute
      { m with frames := .script label rest replies :: m.frames } op).stride
  | case2 label replies => exact .acts .refl
  | case3 replies => exact .acts .refl
  | case4 id callback rest => exact .acts .refl
  | case5 id => exact .finishShutdown id
  | case6 id => exact .acts (.single (.releaseDefault id))
  | case7 reply => simpa using .acts .refl
  | case8 signal id rest count before e h => exact .acts .refl
  | case9 signal id rest count before callbacks hub h => exact .beginShutdown h
  | case10 signal count before => exact .report rfl
  | case11 next signal before => exact (concluded_conclude m signal before next).stride
  | case12 target call rest replies => exact (called_makeCall
      { m with frames := .racing target call rest replies :: m.frames } target call).stride
  | case13 target call replies => simpa using .acts .refl

theorem moves_advance (m : Machine) (frame : Frame) :
    ReflTransGen Hub.Move m.hub (m.advance frame).hub :=
  (stride_advance m frame).moves

/-- Nothing but the end of a program adds to the records of callbacks and replies. -/
theorem records_answer (m : Machine) (reply : Reply) :
    (m.answer reply).finished = m.finished ∧ (m.answer reply).replies = m.replies := by
  rw [answer_eq]
  exact ⟨rfl, rfl⟩

theorem Called.records {m r : Machine} (h : Called m r) :
    r.finished = m.finished ∧ r.replies = m.replies := by
  cases h with
  | answer handles nodes reply acts known => exact records_answer ..
  | shut releasing reply h hr => exact ⟨rfl, rfl⟩

theorem Concluded.records {m r : Machine} {signal : Signal} {before : Option Nat}
    (h : Concluded m signal before r) :
    r.finished = m.finished ∧ r.replies = m.replies := by
  cases h with
  | record reply => exact records_answer ..
  | _ => exact ⟨rfl, rfl⟩

theorem Outcome.records {m r : Machine} {op : Op} (h : Outcome m op r) :
    r.finished = m.finished ∧ r.replies = m.replies := by
  cases h with
  | called h => exact h.records
  | takePending reply => exact records_answer ..
  | host signal reply hc h => exact records_answer ..
  | _ => exact ⟨rfl, rfl⟩

theorem records_advance (m : Machine) {f : Frame} (hf : f.ends = false) :
    (m.advance f).finished = m.finished ∧ (m.advance f).replies = m.replies := by
  fun_cases advance m f with
  | case1 label op rest replies => exact (outcome_execute
      { m with frames := .script label rest replies :: m.frames } op).records
  | case2 | case3 => exact absurd hf (by simp [Frame.ends])
  | case7 | case13 => exact records_answer ..
  | case11 next signal before => exact (concluded_conclude m signal before next).records
  | case12 target call rest replies => exact (called_makeCall
      { m with frames := .racing target call rest replies :: m.frames } target call).records
  | _ => exact ⟨rfl, rfl⟩

theorem moves_foldl_free (ids : List Nat) (p : Hub Callback) :
    ReflTransGen Hub.Move p (ids.foldl Hub.free p) := by
  induction ids generalizing p with
  | nil => exact .refl
  | cons id rest ih => exact .head (.free id) (ih _)

theorem advance_dispatching_of_error {m : Machine} {signal : Signal} {id count : Nat}
    {line : List Nat} {before : Option Nat} {e : ClientError}
    (h : m.hub.beginShutdown id = .error e) :
    m.advance (.dispatching signal (id :: line) count before)
      = { m with frames := .dispatching signal line count before :: m.frames } := by
  rw [advance, h]

theorem advance_dispatching_of_ok {m : Machine} {signal : Signal} {id count : Nat}
    {line : List Nat} {before : Option Nat} {callbacks : List Callback} {hub : Hub Callback}
    (h : m.hub.beginShutdown id = .ok (callbacks, hub)) :
    m.advance (.dispatching signal (id :: line) count before)
      = { m with
          hub
          frames := .shutting id callbacks :: .dispatching signal line (count + 1) before
            :: m.frames } := by
  rw [advance, h]

/-- A step advances the innermost frame, and then frees what nobody holds any more. -/
theorem step_of_advance {m r : Machine} {f : Frame} {below : List Frame}
    (hframes : m.frames = f :: below)
    (hadvance : ({ m with frames := below } : Machine).advance f = r) : m.step = r.collect := by
  rw [step, hframes]
  exact congrArg collect hadvance

/-- A step does one thing to the hub, and then it frees. -/
theorem exists_stride (m : Machine) :
    ∃ q, ∃ ids : List Nat, Hub.Stride m.hub q ∧ m.step.hub = ids.foldl Hub.free q := by
  unfold step
  split
  · exact ⟨m.hub, [], .acts .refl, rfl⟩
  · next frame below h => exact ⟨_, _, stride_advance { m with frames := below } frame, rfl⟩

/-- A step changes the hub only through its operations. -/
theorem moves_step (m : Machine) : ReflTransGen Hub.Move m.hub m.step.hub := by
  obtain ⟨q, ids, stride, hstep⟩ := exists_stride m
  rw [hstep]
  exact stride.moves.trans (moves_foldl_free ids q)

/-- The machine some steps later. -/
def after (m : Machine) : Nat → Machine
  | 0 => m
  | n + 1 => m.step.after n

theorem after_add (m : Machine) (n k : Nat) : m.after (n + k) = (m.after n).after k := by
  induction n generalizing m with
  | zero => rw [Nat.zero_add]; rfl
  | succ n ih => rw [Nat.succ_add]; exact ih m.step

theorem after_succ (m : Machine) (n : Nat) : m.after (n + 1) = (m.after n).step :=
  after_add m n 1

theorem moves_after (m : Machine) (n : Nat) : ReflTransGen Hub.Move m.hub (m.after n).hub := by
  induction n generalizing m with
  | zero => exact .refl
  | succ n ih => exact (moves_step m).trans (ih m.step)

end Machine
end RobotClient
