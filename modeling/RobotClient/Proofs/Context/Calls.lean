import RobotClient.Proofs.Context.Grounded
import RobotClient.Proofs.Context.Replies

set_option autoImplicit false

/-! # Calls

Most operations of a program are calls of the library about one context, under the names that the
program has for contexts; a race makes the same calls without names. `Call` is such a call with the
names looked up, and `serve` is what comes of it. What is left of the operations never touches a
context that is there (`Idle`). So a proof about contexts goes through the six calls instead of the
operations. Main statement: `exists_stepped`, which says what a step does. -/

namespace RobotClient

open Relation (ReflTransGen)

/-- A call of the library about a context; one without a target is about the default context. -/
inductive Call where
  | init (target : Option Nat) (keepAs : Option String) (options : InitOptions)
  /-- A shutdown that answers with the receipt when it is over. -/
  | shutdown (target : Option Nat) (tolerant : Bool) (receipt : Reply)
  | onShutdown (id : Nat) (callback : Callback)
  | createNode (target : Option Nat) (name namespaceText : String) (keepAs : Option String)
  | ask (id : Nat) (question : Question)
  | defaultOk

/-- The context that a call names. -/
def Call.target? : Call → Option Nat
  | .init target _ _ | .shutdown target _ _ | .createNode target _ _ _ => target
  | .onShutdown id _ | .ask id _ => some id
  | .defaultOk => none

/-- Whether a frame goes on by asking for something about a context: with an operation, a call of a
    race, or the next context in the line of a dispatch. -/
def Frame.asks : Frame → Bool
  | .script _ (_ :: _) _ => true
  | .dispatching _ (_ :: _) _ _ => true
  | .racing _ _ (_ + 1) _ => true
  | _ => false

namespace Machine

variable {m : Machine}

/-! ## From operations to calls -/

/-- What a program calls a context by, looked up; none if there is no such handle. -/
def target? (m : Machine) : Option String → Option (Option Nat)
  | none => some none
  | some handle => (m.handles.lookup handle).map some

/-- The call that an operation makes. An awaited shutdown is no call where it would not start. -/
def callOf? (m : Machine) : Op → Option Call
  | .init target keepAs options => (m.target? target).map fun t => .init t keepAs options
  | .shutdown target tolerant => (m.target? target).map fun t => .shutdown t tolerant (.ok .done)
  | .shutdownAwaited handle =>
    (m.handles.lookup handle).bind fun id =>
      if m.hub.isInitialized id && !m.inCallback then
        some (.shutdown (some id) false (.ok (.flag true)))
      else none
  | .onShutdown handle label body =>
    (m.handles.lookup handle).map fun id => .onShutdown id ⟨label, body⟩
  | .createNode target name ns keepAs =>
    (m.target? target).map fun t => .createNode t name ns keepAs
  | .ask question handle => (m.handles.lookup handle).map fun id => .ask id question
  | .defaultOk => some .defaultOk
  | _ => none

/-- A call of a race. -/
def callOfRace (target : Option Nat) : RacingCall → Call
  | .init options => .init target none options
  | .shutdown => .shutdown target false (.ok .done)

/-- What comes of a call. -/
def serve (m : Machine) : Call → Machine
  | .init target keepAs options => m.initContext target keepAs options
  | .shutdown target tolerant receipt => m.startShutdown target tolerant receipt
  | .onShutdown id callback =>
    match m.hub.onShutdown id callback with
    | (none, hub) => { m with hub }.answer (.ok .done)
    | (some callback, hub) =>
      { m with
        hub
        frames := .script (some callback.label) callback.body [] :: .returning (.ok .done)
          :: m.frames }
  | .createNode target name ns keepAs => m.createNode target name ns keepAs
  | .ask id question => m.answer (reply m.hub id question)
  | .defaultOk => m.answer (.ok (.flag m.hub.defaultIsInitialized))

theorem makeCall_eq (m : Machine) (target : Option Nat) (call : RacingCall) :
    m.makeCall target call = m.serve (callOfRace target call) := by
  cases call <;> rfl

/-- What comes of an operation that makes no call: the contexts stay as they are, but for a fresh
    one that may be added, and the program gets an answer or waits for a race or a dispatch. -/
structure Idle (m r : Machine) : Prop where
  hub : r.hub.contexts = m.hub.contexts ∧ r.hub.nextId = m.hub.nextId ∨
    r.hub.contexts = m.hub.contexts ++ [{ id := m.hub.nextId }] ∧
      r.hub.nextId = m.hub.nextId + 1
  frames : (∃ reply, r.frames = answered reply m.frames) ∨
    (∃ target call count, r.frames = .racing target call count [] :: m.frames) ∨
    ∃ signal line before, r.frames = .dispatching signal line 0 before :: m.frames

theorem Idle.answer {hub : Hub Callback} (handles : List (String × Nat))
    (nodes : List (String × Node)) (hcontexts : hub.contexts = m.hub.contexts)
    (hnext : hub.nextId = m.hub.nextId) (reply : Reply) :
    Idle m ({ m with hub, handles, nodes }.answer reply) :=
  ⟨.inl (by simpa using ⟨hcontexts, hnext⟩), .inl ⟨reply, by rw [answer_eq]⟩⟩

theorem Idle.answer_fresh {hub : Hub Callback} (handles : List (String × Nat))
    (nodes : List (String × Node))
    (hcontexts : hub.contexts = m.hub.contexts ++ [{ id := m.hub.nextId }])
    (hnext : hub.nextId = m.hub.nextId + 1) (reply : Reply) :
    Idle m ({ m with hub, handles, nodes }.answer reply) :=
  ⟨.inr (by simpa using ⟨hcontexts, hnext⟩), .inl ⟨reply, by rw [answer_eq]⟩⟩

theorem Idle.plain (m : Machine) (reply : Reply) : Idle m (m.answer reply) :=
  .answer m.handles m.nodes rfl rfl reply

theorem idle_startDispatch (m : Machine) (before : Option Nat) :
    Idle m (m.startDispatch before) := by
  unfold startDispatch
  split
  · exact .plain m _
  · exact ⟨.inl ⟨rfl, rfl⟩, .inr (.inr ⟨_, _, _, rfl⟩)⟩

theorem idle_raise (m : Machine) (signal : Signal) : Idle m (m.raise signal) := by
  have hnext : (m.hub.deliver signal).nextId = m.hub.nextId := by
    rcases Hub.deliver_cases m.hub signal with ⟨-, heq⟩ | ⟨label, -, heq⟩ <;> rw [heq]
  unfold raise
  split
  · exact .plain m _
  · split
    · exact .answer m.handles m.nodes (Hub.contexts_deliver ..) hnext _
    · split
      · exact .plain m _
      · obtain ⟨hub, frames⟩ := idle_startDispatch { m with hub := m.hub.deliver signal }
          (some m.hub.received.length)
        simp only [Hub.contexts_deliver, hnext] at hub
        exact ⟨hub, frames⟩

theorem withHandle_of_some {handle : String} {act : Nat → Machine} {id : Nat}
    (h : m.handles.lookup handle = some id) : m.withHandle handle act = act id := by
  simp only [withHandle, h]

theorem withHandle_of_none {handle : String} {act : Nat → Machine}
    (h : m.handles.lookup handle = none) :
    m.withHandle handle act = m.answer (.refused "no such handle") := by
  simp only [withHandle, h]

theorem withTarget_of_some {target : Option String} {act : Option Nat → Machine} {t : Option Nat}
    (h : m.target? target = some t) : m.withTarget target act = act t := by
  cases target with
  | none =>
    obtain rfl : none = t := Option.some.inj h
    rfl
  | some handle =>
    obtain ⟨id, hid, rfl⟩ := Option.map_eq_some_iff.1 h
    exact withHandle_of_some hid

theorem withTarget_of_none {target : Option String} {act : Option Nat → Machine}
    (h : m.target? target = none) :
    m.withTarget target act = m.answer (.refused "no such handle") := by
  cases target with
  | none => exact absurd h (by simp [target?])
  | some handle => exact withHandle_of_none (Option.map_eq_none_iff.1 h)

/-- An operation that makes a call is the call. -/
theorem execute_of_call {op : Op} {call : Call} (h : m.callOf? op = some call) :
    m.execute op = m.serve call := by
  cases op with
  | init target keepAs options =>
    obtain ⟨t, ht, rfl⟩ := Option.map_eq_some_iff.1 h
    rw [execute, withTarget_of_some ht, serve]
  | shutdown target tolerant =>
    obtain ⟨t, ht, rfl⟩ := Option.map_eq_some_iff.1 h
    rw [execute, withTarget_of_some ht, serve]
  | shutdownAwaited handle =>
    obtain ⟨id, hid, hcall⟩ := Option.bind_eq_some_iff.1 h
    split at hcall
    · next hstarts =>
      obtain rfl := Option.some.inj hcall
      exact (withHandle_of_some hid).trans (if_pos hstarts)
    · exact absurd hcall (by simp)
  | onShutdown handle label body =>
    obtain ⟨id, hid, rfl⟩ := Option.map_eq_some_iff.1 h
    exact withHandle_of_some hid
  | createNode target name ns keepAs =>
    obtain ⟨t, ht, rfl⟩ := Option.map_eq_some_iff.1 h
    rw [execute, withTarget_of_some ht, serve]
  | ask question handle =>
    obtain ⟨id, hid, rfl⟩ := Option.map_eq_some_iff.1 h
    exact withHandle_of_some hid
  | defaultOk =>
    obtain rfl := Option.some.inj h
    rfl
  | _ => exact absurd h (by simp [callOf?])

/-- An operation that makes no call leaves the contexts alone. -/
theorem idle_execute {op : Op} (h : m.callOf? op = none) : Idle m (m.execute op) := by
  have onHandle : ∀ (handle : String) (act : Nat → Machine),
      (∀ id, m.handles.lookup handle = some id → Idle m (act id)) →
      Idle m (m.withHandle handle act) := fun handle act hact => by
    unfold withHandle
    split
    · next id hid => exact hact id hid
    · exact .plain m _
  cases op with
  | create handle => exact .answer_fresh _ m.nodes rfl rfl _
  | clone source handle =>
    exact onHandle source _ fun id _ => .answer _ m.nodes rfl rfl _
  | drop handle => exact .answer _ m.nodes rfl rfl _
  | useDefault handle =>
    simp only [execute, contextFor]
    rcases Hub.defaultContext_cases m.hub with ⟨id, -, -, heq⟩ | ⟨-, heq⟩ <;> rw [heq]
    · exact .answer _ m.nodes rfl rfl _
    · exact .answer_fresh _ m.nodes rfl rfl _
  | ask question handle =>
    exact onHandle handle _ fun id _ => .plain m _
  | defaultOk => exact absurd h (by simp [callOf?])
  | init target keepAs options =>
    rw [execute, withTarget_of_none (Option.map_eq_none_iff.1 h)]
    exact .plain m _
  | shutdown target tolerant =>
    rw [execute, withTarget_of_none (Option.map_eq_none_iff.1 h)]
    exact .plain m _
  | shutdownAwaited handle =>
    refine onHandle handle _ fun id hid => ?_
    simp only [callOf?, hid, Option.bind_some] at h
    split at h
    · exact absurd h (by simp)
    · next hwaits =>
      rw [if_neg hwaits]
      exact .plain m _
  | race target call count =>
    simp only [execute]
    unfold withTarget
    have pushed : ∀ t : Option Nat,
        Idle m { m with frames := .racing t call count [] :: m.frames } :=
      fun t => ⟨.inl ⟨rfl, rfl⟩, .inr (.inl ⟨t, call, count, rfl⟩)⟩
    split
    · exact onHandle _ _ fun id _ => pushed (some id)
    · exact pushed none
  | onShutdown handle label body =>
    rw [execute, withHandle_of_none (Option.map_eq_none_iff.1 h)]
    exact .plain m _
  | createNode target name ns keepAs =>
    rw [execute, withTarget_of_none (Option.map_eq_none_iff.1 h)]
    exact .plain m _
  | nodeInfo node =>
    simp only [execute]
    split <;> exact .plain m _
  | dropNode node => exact .answer m.handles _ rfl rfl _
  | raise signal => exact idle_raise m signal
  | takePending =>
    let hub := { m.hub with pending := none }
    exact .answer m.handles m.nodes (rfl : hub.contexts = m.hub.contexts) rfl _
  | dispatch => exact idle_startDispatch m none
  | handlers | owner | pending | waitSignal | malformed | unreadable => exact .plain m _

/-! ## The call of a step -/

/-- The machine as it waits for the answer to what its innermost program or race does next. -/
def caller (m : Machine) : Machine :=
  match m.frames with
  | .script label (_ :: rest) replies :: below =>
    { m with frames := .script label rest replies :: below }
  | .racing target call (rest + 1) replies :: below =>
    { m with frames := .racing target call rest replies :: below }
  | _ => m

/-- The call that the next step makes. -/
def call? (m : Machine) : Option Call :=
  match m.frames with
  | .script _ (op :: _) _ :: _ => m.caller.callOf? op
  | .racing target call (_ + 1) _ :: _ => some (callOfRace target call)
  | _ => none

@[simp] theorem hub_caller (m : Machine) : m.caller.hub = m.hub := by
  unfold caller
  split <;> rfl

@[simp] theorem handles_caller (m : Machine) : m.caller.handles = m.handles := by
  unfold caller
  split <;> rfl

/-- A program executes its next operation. -/
theorem step_of_script {label : Option String} {op : Op} {rest : List Op} {replies : List Reply}
    {below : List Frame} (hframes : m.frames = .script label (op :: rest) replies :: below) :
    m.step = (m.caller.execute op).collect := by
  rw [step_of_advance hframes rfl]
  simp only [caller, hframes, advance]

/-- A step that makes a call. -/
theorem step_of_call {call : Call} (h : m.call? = some call) :
    m.step = (m.caller.serve call).collect := by
  unfold call? at h
  split at h
  · next label op rest replies below hframes => rw [step_of_script hframes, execute_of_call h]
  · next target racing rest replies below hframes =>
    obtain rfl := Option.some.inj h
    rw [step_of_advance hframes rfl, ← makeCall_eq]
    simp only [caller, hframes, advance]
  · exact absurd h (by simp)

/-- The next call is made by a frame that asks for something. -/
theorem exists_asks_of_call {call : Call} (h : m.call? = some call) :
    ∃ f below, m.frames = f :: below ∧ f.asks = true := by
  unfold call? at h
  split at h
  · next hframes => exact ⟨_, _, hframes, rfl⟩
  · next hframes => exact ⟨_, _, hframes, rfl⟩
  · exact absurd h (by simp)

/-! ## What a call names -/

theorem target_of_callOf? {op : Op} {call : Call} (h : m.callOf? op = some call) {id : Nat}
    (hid : call.target? = some id) : ∃ name, (name, id) ∈ m.handles := by
  have onTarget : ∀ {target : Option String} {t : Option Nat}, m.target? target = some t →
      t = some id → ∃ name, (name, id) ∈ m.handles := by
    rintro (_ | handle) t ht rfl
    · exact absurd ht (by simp [target?])
    · obtain ⟨id', hlookup, heq⟩ := Option.map_eq_some_iff.1 ht
      exact ⟨handle, mem_of_lookup (Option.some.inj heq ▸ hlookup)⟩
  cases op with
  | init target keepAs o =>
    obtain ⟨t, ht, rfl⟩ := Option.map_eq_some_iff.1 h
    exact onTarget ht hid
  | shutdown target tolerant =>
    obtain ⟨t, ht, rfl⟩ := Option.map_eq_some_iff.1 h
    exact onTarget ht hid
  | shutdownAwaited handle =>
    obtain ⟨id', hlookup, hcall⟩ := Option.bind_eq_some_iff.1 h
    split at hcall
    · obtain rfl := Option.some.inj hcall
      exact ⟨handle, mem_of_lookup (Option.some.inj hid ▸ hlookup)⟩
    · exact absurd hcall (by simp)
  | onShutdown handle label body =>
    obtain ⟨id', hlookup, rfl⟩ := Option.map_eq_some_iff.1 h
    exact ⟨handle, mem_of_lookup (Option.some.inj hid ▸ hlookup)⟩
  | createNode target name ns keepAs =>
    obtain ⟨t, ht, rfl⟩ := Option.map_eq_some_iff.1 h
    exact onTarget ht hid
  | ask question handle =>
    obtain ⟨id', hlookup, rfl⟩ := Option.map_eq_some_iff.1 h
    exact ⟨handle, mem_of_lookup (Option.some.inj hid ▸ hlookup)⟩
  | defaultOk =>
    obtain rfl := Option.some.inj h
    exact absurd hid (by simp [Call.target?])
  | _ => exact absurd h (by simp [callOf?])

/-- A context that the next call names was given out. -/
theorem Reachable.target_lt (h : m.Reachable) {call : Call} (hcall : m.call? = some call) {id : Nat}
    (hid : call.target? = some id) : id < m.hub.nextId := by
  unfold call? at hcall
  split at hcall
  · obtain ⟨name, hname⟩ := target_of_callOf? hcall hid
    rw [handles_caller] at hname
    exact Hub.lt_nextId_of_isSome h.numbered (h.grounded.handles _ hname)
  · next target racing rest replies below hframes =>
    obtain rfl := Option.some.inj hcall
    have hframe := h.grounded.frames (.racing target racing (rest + 1) replies) (by simp [hframes])
    cases racing <;> exact hframe id hid
  · exact absurd hcall (by simp)

theorem grounded_caller (h : m.Grounded) : m.caller.Grounded := by
  unfold caller
  split
  · next label op rest replies below hframes =>
    have hbelow := (List.forall_mem_cons.1 (hframes ▸ h.frames)).2
    exact ⟨h.handles, h.nodes, h.slot, List.forall_mem_cons.2 ⟨trivial, hbelow⟩⟩
  · next target call rest replies below hframes =>
    obtain ⟨hrace, hbelow⟩ := List.forall_mem_cons.1 (hframes ▸ h.frames)
    exact ⟨h.handles, h.nodes, h.slot, List.forall_mem_cons.2 ⟨hrace, hbelow⟩⟩
  · exact h

/-! ## Steps without a call -/

/-- The end of a dispatch leaves the contexts alone. -/
theorem Concluded.contexts {signal : Signal} {before : Option Nat} {r : Machine}
    (h : Concluded m signal before r) :
    r.hub.contexts = m.hub.contexts ∧ r.hub.nextId = m.hub.nextId := by
  cases h with
  | report next he => exact ⟨rfl, rfl⟩
  | raise => exact ⟨Hub.contexts_deliver m.hub signal, Hub.nextId_deliver m.hub signal⟩
  | record reply => simp [Hub.noteDelivered]

/-- A frame that asks for nothing leaves the contexts alone. -/
theorem contexts_advance (m : Machine) {f : Frame} (hf : f.asks = false) :
    (m.advance f).hub.contexts = m.hub.contexts ∧ (m.advance f).hub.nextId = m.hub.nextId := by
  fun_cases advance m f with
  | case1 | case8 | case9 | case12 => exact absurd hf (by simp [Frame.asks])
  | case6 id =>
    refine ⟨Hub.contexts_releaseDefault m.hub id, ?_⟩
    unfold Hub.releaseDefault
    split <;> rfl
  | case7 | case13 => simp
  | case11 next signal before => exact (concluded_conclude m signal before next).contexts
  | _ => exact ⟨rfl, rfl⟩

/-- A frame that asks for nothing makes no call. -/
theorem call?_of_pass {f : Frame} {below : List Frame} (hframes : m.frames = f :: below)
    (hasks : f.asks = false) : m.call? = none := by
  rw [call?, hframes]
  cases f with
  | script label ops replies =>
    cases ops with
    | nil => rfl
    | cons op rest => exact absurd hasks (by simp [Frame.asks])
  | racing target racing left replies =>
    cases left with
    | zero => rfl
    | succ left => exact absurd hasks (by simp [Frame.asks])
  | _ => rfl

/-! ## What a step does -/

/-- What a step leads to, apart from what is freed then. -/
inductive Stepped (m : Machine) : Machine → Prop where
  | call {call : Call} (h : m.call? = some call) : Stepped m (m.caller.serve call)
  /-- A program goes on without a call. -/
  | idle {r : Machine} (hcall : m.call? = none) (h : Idle m.caller r)
      (hframes : ∃ label op rest replies below,
        m.frames = .script label (op :: rest) replies :: below) : Stepped m r
  /-- A dispatch passes over a context that is not initialized. -/
  | skip {signal : Signal} {id count : Nat} {line : List Nat} {before : Option Nat}
      {below : List Frame}
      (hframes : m.frames = .dispatching signal (id :: line) count before :: below)
      (h : m.hub.beginShutdown id = .error .notInitialized) :
      Stepped m { m with frames := .dispatching signal line count before :: below }
  /-- A dispatch shuts a context down. -/
  | shut {signal : Signal} {id count : Nat} {line : List Nat} {before : Option Nat}
      {below : List Frame} {callbacks : List Callback} {hub : Hub Callback}
      (hframes : m.frames = .dispatching signal (id :: line) count before :: below)
      (h : m.hub.beginShutdown id = .ok (callbacks, hub)) :
      Stepped m { m with
        hub
        frames := .shutting id callbacks :: .dispatching signal line (count + 1) before :: below }
  /-- A frame goes on that asks for nothing. -/
  | pass {f : Frame} {below : List Frame} (hframes : m.frames = f :: below)
      (hasks : f.asks = false) : Stepped m (({ m with frames := below } : Machine).advance f)

/-- **What a step does.** -/
theorem exists_stepped (hwork : m.frames ≠ []) :
    ∃ r : Machine, m.step = r.collect ∧ Stepped m r ∧ ReflTransGen Hub.Move m.hub r.hub := by
  obtain ⟨f, below, hframes⟩ := List.exists_cons_of_ne_nil hwork
  refine ⟨_, step_of_advance hframes rfl, ?_, moves_advance { m with frames := below } f⟩
  by_cases hasks : f.asks = true
  · cases f with
    | script label ops replies =>
      cases ops with
      | nil => exact absurd hasks (by simp [Frame.asks])
      | cons op rest =>
        have hadvance : ({ m with frames := below } : Machine).advance
            (.script label (op :: rest) replies) = m.caller.execute op := by
          simp only [caller, hframes, advance]
        rw [hadvance]
        cases hcall : m.caller.callOf? op with
        | some call =>
          rw [execute_of_call hcall]
          exact .call (by simpa only [call?, hframes] using hcall)
        | none =>
          exact .idle (by simpa only [call?, hframes] using hcall) (idle_execute hcall)
            ⟨label, op, rest, replies, below, hframes⟩
    | dispatching signal line count before =>
      cases line with
      | nil => exact absurd hasks (by simp [Frame.asks])
      | cons id line =>
        cases hb : m.hub.beginShutdown id with
        | error e =>
          obtain ⟨-, rfl⟩ := Hub.beginShutdown_eq_error hb
          have hadvance : ({ m with frames := below } : Machine).advance
              (.dispatching signal (id :: line) count before)
              = { m with frames := .dispatching signal line count before :: below } :=
            advance_dispatching_of_error hb
          rw [hadvance]
          exact .skip hframes hb
        | ok started =>
          obtain ⟨callbacks, hub⟩ := started
          have hadvance : ({ m with frames := below } : Machine).advance
              (.dispatching signal (id :: line) count before)
              = { m with
                hub
                frames := .shutting id callbacks
                  :: .dispatching signal line (count + 1) before :: below } :=
            advance_dispatching_of_ok hb
          rw [hadvance]
          exact .shut hframes hb
    | racing target racing left replies =>
      cases left with
      | zero => exact absurd hasks (by simp [Frame.asks])
      | succ left =>
        have hadvance : ({ m with frames := below } : Machine).advance
            (.racing target racing (left + 1) replies) = m.caller.makeCall target racing := by
          simp only [caller, hframes, advance]
        rw [hadvance, makeCall_eq]
        exact .call (by simp only [call?, hframes])
    | shutting | releasing | returning | concluding =>
      exact absurd hasks (by simp [Frame.asks])
  · exact .pass hframes (by simpa using hasks)

end Machine
end RobotClient
