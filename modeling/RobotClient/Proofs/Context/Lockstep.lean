import Mathlib.Data.List.Forall2
import RobotClient.Proofs.Context.Runs

set_option autoImplicit false

/-! # Lockstep

Two machines that have the same names and the same work, and hubs that no operation tells apart, do
the same, step after step. What "no operation tells apart" means is `Congruence`: the hubs look
alike, but for the answers to some odd questions, and every operation leads to hubs of the same
kind. The work is the same up to replies, since a machine never reads a reply (`Matched`). So
whoever relates two hubs proves the congruence, and the machines follow: `Matched.run` for whole
runs, and `Same` for what a single step puts on the two stacks. -/

namespace RobotClient

/-! ## Hubs that cannot be told apart -/

namespace Hub

/-- The context that a shutdown closes, its callbacks, and the hub with it closed, unless the
    shutdown is refused. -/
def closing? {κ : Type} (p : Hub κ) (target : Option Nat) : Option (Nat × List κ × Hub κ) :=
  (target.or p.slot).bind fun id =>
    match p.beginShutdown id with
    | .ok (callbacks, q) => some (id, callbacks, q)
    | .error _ => none

/-- What machines read off two hubs is the same, except for the answers to odd questions. -/
structure Looks (odd : Nat → Question → Prop) (p q : Hub Callback) : Prop where
  nextId : q.nextId = p.nextId
  table : q.table = p.table
  dispositions : q.dispositions = p.dispositions
  pending : q.pending = p.pending
  delivered : q.delivered = p.delivered
  received : q.received = p.received
  liveContexts : q.liveContexts = p.liveContexts
  isInitialized : ∀ id, q.isInitialized id = p.isInitialized id
  defaultIsInitialized : q.defaultIsInitialized = p.defaultIsInitialized
  reply : ∀ id question, ¬ odd id question →
    Machine.reply q id question = Machine.reply p id question

end Hub

/-- Whether related hubs look the same, except for odd questions, and whatever is done to both leads
    to the same outcome and to related hubs. -/
structure Congruence (odd : Nat → Question → Prop) (R : Hub Callback → Hub Callback → Prop) :
    Prop where
  looks : ∀ {p q}, R p q → Hub.Looks odd p q
  create : ∀ {p q}, R p q → R p.create.2 q.create.2
  defaultContext : ∀ {p q}, R p q → q.defaultContext.1 = p.defaultContext.1 ∧
    R p.defaultContext.2 q.defaultContext.2
  init : ∀ {p q}, R p q → ∀ id o,
    (∃ e, p.init id o = .error e ∧ q.init id o = .error e) ∨
    ∃ p' q', p.init id o = .ok p' ∧ q.init id o = .ok q' ∧ R p' q'
  closing : ∀ {p q}, R p q → ∀ target,
    (p.closing? target = none ∧ q.closing? target = none) ∨
    ∃ id callbacks p' q', p.closing? target = some (id, callbacks, p') ∧
      q.closing? target = some (id, callbacks, q') ∧ R p' q'
  onShutdown : ∀ {p q}, R p q → ∀ id callback,
    (q.onShutdown id callback).1 = (p.onShutdown id callback).1 ∧
    R (p.onShutdown id callback).2 (q.onShutdown id callback).2
  createNode : ∀ {p q}, R p q → ∀ id name ns,
    (∃ e, p.createNode id name ns = .error e ∧ q.createNode id name ns = .error e) ∨
    ∃ node p' q', p.createNode id name ns = .ok (node, p') ∧
      q.createNode id name ns = .ok (node, q') ∧ R p' q'
  releaseDefault : ∀ {p q}, R p q → ∀ id, R (p.releaseDefault id) (q.releaseDefault id)
  finishShutdown : ∀ {p q}, R p q → ∀ id, R (p.finishShutdown id) (q.finishShutdown id)
  report : ∀ {p q}, R p q → ∀ {event : Event}, event.tellsDispatch = true →
    R (p.emit event) (q.emit event)
  noteDelivered : ∀ {p q}, R p q → ∀ signal, R (p.noteDelivered signal) (q.noteDelivered signal)
  takePending : ∀ {p q}, R p q → R { p with pending := none } { q with pending := none }
  deliver : ∀ {p q}, R p q → ∀ signal, R (p.deliver signal) (q.deliver signal)
  tick : ∀ {p q}, R p q → ∀ clock, R { p with clock } { q with clock }
  handle : ∀ {p q}, R p q → p.table = none → ∀ signal label,
    R { p with dispositions := p.dispositions.set signal (.host label) }
      { q with dispositions := q.dispositions.set signal (.host label) }
  collect : ∀ {m m' : Machine}, R m.hub m'.hub → m'.handles = m.handles → m'.nodes = m.nodes →
    (∀ id, m'.frames.any (Machine.Frame.holds id) = m.frames.any (Machine.Frame.holds id)) →
    R m.collect.hub m'.collect.hub

theorem Congruence.about {odd : Nat → Question → Prop} {R : Hub Callback → Hub Callback → Prop}
    (hR : Congruence odd R) {p q : Hub Callback} (h : R p q) (target : Option Nat) :
    (q.about target).1 = (p.about target).1 ∧ R (p.about target).2 (q.about target).2 := by
  cases target with
  | some id => exact ⟨rfl, h⟩
  | none => exact hR.defaultContext h

/-- A hub cannot be told apart from itself. -/
theorem Congruence.eq : Congruence (fun _ _ => False) fun p q => q = p where
  looks := by
    rintro p q rfl
    exact ⟨rfl, rfl, rfl, rfl, rfl, rfl, rfl, fun _ => rfl, rfl, fun _ _ _ => rfl⟩
  create := by rintro p q rfl; rfl
  defaultContext := by rintro p q rfl; exact ⟨rfl, rfl⟩
  init := by
    rintro p q rfl id o
    cases q.init id o with
    | error e => exact .inl ⟨e, rfl, rfl⟩
    | ok p' => exact .inr ⟨p', p', rfl, rfl, rfl⟩
  closing := by
    rintro p q rfl target
    cases q.closing? target with
    | none => exact .inl ⟨rfl, rfl⟩
    | some closed =>
      obtain ⟨id, callbacks, p'⟩ := closed
      exact .inr ⟨id, callbacks, p', p', rfl, rfl, rfl⟩
  onShutdown := by rintro p q rfl id callback; exact ⟨rfl, rfl⟩
  createNode := by
    rintro p q rfl id name ns
    cases q.createNode id name ns with
    | error e => exact .inl ⟨e, rfl, rfl⟩
    | ok made =>
      obtain ⟨node, p'⟩ := made
      exact .inr ⟨node, p', p', rfl, rfl, rfl⟩
  releaseDefault := by rintro p q rfl id; rfl
  finishShutdown := by rintro p q rfl id; rfl
  report := by rintro p q rfl event -; rfl
  noteDelivered := by rintro p q rfl signal; rfl
  takePending := by rintro p q rfl; rfl
  deliver := by rintro p q rfl signal; rfl
  tick := by rintro p q rfl clock; rfl
  handle := by rintro p q rfl - signal label; rfl
  collect := by
    intro m m' hhub hhandles hnodes hframes
    have hheld : ∀ id, m'.held id = m.held id := fun id => by
      rw [Machine.held, Machine.held, hhub, hhandles, hnodes, hframes]
    have hunheld : m'.unheld = m.unheld := by
      rw [Machine.unheld, Machine.unheld, hhub]
      exact List.filter_congr fun id _ => by rw [hheld]
    change m'.unheld.foldl Hub.free m'.hub = m.unheld.foldl Hub.free m.hub
    rw [hunheld, hhub]

/-- What a frame leaves on the stack while it goes on with an operation or a call. -/
def Frame.lowered : Frame → List Frame
  | .script label (_ :: rest) replies => [.script label rest replies]
  | .racing target call (rest + 1) replies => [.racing target call rest replies]
  | _ => []

/-- Whether a frame is about to give an answer, to get one, or to start what will give one. -/
def Frame.calls : Frame → Bool
  | .script _ (_ :: _) _ | .returning _ | .dispatching .. | .concluding .. | .racing .. => true
  | _ => false

/-- Whether a frame is about to ask an odd question. -/
def Frame.AsksOdd (odd : Nat → Question → Prop) (handles : List (String × Nat)) : Frame → Prop
  | .script _ (.ask question handle :: _) _ =>
    ∃ id, handles.lookup handle = some id ∧ odd id question
  | _ => False

/-- Two frames that are the same, up to the replies of a program. -/
inductive Frame.Matched (S : List Reply → List Reply → Prop) : Frame → Frame → Prop where
  | same (f : Frame) : Matched S f f
  | script (label : Option String) (rest : List Op) {xs ys : List Reply} (h : S xs ys) :
    Matched S (.script label rest xs) (.script label rest ys)

/-- Whether a frame answers the one below when it is done. -/
def Frame.owes : Frame → Bool
  | .returning _ | .dispatching .. | .concluding .. | .racing .. => true
  | _ => false

namespace Machine

variable {odd : Nat → Question → Prop} {R : Hub Callback → Hub Callback → Prop}
  {m m' r r' : Machine}

/-! ## The same change of two stacks -/

/-- Whether frames answer the ones below when they are done. -/
def Answering (frames : List Frame) : Prop :=
  ∃ front last, frames = front ++ [last] ∧ last.owes = true

/-- Whether two stacks come from others by the same change: both get an answer, or both get the same
    frames on top, which owe an answer if `called`. -/
inductive Changed (called : Prop) (base base' : List Frame) : List Frame → List Frame → Prop where
  | answer (reply : Reply) :
    Changed called base base' (answered reply base) (answered reply base')
  | push (new : List Frame) (h : called → Answering new) :
    Changed called base base' (new ++ base) (new ++ base')

/-- Whether two machines come from others by the same change: the hubs are related, the names are
    the same, and so is what happens to the stacks. -/
structure Same (R : Hub Callback → Hub Callback → Prop) (called : Prop) (base base' : List Frame)
    (r r' : Machine) : Prop where
  hub : R r.hub r'.hub
  handles : r'.handles = r.handles
  nodes : r'.nodes = r.nodes
  frames : Changed called base base' r.frames r'.frames

/-- Whether an operation finds the same in two machines, apart from the replies in the frames. -/
structure Paired (R : Hub Callback → Hub Callback → Prop) (m m' : Machine) : Prop where
  hub : R m.hub m'.hub
  handles : m'.handles = m.handles
  nodes : m'.nodes = m.nodes
  inCallback : m'.inCallback = m.inCallback

variable {called : Prop}

theorem Same.answer {hub hub' : Hub Callback} {handles handles' : List (String × Nat)}
    {nodes nodes' : List (String × Node)} (hhub : R hub hub') (hhandles : handles' = handles)
    (hnodes : nodes' = nodes) (reply : Reply) :
    Same R called m.frames m'.frames ({ m with hub, handles, nodes }.answer reply)
      ({ m' with hub := hub', handles := handles', nodes := nodes' }.answer reply) := by
  rw [answer_eq, answer_eq]
  exact ⟨hhub, hhandles, hnodes, .answer reply⟩

theorem Same.push {hub hub' : Hub Callback} (h : Paired R m m') (hhub : R hub hub')
    (new : List Frame) (hnew : called → Answering new) :
    Same R called m.frames m'.frames { m with hub, frames := new ++ m.frames }
      { m' with hub := hub', frames := new ++ m'.frames } :=
  ⟨hhub, h.handles, h.nodes, .push new hnew⟩

theorem Paired.answer (h : Paired R m m') (reply : Reply) :
    Same R called m.frames m'.frames (m.answer reply) (m'.answer reply) :=
  .answer h.hub h.handles h.nodes reply

theorem Paired.withHandle (h : Paired R m m') (handle : String) {act act' : Nat → Machine}
    (hact : ∀ id, m.handles.lookup handle = some id →
      Same R called m.frames m'.frames (act id) (act' id)) :
    Same R called m.frames m'.frames (m.withHandle handle act) (m'.withHandle handle act') := by
  unfold Machine.withHandle
  rw [h.handles]
  split
  · next id hid => exact hact id hid
  · exact h.answer _

theorem Paired.withTarget (h : Paired R m m') (target : Option String)
    {act act' : Option Nat → Machine}
    (hact : ∀ id, Same R called m.frames m'.frames (act id) (act' id)) :
    Same R called m.frames m'.frames (m.withTarget target act) (m'.withTarget target act') := by
  unfold Machine.withTarget
  split
  · exact h.withHandle _ fun id _ => hact _
  · exact hact _

/-! ## Operations -/

theorem answering_concat (front : List Frame) {last : Frame} (h : last.owes = true) :
    Answering (front ++ [last]) := ⟨front, last, rfl, h⟩

theorem advance_dispatching_eq (m : Machine) (signal : Signal) (id : Nat) (line : List Nat)
    (count : Nat) (before : Option Nat) :
    m.advance (.dispatching signal (id :: line) count before) =
      match m.hub.closing? (some id) with
      | none => { m with frames := .dispatching signal line count before :: m.frames }
      | some (id, callbacks, hub) =>
        { m with
          hub
          frames := .shutting id callbacks :: .dispatching signal line (count + 1) before
            :: m.frames } := by
  cases hb : m.hub.beginShutdown id with
  | error e =>
    rw [advance_dispatching_of_error hb]
    simp only [Hub.closing?, Option.some_or, Option.bind_some, hb]
  | ok started =>
    rw [advance_dispatching_of_ok hb]
    simp only [Hub.closing?, Option.some_or, Option.bind_some, hb]

theorem startShutdown_eq (m : Machine) (target : Option Nat) (tolerant : Bool) (reply : Reply) :
    m.startShutdown target tolerant reply =
      match m.hub.closing? target with
      | none => m.answer (if tolerant then reply else .failed .notInitialized)
      | some (id, callbacks, hub) =>
        { m with
          hub
          frames := (.shutting id callbacks :: (if target.isNone then [.releasing id] else []))
            ++ .returning reply :: m.frames } := by
  unfold startShutdown Hub.closing?
  cases target.or m.hub.slot with
  | none => rfl
  | some id =>
    cases hb : m.hub.beginShutdown id with
    | error e =>
      obtain ⟨-, rfl⟩ := Hub.beginShutdown_eq_error hb
      simp only [Option.bind_some, hb]
    | ok started => simp only [Option.bind_some, hb, List.cons_append]

section
variable (hR : Congruence odd R)
include hR

theorem Paired.initContext (h : Paired R m m') (target : Option Nat) (keepAs : Option String)
    (options : InitOptions) :
    Same R called m.frames m'.frames (m.initContext target keepAs options)
      (m'.initContext target keepAs options) := by
  obtain ⟨hid, habout⟩ := hR.about h.hub target
  simp only [Machine.initContext, contextFor_about, hid]
  rcases hR.init habout (m.hub.about target).1 options with
    ⟨e, he, he'⟩ | ⟨p, q, hp, hq, hpq⟩
  · rw [he, he']
    exact .answer habout h.handles h.nodes _
  · rw [hp, hq]
    exact .answer hpq (by rw [h.handles]) h.nodes _

theorem Paired.startShutdown (h : Paired R m m') (target : Option Nat) (tolerant : Bool)
    (reply : Reply) :
    Same R called m.frames m'.frames (m.startShutdown target tolerant reply)
      (m'.startShutdown target tolerant reply) := by
  rw [startShutdown_eq, startShutdown_eq]
  rcases hR.closing h.hub target with ⟨hnone, hnone'⟩ | ⟨id, callbacks, p, q, hp, hq, hpq⟩
  · rw [hnone, hnone']
    exact h.answer _
  · rw [hp, hq]
    have hpush : Same R called m.frames m'.frames _ _ := .push h hpq
      ((.shutting id callbacks :: (if target.isNone then [.releasing id] else []))
        ++ [.returning reply]) fun _ => answering_concat _ rfl
    simpa using hpush

theorem Paired.createNode (h : Paired R m m') (target : Option Nat) (name ns : String)
    (keepAs : Option String) :
    Same R called m.frames m'.frames (m.createNode target name ns keepAs)
      (m'.createNode target name ns keepAs) := by
  obtain ⟨hid, habout⟩ := hR.about h.hub target
  simp only [Machine.createNode, contextFor_about, hid]
  rcases hR.createNode habout (m.hub.about target).1 name ns with
    ⟨e, he, he'⟩ | ⟨node, p, q, hp, hq, hpq⟩
  · rw [he, he']
    exact .answer habout h.handles h.nodes _
  · rw [hp, hq]
    dsimp only
    rw [(hR.looks hpq).isInitialized]
    exact .answer hpq h.handles (by rw [h.nodes]) _

theorem Paired.startDispatch (h : Paired R m m') (before : Option Nat) :
    Same R called m.frames m'.frames (m.startDispatch before) (m'.startDispatch before) := by
  have looks := hR.looks h.hub
  unfold Machine.startDispatch
  rw [looks.pending]
  split
  · exact h.answer _
  · rw [looks.liveContexts]
    exact .push h (hR.takePending h.hub) [_] fun _ => answering_concat [] rfl

/-- A dispatch that looks for an owner finds the same one in both machines. -/
theorem Paired.conclude (h : Paired R m m') (signal : Signal) (before : Option Nat)
    (next : Conclusion) :
    Same R called m.frames m'.frames (m.conclude signal before next)
      (m'.conclude signal before next) := by
  have looks := hR.looks h.hub
  cases next with
  | check =>
    simp only [Machine.conclude, looks.table]
    split
    · exact .push h (hR.report h.hub rfl) [_] fun _ => answering_concat [] rfl
    · exact .push h (hR.report h.hub rfl) [_] fun _ => answering_concat [] rfl
  | raise => exact .push h (hR.deliver h.hub signal) [_] fun _ => answering_concat [] rfl
  | record =>
    simp only [Machine.conclude, looks.received]
    exact .answer (hR.noteDelivered h.hub signal) h.handles h.nodes _

theorem Paired.raise (h : Paired R m m') (signal : Signal) :
    Same R called m.frames m'.frames (m.raise signal) (m'.raise signal) := by
  have looks := hR.looks h.hub
  unfold Machine.raise
  rw [h.inCallback, looks.dispositions, looks.delivered, looks.received]
  split
  · exact h.answer _
  · split
    · exact .answer (hR.deliver h.hub signal) h.handles h.nodes _
    · split
      · exact h.answer _
      · have hdelivered : Paired R { m with hub := m.hub.deliver signal }
            { m' with hub := m'.hub.deliver signal } :=
          ⟨hR.deliver h.hub signal, h.handles, h.nodes, h.inCallback⟩
        exact Paired.startDispatch hR hdelivered _

theorem Paired.makeCall (h : Paired R m m') (target : Option Nat) (call : RacingCall) :
    Same R called m.frames m'.frames (m.makeCall target call) (m'.makeCall target call) := by
  cases call with
  | init options => exact h.initContext hR target none options
  | shutdown => exact h.startShutdown hR target false _

/-- **An operation** does the same to two machines, unless it asks an odd question. -/
theorem Paired.execute (h : Paired R m m') (op : Op)
    (hodd : ∀ question handle id, op = .ask question handle → m.handles.lookup handle = some id →
      ¬ odd id question) :
    Same R called m.frames m'.frames (m.execute op) (m'.execute op) := by
  have looks := hR.looks h.hub
  cases op with
  | create handle =>
    have hid : m'.hub.create.1 = m.hub.create.1 := looks.nextId
    simp only [Machine.execute, hid]
    exact .answer (hR.create h.hub) (by rw [h.handles]) h.nodes _
  | clone source handle =>
    exact h.withHandle _ fun id _ => .answer h.hub (by rw [h.handles]) h.nodes _
  | drop handle =>
    simp only [Machine.execute, h.handles]
    exact .answer h.hub rfl h.nodes _
  | useDefault handle =>
    obtain ⟨hid, habout⟩ := hR.about h.hub none
    simp only [Machine.execute, contextFor_about, hid]
    exact .answer habout (by rw [h.handles]) h.nodes _
  | ask question handle =>
    refine h.withHandle _ fun id hid => ?_
    rw [looks.reply id question (hodd question handle id rfl hid)]
    exact h.answer _
  | defaultOk =>
    simp only [Machine.execute, looks.defaultIsInitialized]
    exact h.answer _
  | init target keepAs options =>
    exact h.withTarget _ fun id => h.initContext hR id keepAs options
  | shutdown target tolerant =>
    exact h.withTarget _ fun id => h.startShutdown hR id tolerant _
  | shutdownAwaited handle =>
    refine h.withHandle _ fun id _ => ?_
    rw [looks.isInitialized, h.inCallback]
    split
    · exact h.startShutdown hR ..
    · exact h.answer _
  | race target call count =>
    exact h.withTarget target fun id =>
      .push h h.hub [.racing id call count []] fun _ => answering_concat [] rfl
  | onShutdown handle label body =>
    refine h.withHandle _ fun id _ => ?_
    obtain ⟨hcallback, hhub⟩ := hR.onShutdown h.hub id ⟨label, body⟩
    generalize m.hub.onShutdown id ⟨label, body⟩ = x at hcallback hhub
    generalize m'.hub.onShutdown id ⟨label, body⟩ = y at hcallback hhub
    obtain ⟨callback, p⟩ := x
    obtain ⟨callback', q⟩ := y
    obtain rfl : callback' = callback := hcallback
    cases callback' with
    | none => exact .answer hhub h.handles h.nodes _
    | some callback =>
      exact .push h hhub [.script (some callback.label) callback.body [], .returning (.ok .done)]
        fun _ => answering_concat [_] rfl
  | createNode target name ns keepAs =>
    exact h.withTarget _ fun id => h.createNode hR id name ns keepAs
  | nodeInfo node =>
    simp only [Machine.execute, h.nodes, looks.isInitialized]
    split <;> exact h.answer _
  | dropNode node =>
    simp only [Machine.execute, h.nodes]
    exact .answer h.hub h.handles rfl _
  | raise signal => exact h.raise hR signal
  | handlers =>
    simp only [Machine.execute, Hub.handlers, looks.table]
    exact h.answer _
  | owner =>
    simp only [Machine.execute, Hub.owner?, looks.table]
    exact h.answer _
  | pending =>
    simp only [Machine.execute, looks.pending]
    exact h.answer _
  | takePending =>
    simp only [Machine.execute, looks.pending]
    exact .answer (hR.takePending h.hub) h.handles h.nodes _
  | dispatch => exact h.startDispatch hR none
  | waitSignal =>
    simp only [Machine.execute, looks.delivered]
    exact h.answer _
  | malformed complaint => exact h.answer _
  | unreadable => exact h.answer _

end

/-! ## Machines in lockstep -/

/-- Two machines that cannot be told apart, up to the replies of programs and callbacks. -/
structure Matched (R : Hub Callback → Hub Callback → Prop) (S : List Reply → List Reply → Prop)
    (m m' : Machine) : Prop where
  hub : R m.hub m'.hub
  handles : m'.handles = m.handles
  nodes : m'.nodes = m.nodes
  frames : List.Forall₂ (Frame.Matched S) m.frames m'.frames
  finished : List.Forall₂ (fun f g => g.label = f.label ∧ S f.replies g.replies)
    m.finished m'.finished
  replies : S m.replies m'.replies

/-- Whether replies stay related when both programs get the same reply, or different answers to an
    odd question. -/
structure Records (odd : Nat → Question → Prop) (R : Hub Callback → Hub Callback → Prop)
    (S : List Reply → List Reply → Prop) : Prop where
  refl : ∀ xs, S xs xs
  append : ∀ {xs ys}, S xs ys → ∀ reply, S (xs ++ [reply]) (ys ++ [reply])
  odd : ∀ {p q id question xs ys}, R p q → odd id question → S xs ys →
    S (xs ++ [reply p id question]) (ys ++ [reply q id question])

variable {S : List Reply → List Reply → Prop} {f f' : Frame} {frames frames' : List Frame}

theorem matched_same (frames : List Frame) : List.Forall₂ (Frame.Matched S) frames frames :=
  List.forall₂_same.2 fun f _ => .same f

theorem any_of_matched {test : Frame → Bool} (h : List.Forall₂ (Frame.Matched S) frames frames')
    (htest : ∀ f f', Frame.Matched S f f' → test f' = test f) :
    frames'.any test = frames.any test := by
  induction h with
  | nil => rfl
  | cons hf _ ih => rw [List.any_cons, List.any_cons, htest _ _ hf, ih]

theorem Matched.paired (h : Matched R S m m') : Paired R m m' := by
  refine ⟨h.hub, h.handles, h.nodes, any_of_matched h.frames fun f f' hf => ?_⟩
  cases hf with
  | same f => rfl
  | script label rest hxs => cases label <;> rfl

theorem matched_lowered (hf : Frame.Matched S f f') :
    List.Forall₂ (Frame.Matched S) f.lowered f'.lowered := by
  cases hf with
  | same f => exact List.forall₂_same.2 fun f _ => .same f
  | script label ops hxs =>
    cases ops with
    | nil => exact .nil
    | cons op rest => exact .cons (.script label rest hxs) .nil

/-- More frames that are matched. -/
theorem Matched.onto (h : Matched R S m m')
    (hframes : List.Forall₂ (Frame.Matched S) frames frames') :
    Matched R S { m with frames := frames ++ m.frames }
      { m' with frames := frames' ++ m'.frames } :=
  ⟨h.hub, h.handles, h.nodes, List.rel_append hframes h.frames, h.finished, h.replies⟩

theorem matched_answered (hS : Records odd R S) (h : List.Forall₂ (Frame.Matched S) frames frames')
    (reply : Reply) :
    List.Forall₂ (Frame.Matched S) (answered reply frames) (answered reply frames') := by
  cases h with
  | nil => exact .nil
  | cons hf hrest =>
    cases hf with
    | script label rest hxs => exact .cons (.script label rest (hS.append hxs reply)) hrest
    | same =>
      obtain ⟨f', hf'⟩ := answered_cons reply _
      rw [hf', hf']
      exact .cons (.same f') hrest

theorem Changed.matched (hS : Records odd R S) (h : List.Forall₂ (Frame.Matched S) frames frames')
    {r r' : List Frame} (hchanged : Changed called frames frames' r r') :
    List.Forall₂ (Frame.Matched S) r r' := by
  cases hchanged with
  | answer reply => exact matched_answered hS h reply
  | push new hnew => exact List.rel_append (matched_same new) h

theorem exists_of_asksOdd {handles : List (String × Nat)} (h : f.AsksOdd odd handles) :
    ∃ label question handle rest xs id, f = .script label (.ask question handle :: rest) xs ∧
      handles.lookup handle = some id ∧ odd id question := by
  unfold Frame.AsksOdd at h
  split at h
  · obtain ⟨id, hlookup, hask⟩ := h
    exact ⟨_, _, _, _, _, id, rfl, hlookup, hask⟩
  · exact h.elim

theorem exists_of_matched_script (hS : Records odd R S) {label : Option String} {ops : List Op}
    {xs : List Reply} (hf : Frame.Matched S (.script label ops xs) f') :
    ∃ ys, f' = .script label ops ys ∧ S xs ys := by
  cases hf with
  | same => exact ⟨xs, rfl, hS.refl xs⟩
  | script label ops hxs => exact ⟨_, rfl, hxs⟩

section
variable (hR : Congruence odd R)
include hR

/-- **A frame** does the same to two machines, unless it asks an odd question. -/
theorem Matched.advance_same (h : Matched R S m m') (hf : Frame.Matched S f f')
    (hodd : ¬ f.AsksOdd odd m.handles) :
    Same R (f.calls = true) (f.lowered ++ m.frames) (f'.lowered ++ m'.frames)
      (m.advance f) (m'.advance f') := by
  have hpaired := h.paired
  -- programs may differ in their replies, all other frames are the same
  have script : ∀ (label : Option String) (ops : List Op) (xs ys : List Reply),
      Frame.Matched S (.script label ops xs) (.script label ops ys) →
      ¬ (Frame.script label ops xs).AsksOdd odd m.handles →
      Same R ((Frame.script label ops xs).calls = true)
        ((Frame.script label ops xs).lowered ++ m.frames)
        ((Frame.script label ops ys).lowered ++ m'.frames)
        (m.advance (.script label ops xs)) (m'.advance (.script label ops ys)) := by
    intro label ops xs ys hxs hodd
    cases ops with
    | nil =>
      have hpop : Changed ((Frame.script label [] xs).calls = true) m.frames m'.frames
          ([] ++ m.frames) ([] ++ m'.frames) :=
        .push [] fun hcalls => absurd hcalls (by simp [Frame.calls])
      cases label <;> exact ⟨h.hub, h.handles, h.nodes, hpop⟩
    | cons op rest =>
      refine Paired.execute hR (h.onto (matched_lowered hxs)).paired op ?_
      rintro question handle id rfl hlookup hask
      exact hodd ⟨id, hlookup, hask⟩
  cases hf with
  | script label ops hxs => exact script label ops _ _ (.script label ops hxs) hodd
  | same =>
    cases f with
    | script label ops xs => exact script label ops xs xs (.same _) hodd
    | shutting id callbacks =>
      cases callbacks with
      | nil =>
        exact ⟨hR.finishShutdown h.hub id, h.handles, h.nodes,
          .push [] fun hcalls => absurd hcalls (by simp [Frame.calls])⟩
      | cons callback rest =>
        exact .push hpaired h.hub
          [.script (some callback.label) callback.body [], .shutting id rest]
          fun hcalls => absurd hcalls (by simp [Frame.calls])
    | releasing id =>
      exact ⟨hR.releaseDefault h.hub id, h.handles, h.nodes,
        .push [] fun hcalls => absurd hcalls (by simp [Frame.calls])⟩
    | returning reply => exact hpaired.answer reply
    | dispatching signal line count before =>
      cases line with
      | nil =>
        exact .push hpaired (hR.report h.hub rfl) [.concluding .check signal before]
          fun _ => answering_concat [] rfl
      | cons id line =>
        rw [advance_dispatching_eq, advance_dispatching_eq]
        rcases hR.closing h.hub (some id) with ⟨hnone, hnone'⟩ | ⟨id, callbacks, p, q, hp, hq, hpq⟩
        · rw [hnone, hnone']
          exact .push hpaired h.hub [.dispatching signal line count before]
            fun _ => answering_concat [] rfl
        · rw [hp, hq]
          exact .push hpaired hpq
            [.shutting id callbacks, .dispatching signal line (count + 1) before]
            fun _ => answering_concat [_] rfl
    | concluding next signal before => exact hpaired.conclude hR signal before next
    | racing target call left replies =>
      cases left with
      | zero => exact hpaired.answer _
      | succ left =>
        exact Paired.makeCall hR (h.onto (matched_lowered (.same _))).paired target call

/-- A frame leads to machines in lockstep again, also if it asks an odd question. -/
theorem Matched.advance (hS : Records odd R S) (h : Matched R S m m')
    (hf : Frame.Matched S f f') : Matched R S (m.advance f) (m'.advance f') := by
  by_cases hodd : f.AsksOdd odd m.handles
  · obtain ⟨label, question, handle, rest, xs, id, rfl, hlookup, hask⟩ := exists_of_asksOdd hodd
    obtain ⟨ys, rfl, hxs⟩ := exists_of_matched_script hS hf
    have hlookup' : m'.handles.lookup handle = some id := by rw [h.handles, hlookup]
    simp only [Machine.advance, Machine.execute, withHandle, hlookup, hlookup', answer_eq]
    exact ⟨h.hub, h.handles, h.nodes, .cons (.script label rest (hS.odd h.hub hask hxs)) h.frames,
      h.finished, h.replies⟩
  · have hsame := h.advance_same hR hf hodd
    have hframes := hsame.frames.matched hS (List.rel_append (matched_lowered hf) h.frames)
    cases hends : f.ends with
    | true =>
      cases f with
      | script label ops xs =>
        cases ops with
        | cons op rest => exact absurd hends (by simp [Frame.ends])
        | nil =>
          obtain ⟨ys, rfl, hxs⟩ := exists_of_matched_script hS hf
          cases label with
          | none => exact ⟨h.hub, h.handles, h.nodes, h.frames, h.finished, hxs⟩
          | some label =>
            exact ⟨h.hub, h.handles, h.nodes, h.frames,
              List.rel_append h.finished (.cons ⟨rfl, hxs⟩ .nil), h.replies⟩
      | _ => exact absurd hends (by simp [Frame.ends])
    | false =>
      have hends' : f'.ends = false := by
        cases hf with
        | same => exact hends
        | script label ops hxs => cases ops <;> exact hends
      obtain ⟨hfinished, hreplies⟩ := records_advance m hends
      obtain ⟨hfinished', hreplies'⟩ := records_advance m' hends'
      exact ⟨hsame.hub, hsame.handles, hsame.nodes, hframes,
        by rw [hfinished, hfinished']; exact h.finished,
        by rw [hreplies, hreplies']; exact h.replies⟩

theorem Matched.collect (h : Matched R S m m') : Matched R S m.collect m'.collect := by
  have hholds : ∀ id, m'.frames.any (Frame.holds id) = m.frames.any (Frame.holds id) := fun id =>
    any_of_matched h.frames fun f f' hf => by cases hf <;> rfl
  exact ⟨hR.collect h.hub h.handles h.nodes hholds, h.handles, h.nodes, h.frames, h.finished,
    h.replies⟩

theorem Matched.step (hS : Records odd R S) (h : Matched R S m m') :
    Matched R S m.step m'.step := by
  unfold Machine.step
  -- both stacks have the same height, so both machines rest or both go on
  have hframes := h.frames
  generalize hf : m.frames = frames at hframes
  generalize hf' : m'.frames = frames' at hframes
  cases hframes with
  | nil => exact h
  | @cons f f' below below' hhead hbelow =>
    have hmatched : Matched R S { m with frames := below } { m' with frames := below' } :=
      ⟨h.hub, h.handles, h.nodes, hbelow, h.finished, h.replies⟩
    exact (hmatched.advance hR hS hhead).collect hR

theorem Matched.happen (hS : Records odd R S) (h : Matched R S m m') (happening : Happening) :
    Matched R S (m.happen happening) (m'.happen happening) := by
  cases happening with
  | work => exact h.step hR hS
  | call program =>
    exact ⟨h.hub, h.handles, h.nodes, .cons (.same _) h.frames, .nil, hS.refl []⟩
  | arrive signal =>
    exact ⟨hR.deliver h.hub signal, h.handles, h.nodes, h.frames, h.finished, h.replies⟩
  | tick clock =>
    exact ⟨hR.tick h.hub clock, h.handles, h.nodes, h.frames, h.finished, h.replies⟩
  | handle signal label =>
    -- the host is let in by both machines or by neither
    have htables := (hR.looks h.hub).table
    by_cases htable : m.hub.table = none
    · rw [Machine.happen, Machine.happen, if_pos htable, if_pos (htables.trans htable)]
      exact ⟨hR.handle h.hub htable signal label, h.handles, h.nodes, h.frames, h.finished,
        h.replies⟩
    · rw [Machine.happen, Machine.happen, if_neg htable, if_neg (htables ▸ htable)]
      exact h

/-- **Lockstep.** Machines that cannot be told apart stay so, whatever happens to both. -/
theorem Matched.run (hS : Records odd R S) (h : Matched R S m m') (happenings : List Happening) :
    Matched R S (m.run happenings) (m'.run happenings) := by
  induction happenings generalizing m m' with
  | nil => exact h
  | cons happening rest ih => exact ih (h.happen hR hS happening)

end

end Machine
end RobotClient
