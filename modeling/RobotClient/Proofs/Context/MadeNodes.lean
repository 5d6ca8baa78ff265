import RobotClient.Proofs.Context.Names

set_option autoImplicit false

/-! # The nodes of a run

The log of a hub has every node that its contexts made (`madeNodes`), and a change of a hub makes one
node at most (`Move.madeNodes`). A program gets hold of a node only by an operation that makes it,
so the nodes that it has names for are on record. Main statements: `Reachable.created`, that the
nodes on record are what contexts made of names and namespaces, and `Reachable.mem_madeNodes`, that
the nodes with names are on record. -/

namespace RobotClient

open Relation (ReflTransGen)

/-- Whether some context made the node of a name and a namespace that it was asked for. -/
def Node.Created (node : Node) : Prop :=
  ∃ (p q : Hub Callback) (id : Nat) (name ns : String), p.createNode id name ns = .ok (node, q)

/-! ## The nodes on record -/

/-- The node that an event tells of. -/
def Event.node? : Event → Option Node
  | .nodeCreated context name ns => some ⟨name, ns, context⟩
  | _ => none

namespace Hub

section

variable {κ : Type} {p q : Hub κ} {id : Nat}

/-- The nodes that were made, the first one first. -/
def madeNodes (p : Hub κ) : List Node := p.log.filterMap Event.node?

theorem madeNodes_of_log {events : List Event} (hlog : q.log = p.log ++ events)
    (hquiet : ∀ e ∈ events, e.node? = none) : q.madeNodes = p.madeNodes := by
  rw [madeNodes, hlog, List.filterMap_append, List.filterMap_eq_nil_iff.2 hquiet, List.append_nil,
    madeNodes]

theorem madeNodes_createNode {name ns : String} {node : Node}
    (h : p.createNode id name ns = .ok (node, q)) : q.madeNodes = p.madeNodes ++ [node] := by
  obtain ⟨arguments, -, hmake, rfl⟩ := createNode_eq_ok h
  have hcontext := context_of_make hmake
  simp only [madeNodes, List.filterMap_append, List.filterMap_cons, Event.node?,
    List.filterMap_nil, ← hcontext]

theorem madeNodes_install (p : Hub κ) (id : Nat) (options : HandlerOptions) :
    (p.install id options).2.madeNodes = p.madeNodes := by
  have hwatch : p.watch.madeNodes = p.madeNodes := by
    unfold watch
    split
    · rfl
    · exact madeNodes_of_log rfl (by simp [Event.node?])
  by_cases ho : options = .no
  · simp [install, ho]
  · cases ht : p.watch.table with
    | none =>
      simp only [install, if_neg ho, ht, ← hwatch]
      exact madeNodes_of_log rfl (by simp [Event.node?])
    | some t =>
      simp only [install, if_neg ho, ht, ← hwatch]
      exact madeNodes_of_log rfl (by simp [Event.node?])

theorem madeNodes_init {o : InitOptions} (h : p.init id o = .ok q) :
    q.madeNodes = p.madeNodes := by
  unfold init at h
  cases hp : p.prepare id o with
  | error e => simp [hp, Except.map] at h
  | ok found =>
    simp only [hp, Except.map, Except.ok.injEq] at h
    rw [← h, ← madeNodes_install p id (p.requestedHandlers id o)]
    exact madeNodes_of_log rfl (by simp [Event.node?])

/-- A change of a hub makes one node, or none. -/
theorem Move.madeNodes (h : Move p q) :
    q.madeNodes = p.madeNodes ∨
      ∃ id name ns node, p.createNode id name ns = .ok (node, q) := by
  cases h with
  | act ha =>
    cases ha with
    | create => exact .inl rfl
    | useDefault =>
      rcases defaultContext_cases p with ⟨id, -, -, heq⟩ | ⟨-, heq⟩ <;> rw [heq]
      · exact .inl rfl
      · exact .inl (madeNodes_of_log rfl (by simp [Event.node?]))
    | init hi => exact .inl (madeNodes_init hi)
    | releaseDefault id =>
      unfold releaseDefault
      split <;> exact .inl rfl
    | onShutdown id callback =>
      rcases onShutdown_cases p id callback with ⟨-, heq⟩ | ⟨-, heq⟩ <;> rw [heq] <;>
        exact .inl rfl
    | createNode hc => exact .inr ⟨_, _, _, _, hc⟩
  | beginShutdown hb =>
    obtain ⟨c, s, -, -, -, ⟨-, rfl⟩ | ⟨t, -, -, -, rfl⟩⟩ := beginShutdown_cases hb <;>
      exact .inl (madeNodes_of_log rfl (by simp [Event.node?]))
  | finishShutdown id => exact .inl (madeNodes_of_log rfl (by simp [Event.node?]))
  | free id =>
    rcases free_cases p id with ⟨-, heq⟩ | ⟨s, -, -, heq⟩ | ⟨s, t, -, -, -, -, heq⟩ <;> rw [heq]
    · exact .inl rfl
    · exact .inl (madeNodes_of_log rfl (by simp [Event.node?]))
    · exact .inl (madeNodes_of_log rfl (by simp [Event.node?]))
  | deliver signal =>
    rcases deliver_cases p signal with ⟨-, heq⟩ | ⟨label, -, heq⟩ <;> rw [heq] <;> exact .inl rfl
  | @report event he =>
    have hquiet : event.node? = none := by
      cases event <;> first | rfl | exact absurd he (by simp [Event.tellsDispatch])
    exact .inl (madeNodes_of_log rfl (by simpa using hquiet))
  | noteDelivered signal => exact .inl rfl
  | takePending => exact .inl rfl
  | tick clock => exact .inl rfl
  | handle signal label h => exact .inl rfl

end

variable {p q : Hub Callback}

/-- Nodes stay on record. -/
theorem subset_madeNodes (moves : ReflTransGen Move p q) : p.madeNodes ⊆ q.madeNodes := by
  induction moves with
  | refl => exact List.Subset.refl _
  | tail _ hm ih =>
    refine List.Subset.trans ih ?_
    rcases hm.madeNodes with heq | ⟨id, name, ns, node, hc⟩
    · rw [heq]
      exact List.Subset.refl _
    · rw [madeNodes_createNode hc]
      exact List.subset_append_left _ _

/-- Whether all nodes on record were made by a context. -/
def AllCreated (p : Hub Callback) : Prop := ∀ node ∈ p.madeNodes, node.Created

theorem AllCreated.move (h : p.AllCreated) (hm : Move p q) : q.AllCreated := by
  rcases hm.madeNodes with heq | ⟨id, name, ns, made, hc⟩
  · rw [AllCreated, heq]
    exact h
  · intro node hnode
    rw [madeNodes_createNode hc, List.mem_append, List.mem_singleton] at hnode
    rcases hnode with hnode | rfl
    · exact h node hnode
    · exact ⟨p, q, id, name, ns, hc⟩

end Hub

namespace Machine

variable {m : Machine}

/-! ## The nodes with names -/

/-- Whether every node that has a name after a change had one before or was made. -/
def Supplied (m r : Machine) : Prop :=
  ∀ entry ∈ r.nodes, entry ∈ m.nodes ∨ entry.2 ∈ r.hub.madeNodes

theorem nodes_of_names {r : Machine} (h : r.names = m.names) : r.nodes = m.nodes :=
  congrArg Prod.snd h

@[simp] theorem nodes_answer (m : Machine) (reply : Reply) : (m.answer reply).nodes = m.nodes :=
  nodes_of_names (names_answer m reply)

theorem Supplied.of_nodes {r : Machine} (h : r.nodes = m.nodes) : Supplied m r := by
  intro entry hentry
  exact .inl (h ▸ hentry)

theorem supplied_withHandle (m : Machine) (handle : String) {act : Nat → Machine}
    (h : ∀ id, Supplied m (act id)) : Supplied m (m.withHandle handle act) :=
  withHandle_induction m handle (.of_nodes (nodes_answer ..)) fun id _ => h id

theorem supplied_withTarget (m : Machine) (target : Option String) {act : Option Nat → Machine}
    (h : ∀ id, Supplied m (act id)) : Supplied m (m.withTarget target act) :=
  withTarget_induction m target (.of_nodes (nodes_answer ..)) fun id _ => h id

theorem nodes_initContext (m : Machine) (target : Option Nat) (keepAs : Option String)
    (o : InitOptions) : (m.initContext target keepAs o).nodes = m.nodes := by
  simp only [initContext, contextFor_about]
  split <;> rw [nodes_answer]

theorem supplied_createNode (m : Machine) (target : Option Nat) (name ns : String)
    (keepAs : Option String) : Supplied m (m.createNode target name ns keepAs) := by
  simp only [createNode, contextFor_about]
  split
  · exact .of_nodes (nodes_answer ..)
  · next node hub hc =>
    intro entry hentry
    rw [nodes_answer] at hentry
    rw [hub_answer, Hub.madeNodes_createNode hc]
    rcases mem_keep hentry with hentry | hnode
    · exact .inl hentry
    · exact .inr (List.mem_append_right _ (List.mem_singleton.2 hnode))

theorem supplied_execute (m : Machine) (op : Op) : Supplied m (m.execute op) := by
  cases op with
  | clone | ask => exact supplied_withHandle m _ fun id => .of_nodes (nodes_answer ..)
  | useDefault handle =>
    simp only [execute, contextFor_about]
    exact .of_nodes (nodes_answer ..)
  | init target keepAs o => exact supplied_withTarget m _ fun id => .of_nodes (nodes_initContext ..)
  | shutdown target tolerant =>
    exact supplied_withTarget m _ fun id => .of_nodes (nodes_of_names (names_startShutdown ..))
  | shutdownAwaited handle =>
    refine supplied_withHandle m _ fun id => .of_nodes ?_
    split
    · exact nodes_of_names (names_startShutdown ..)
    · exact nodes_answer ..
  | race target call count => exact supplied_withTarget m _ fun id => .of_nodes rfl
  | onShutdown handle label body =>
    refine supplied_withHandle m _ fun id => .of_nodes ?_
    split
    · exact nodes_answer ..
    · rfl
  | createNode target name ns keepAs =>
    exact supplied_withTarget m _ fun id => supplied_createNode m id name ns keepAs
  | nodeInfo node =>
    simp only [execute]
    split <;> exact .of_nodes (nodes_answer ..)
  | dropNode node =>
    intro entry hentry
    simp only [execute, nodes_answer] at hentry
    exact .inl (List.mem_of_mem_filter hentry)
  | raise signal => exact .of_nodes (nodes_of_names (names_raise m signal))
  | dispatch => exact .of_nodes (nodes_of_names (names_startDispatch m none))
  | _ => exact .of_nodes (nodes_answer ..)

theorem supplied_advance (m : Machine) (f : Frame) : Supplied m (m.advance f) := by
  fun_cases advance m f with
  | case1 label op rest replies =>
    exact supplied_execute { m with frames := .script label rest replies :: m.frames } op
  | case7 | case13 => exact .of_nodes (nodes_answer ..)
  | case11 next signal before =>
    exact .of_nodes (nodes_of_names (concluded_conclude m signal before next).names)
  | case12 target call rest replies =>
    cases call with
    | init o => exact .of_nodes (nodes_initContext ..)
    | shutdown => exact .of_nodes (nodes_of_names (names_startShutdown ..))
  | _ => exact .of_nodes rfl

theorem supplied_step (m : Machine) : Supplied m m.step := by
  cases hframes : m.frames with
  | nil =>
    have hstep : m.step = m := by rw [step, hframes]
    exact .of_nodes (by rw [hstep])
  | cons f below =>
    rw [step_of_advance hframes rfl]
    intro entry hentry
    -- freeing contexts forgets no node
    have hkept := Hub.subset_madeNodes (moves_foldl_free
      (({ m with frames := below } : Machine).advance f).unheld
      (({ m with frames := below } : Machine).advance f).hub)
    exact (supplied_advance { m with frames := below } f entry hentry).imp_right fun h => hkept h

/-- A node that a program has a name for was made in the run. -/
theorem Reachable.mem_madeNodes (h : m.Reachable) {entry : String × Node}
    (hentry : entry ∈ m.nodes) : entry.2 ∈ m.hub.madeNodes := by
  induction h with
  | start => exact absurd hentry List.not_mem_nil
  | @next m m' _ hn ih =>
    have hkept := Hub.subset_madeNodes hn.moves
    cases hn with
    | work =>
      rcases supplied_step m entry hentry with hentry | hmade
      · exact hkept (ih hentry)
      · exact hmade
    | _ => exact hkept (ih hentry)

/-- The nodes that were made in a run are what contexts made of names and namespaces. -/
theorem Reachable.created (h : m.Reachable) : m.hub.AllCreated := by
  refine h.invariant (fun _ _ _ _ _ => ?_) fun hp hm => hp.move hm
  intro node hnode
  exact absurd hnode List.not_mem_nil

end Machine
end RobotClient
