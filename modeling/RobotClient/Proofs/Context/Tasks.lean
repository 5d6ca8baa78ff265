import RobotClient.Proofs.Context.Calls
import RobotClient.Proofs.Context.Carry
import RobotClient.Proofs.Context.Locality
import RobotClient.Proofs.Context.Names
import RobotClient.Proofs.Context.Registry

set_option autoImplicit false

/-! # Tasks as calls

A program does a task on a context under one of the context's names. What comes of it is the effect
of the task on the hub, whatever else is going on, as long as no callback that runs in it calls the
library: names and nodes change only as the task says, and a context that nobody holds any more is
freed. Main statement: `carryOut_task`. -/

namespace RobotClient

namespace Task

/-- Whether a callback that a task brings along does not call the library. -/
def Quiet : Task → Prop
  | .onShutdown callback => callback.body = []
  | _ => True

/-- The name under which the program keeps the node of a task. -/
def keepAs? : Task → Option String
  | .createNode _ _ keepAs => keepAs
  | _ => none

/-- The names of contexts after a task under one of them. -/
def handlesAfter (handle : String) (handles : List (String × Nat)) : Task → List (String × Nat)
  | .drop => handles.filter (·.1 ≠ handle)
  | _ => handles

/-- The names of nodes after a task, which may have made one. -/
def nodesAfter (nodes : List (String × Node)) (node? : Option Node) (task : Task) :
    List (String × Node) :=
  match node? with
  | some node => Machine.keep nodes task.keepAs? node
  | none => nodes

end Task

namespace Machine

variable {m r : Machine}

/-! ## Tasks as calls -/

/-- Whether nothing but one name holds a context. -/
def lastHold (m : Machine) (handle : String) (id : Nat) : Bool :=
  !({ m with handles := m.handles.filter (·.1 ≠ handle) } : Machine).held id

/-- What comes of a task on a context under one of its names. -/
def effectOf (m : Machine) (handle : String) (id : Nat) (task : Task) : Effect :=
  m.hub.effect id (m.lastHold handle id) task

/-- A machine after a task with a certain effect. -/
def completed (m : Machine) (handle : String) (task : Task) (e : Effect) : Machine :=
  { m with
    hub := e.hub
    handles := task.handlesAfter handle m.handles
    nodes := task.nodesAfter m.nodes e.node?
    finished := e.ran.map fun callback => ⟨callback.label, []⟩
    replies := [e.reply] }

variable {handle : String} {id : Nat} {task : Task}

/-- Whether the name under which a task keeps a node is not in use. -/
def Fresh (m : Machine) (task : Task) : Prop :=
  ∀ name, task.keepAs? = some name → ∀ entry ∈ m.nodes, entry.1 ≠ name

theorem keep_of_fresh {nodes : List (String × Node)} {name? : Option String}
    (h : ∀ name, name? = some name → ∀ entry ∈ nodes, entry.1 ≠ name) (node : Node) :
    keep nodes name? node = nodes ++ (name?.map fun name => (name, node)).toList := by
  cases name? with
  | none => simp [keep]
  | some name =>
    have hall : nodes.filter (·.1 ≠ name) = nodes :=
      List.filter_eq_self.2 fun entry hentry => by simpa using h name rfl entry hentry
    rw [keep, put, hall]
    rfl

theorem Fresh.nodesAfter (h : m.Fresh task) (node? : Option Node) :
    task.nodesAfter m.nodes node?
      = m.nodes ++ ((node?.bind fun node => task.keepAs?.map fun name => (name, node))).toList := by
  cases node? with
  | none => simp [Task.nodesAfter]
  | some node => exact keep_of_fresh h node

/-- What a task leaves is above what was there, unless it lets go of its name. -/
theorem above_completed (handle : String) (id : Nat) (hdrop : task ≠ .drop)
    (hfresh : m.Fresh task) :
    Above m (m.completed handle task (m.effectOf handle id task)) := by
  have hreplaces := Hub.replaces_effect m.hub id (m.lastHold handle id) hdrop
  refine ⟨hreplaces.ids, hreplaces.leaves.slot, ?_, ?_, List.suffix_rfl⟩
  · cases task with
    | drop => exact absurd rfl hdrop
    | _ => rfl
  · change m.nodes ⊆ task.nodesAfter m.nodes _
    rw [hfresh.nodesAfter]
    exact List.subset_append_left _ _

/-- A task that answers at once, and keeps its name, comes to its effect. -/
theorem carryOut_of_answer (h : m.Reachable) (hdrop : task ≠ .drop) (hfresh : m.Fresh task)
    (hran : (m.effectOf handle id task).ran = [])
    (hexecute : m.calling.execute (task.op handle)
      = { m.calling with
          hub := (m.effectOf handle id task).hub
          nodes := task.nodesAfter m.nodes (m.effectOf handle id task).node? }.answer
          (m.effectOf handle id task).reply) :
    m.carryOut (task.op handle) = m.completed handle task (m.effectOf handle id task) := by
  have habove := above_completed handle id hdrop hfresh
  have hhandles : m.handles = task.handlesAfter handle m.handles := habove.handles.symm
  rw [carryOut_answered hexecute, ← habove.collect h.unheld_eq_nil, completed, hran, ← hhandles]
  rfl

theorem carryOut_init (h : m.Reachable) (hid : m.handles.lookup handle = some id)
    (o : InitOptions) : m.carryOut ((Task.init o).op handle)
      = m.completed handle (.init o) (m.effectOf handle id (.init o)) := by
  have hstart : m.calling.execute ((Task.init o).op handle)
      = m.calling.initContext (some id) none o := withHandle_of_some hid
  refine carryOut_of_answer h (by simp) (fun name hname => absurd hname (by simp [Task.keepAs?]))
    ?_ ?_
  · simp only [effectOf, Hub.effect]
    split <;> rfl
  · rw [hstart, initContext, contextFor_about]
    have habout : m.calling.hub.about (some id) = (id, m.hub) := rfl
    simp only [habout, effectOf, Hub.effect]
    cases m.hub.init id o <;> rfl

theorem carryOut_createNode (h : m.Reachable) (hid : m.handles.lookup handle = some id)
    {name ns : String} {keepAs : Option String} (hfresh : m.Fresh (.createNode name ns keepAs)) :
    m.carryOut ((Task.createNode name ns keepAs).op handle)
      = m.completed handle (.createNode name ns keepAs)
          (m.effectOf handle id (.createNode name ns keepAs)) := by
  have hstart : m.calling.execute ((Task.createNode name ns keepAs).op handle)
      = m.calling.createNode (some id) name ns keepAs := withHandle_of_some hid
  refine carryOut_of_answer h (by simp) hfresh ?_ ?_
  · simp only [effectOf, Hub.effect]
    split <;> rfl
  · rw [hstart, createNode, contextFor_about]
    have habout : m.calling.hub.about (some id) = (id, m.hub) := rfl
    simp only [habout, effectOf, Hub.effect]
    cases m.hub.createNode id name ns <;> rfl

/-- The callbacks of a shutdown run, and then the shutdown answers. -/
theorem carryOut_shutdown (h : m.Reachable) (hid : m.handles.lookup handle = some id)
    (hquiet : ∀ c, m.hub.find? id = some c → ∀ callback ∈ c.callbacks, callback.body = [])
    (tolerant : Bool) : m.carryOut ((Task.shutdown tolerant).op handle)
      = m.completed handle (.shutdown tolerant) (m.effectOf handle id (.shutdown tolerant)) := by
  have hstart : m.calling.execute ((Task.shutdown tolerant).op handle)
      = m.calling.startShutdown (some id) tolerant (.ok .done) := withHandle_of_some hid
  have hfresh : m.Fresh (.shutdown tolerant) := fun name hname =>
    absurd hname (by simp [Task.keepAs?])
  cases hb : m.hub.beginShutdown id with
  | error e =>
    have heffect : m.effectOf handle id (.shutdown tolerant)
        = { reply := if tolerant then .ok .done else .failed e, hub := m.hub } := by
      simp only [effectOf, Hub.effect, hb]
    refine carryOut_of_answer h (by simp) hfresh (by rw [heffect]) ?_
    have hrefused : m.calling.hub.beginShutdown id = .error e := hb
    rw [hstart, heffect, startShutdown]
    simp only [Option.some_or, hrefused]
    rfl
  | ok found =>
    obtain ⟨callbacks, q⟩ := found
    obtain ⟨c, hc, rfl, -⟩ := Hub.beginShutdown_closed hb
    have heffect : m.effectOf handle id (.shutdown tolerant)
        = { reply := .ok .done, ran := c.callbacks, hub := q.finishShutdown id } := by
      simp only [effectOf, Hub.effect, hb]
    have habove : Above m { m with hub := q } := by
      have hdrop : Task.shutdown tolerant ≠ .drop := by simp
      have hreplaces := Hub.replaces_effect m.hub id false hdrop
      rw [Hub.effect, hb] at hreplaces
      exact ⟨hreplaces.ids, hreplaces.leaves.slot, rfl, List.Subset.refl _, List.suffix_rfl⟩
    let waiting : List Frame := .returning (.ok .done) :: m.calling.frames
    have hwaiting : m.frames <:+ waiting :=
      (List.suffix_cons _ _).trans (List.suffix_cons _ _)
    -- the shutdown starts
    have hbegun : m.carryOut ((Task.shutdown tolerant).op handle)
        = ({ m.calling with hub := q, frames := .shutting id c.callbacks :: waiting } :
            Machine).returnTo m.frames.length := by
      refine carryOut_eq h.unheld_eq_nil ?_ ?_
      · exact ⟨habove.ids, habove.slot, rfl, habove.nodes, hwaiting.trans (List.suffix_cons _ _)⟩
      · have hbegins : m.calling.hub.beginShutdown id = .ok (c.callbacks, q) := hb
        rw [hstart, startShutdown]
        simp only [Option.some_or, hbegins]
        rfl
    -- its callbacks run
    have hran := returnTo_shutting h.unheld_eq_nil id c.callbacks (hquiet c hc)
      { m.calling with hub := q, frames := waiting }
      ⟨habove.ids, habove.slot, rfl, habove.nodes, hwaiting⟩ hwaiting.length_le
    -- it answers
    have hanswered := returnTo_returning (x := { m with
        hub := q.finishShutdown id
        finished := c.callbacks.map fun callback => ⟨callback.label, []⟩
        replies := [] }) h.unheld_eq_nil
      ⟨habove.ids, habove.slot, rfl, habove.nodes, List.suffix_rfl⟩ rfl (.ok .done)
    rw [hbegun, heffect]
    exact hran.trans hanswered

theorem carryOut_onShutdown (h : m.Reachable) (hid : m.handles.lookup handle = some id)
    {callback : Callback} (hbody : callback.body = []) :
    m.carryOut ((Task.onShutdown callback).op handle)
      = m.completed handle (.onShutdown callback)
          (m.effectOf handle id (.onShutdown callback)) := by
  have hstart : m.calling.execute ((Task.onShutdown callback).op handle)
      = m.calling.serve (.onShutdown id callback) := withHandle_of_some hid
  have hfresh : m.Fresh (.onShutdown callback) := fun name hname =>
    absurd hname (by simp [Task.keepAs?])
  rcases Hub.onShutdown_cases m.hub id callback with ⟨-, heq⟩ | ⟨-, heq⟩
  · -- the context is shut down, so the callback runs at once
    have heffect : m.effectOf handle id (.onShutdown callback)
        = { reply := .ok .done, ran := [callback], hub := m.hub } := by
      simp only [effectOf, Hub.effect, heq, Option.toList]
    let waiting : List Frame := .returning (.ok .done) :: m.calling.frames
    have hwaiting : m.frames <:+ waiting :=
      (List.suffix_cons _ _).trans (List.suffix_cons _ _)
    have hbegun : m.carryOut ((Task.onShutdown callback).op handle)
        = ({ m.calling with frames := .script (some callback.label) [] [] :: waiting } :
            Machine).returnTo m.frames.length := by
      refine carryOut_eq h.unheld_eq_nil ?_ ?_
      · exact ⟨rfl, rfl, rfl, List.Subset.refl _, hwaiting.trans (List.suffix_cons _ _)⟩
      · have hnow : m.calling.hub.onShutdown id callback = (some callback, m.hub) := heq
        rw [hstart, serve]
        simp only [hnow, hbody]
        rfl
    have hran := returnTo_callback h.unheld_eq_nil (x := { m.calling with frames := waiting })
      ⟨rfl, rfl, rfl, List.Subset.refl _, hwaiting⟩ callback.label hwaiting.length_le
    have hanswered := returnTo_returning
      (x := { m with finished := [⟨callback.label, []⟩], replies := [] }) h.unheld_eq_nil
      ⟨rfl, rfl, rfl, List.Subset.refl _, List.suffix_rfl⟩ rfl (.ok .done)
    rw [hbegun, heffect]
    exact hran.trans hanswered
  · refine carryOut_of_answer h (by simp) hfresh ?_ ?_
    · simp only [effectOf, Hub.effect, heq, Option.toList]
    · simp only [effectOf, Hub.effect]
      have hlater : m.calling.hub.onShutdown id callback = _ := heq
      rw [hstart, serve]
      simp only [hlater, heq]
      rfl

/-- Letting go of a name lets go of no context but the one under it. -/
theorem held_drop (h : m.Reachable) (hid : m.handles.lookup handle = some id) {j : Nat}
    (hj : j ≠ id) (hheld : m.held j = true) :
    ({ m with handles := m.handles.filter (·.1 ≠ handle) } : Machine).held j = true := by
  simp only [held, Bool.or_eq_true, List.any_eq_true] at hheld ⊢
  refine hheld.imp_left (Or.imp_left (Or.imp_left ?_))
  rintro ⟨entry, hentry, hentryId⟩
  refine ⟨entry, List.mem_filter.2 ⟨hentry, ?_⟩, hentryId⟩
  rw [decide_eq_true_eq]
  intro hname
  obtain rfl : entry = (handle, id) :=
    List.inj_on_of_nodup_map h.unique hentry (mem_of_lookup hid) hname
  exact hj (of_decide_eq_true hentryId).symm

theorem unheld_drop (h : m.Reachable) (hid : m.handles.lookup handle = some id) :
    ({ m with handles := m.handles.filter (·.1 ≠ handle) } : Machine).unheld
      = if m.lastHold handle id then [id] else [] := by
  have hmem : id ∈ m.hub.contexts.map (·.id) :=
    Hub.find?_isSome_iff.1 (h.grounded.handles _ (mem_of_lookup hid))
  have hfree : ∀ j ∈ m.hub.contexts.map (·.id),
      (!({ m with handles := m.handles.filter (·.1 ≠ handle) } : Machine).held j)
        = (m.lastHold handle id && decide (j = id)) := by
    intro j hmem
    by_cases hj : j = id
    · subst hj
      simp [lastHold]
    · obtain ⟨c, hc, rfl⟩ := List.mem_map.1 hmem
      rw [held_drop h hid hj (h.held_of_mem hc)]
      simp [hj]
  rw [unheld, List.filter_congr hfree]
  cases m.lastHold handle id with
  | false => simp
  | true =>
    have hone := List.count_eq_one_of_mem h.numbered.nodup hmem
    have hself : (fun j => true && decide (j = id)) = fun j => j == id := rfl
    rw [hself, List.filter_beq, hone]
    rfl

theorem carryOut_drop (h : m.Reachable) (hid : m.handles.lookup handle = some id) :
    m.carryOut (Task.drop.op handle) = m.completed handle .drop (m.effectOf handle id .drop) := by
  have hanswer : m.calling.execute (Task.drop.op handle)
      = { m.calling with handles := m.handles.filter (·.1 ≠ handle) }.answer
          (.ok (.flag true)) := by
    change _ = ({ m.calling with handles := m.handles.filter (·.1 ≠ handle) } : Machine).answer _
    simp only [Task.op, execute]
    change ({ m.calling with handles := m.handles.filter (·.1 ≠ handle) } : Machine).answer
      (.ok (.flag (m.handles.lookup handle).isSome)) = _
    rw [hid]
    rfl
  rw [carryOut_answered hanswer, collect]
  change Machine.mk (List.foldl Hub.free m.hub
    ({ m with handles := m.handles.filter (·.1 ≠ handle) } : Machine).unheld) _ _ _ _ _ = _
  rw [unheld_drop h hid]
  simp only [completed, effectOf, Hub.effect]
  cases m.lastHold handle id <;> rfl

/-- Whether a program can do a task on a context under a name without a callback that calls the
    library, and without giving a node the name of another one. -/
structure Doable (m : Machine) (handle : String) (id : Nat) (task : Task) : Prop where
  name : m.handles.lookup handle = some id
  queue : ∀ c, m.hub.find? id = some c → ∀ callback ∈ c.callbacks, callback.body = []
  quiet : task.Quiet
  fresh : m.Fresh task

/-- **A task comes to its effect**, whatever else is going on. -/
theorem carryOut_task (h : m.Reachable) (hd : m.Doable handle id task) :
    m.carryOut (task.op handle) = m.completed handle task (m.effectOf handle id task) := by
  cases task with
  | init o => exact carryOut_init h hd.name o
  | shutdown tolerant => exact carryOut_shutdown h hd.name hd.queue tolerant
  | onShutdown callback => exact carryOut_onShutdown h hd.name hd.quiet
  | createNode name ns keepAs => exact carryOut_createNode h hd.name hd.fresh
  | drop => exact carryOut_drop h hd.name

end Machine
end RobotClient
