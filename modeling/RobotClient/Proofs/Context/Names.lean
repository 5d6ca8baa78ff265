import RobotClient.Proofs.Context.Reachable

set_option autoImplicit false

/-! # Names of contexts

A program gives its contexts names. A step of its work leaves the names as they are, gives one to a
context, or lets go of one (`Renamed`), so a name never stands for two contexts. Main statement:
`Reachable.unique`. -/

namespace RobotClient

namespace Machine

variable {m : Machine}

/-- Whether no name is used twice. -/
def Unique (handles : List (String × Nat)) : Prop := (handles.map (·.1)).Nodup

theorem Unique.filter {handles : List (String × Nat)} (h : Unique handles)
    (keep : String × Nat → Bool) : Unique (handles.filter keep) :=
  h.sublist (List.filter_sublist.map _)

theorem Unique.put {handles : List (String × Nat)} (h : Unique handles) (name : String) (id : Nat) :
    Unique (put handles name id) := by
  rw [Unique, Machine.put, List.map_append, List.nodup_append]
  refine ⟨h.filter _, by simp, fun x hx y hy => ?_⟩
  obtain ⟨entry, hentry, rfl⟩ := List.mem_map.1 hx
  obtain rfl : y = name := by simpa using hy
  simpa using (List.mem_filter.1 hentry).2

/-- What a step does to the names of contexts. -/
inductive Renamed (handles : List (String × Nat)) : List (String × Nat) → Prop where
  | same : Renamed handles handles
  | put (name : String) (id : Nat) : Renamed handles (put handles name id)
  | drop (name : String) : Renamed handles (handles.filter (·.1 ≠ name))

theorem Renamed.keep (handles : List (String × Nat)) (name : Option String) (id : Nat) :
    Renamed handles (keep handles name id) := by
  cases name with
  | none => exact .same
  | some name => exact .put name id

theorem Renamed.unique {handles handles' : List (String × Nat)} (h : Renamed handles handles')
    (hunique : Unique handles) : Unique handles' := by
  cases h with
  | same => exact hunique
  | put name id => exact hunique.put name id
  | drop name => exact hunique.filter _

/-- The names that a program has given, to contexts and to nodes. -/
def names (m : Machine) : List (String × Nat) × List (String × Node) := (m.handles, m.nodes)

theorem handles_of_names {r : Machine} (h : r.names = m.names) : r.handles = m.handles :=
  congrArg Prod.fst h

@[simp] theorem names_answer (m : Machine) (reply : Reply) : (m.answer reply).names = m.names := by
  rw [answer_eq]
  rfl

@[simp] theorem handles_answer (m : Machine) (reply : Reply) :
    (m.answer reply).handles = m.handles :=
  handles_of_names (names_answer m reply)

theorem Renamed.of_names {r : Machine} (h : r.names = m.names) : Renamed m.handles r.handles := by
  rw [handles_of_names h]
  exact .same

theorem renamed_withHandle (m : Machine) (handle : String) {act : Nat → Machine}
    (h : ∀ id, Renamed m.handles (act id).handles) :
    Renamed m.handles (m.withHandle handle act).handles :=
  withHandle_induction m handle (.of_names (names_answer ..)) fun id _ => h id

theorem renamed_withTarget (m : Machine) (target : Option String) {act : Option Nat → Machine}
    (h : ∀ id, Renamed m.handles (act id).handles) :
    Renamed m.handles (m.withTarget target act).handles :=
  withTarget_induction m target (.of_names (names_answer ..)) fun id _ => h id

theorem renamed_initContext (m : Machine) (target : Option Nat) (keepAs : Option String)
    (o : InitOptions) : Renamed m.handles (m.initContext target keepAs o).handles := by
  simp only [initContext, contextFor_about]
  split <;> rw [handles_answer]
  · exact .same
  · exact .keep ..

theorem names_startShutdown (m : Machine) (target : Option Nat) (tolerant : Bool)
    (reply : Reply) : (m.startShutdown target tolerant reply).names = m.names := by
  unfold startShutdown
  split
  · exact names_answer ..
  · split
    · exact names_answer ..
    · rfl

theorem handles_createNode (m : Machine) (target : Option Nat) (name ns : String)
    (keepAs : Option String) : (m.createNode target name ns keepAs).handles = m.handles := by
  simp only [createNode, contextFor_about]
  split <;> rw [handles_answer]

theorem names_startDispatch (m : Machine) (before : Option Nat) :
    (m.startDispatch before).names = m.names := by
  unfold startDispatch
  split
  · exact names_answer ..
  · rfl

theorem names_raise (m : Machine) (signal : Signal) : (m.raise signal).names = m.names := by
  unfold raise
  split
  · exact names_answer ..
  · split
    · exact names_answer ..
    · split
      · exact names_answer ..
      · exact names_startDispatch ..

theorem Concluded.names {r : Machine} {signal : Signal} {before : Option Nat}
    (h : Concluded m signal before r) : r.names = m.names := by
  cases h with
  | record reply => exact names_answer ..
  | _ => rfl

theorem renamed_execute (m : Machine) (op : Op) : Renamed m.handles (m.execute op).handles := by
  cases op with
  | create handle =>
    simp only [execute, handles_answer]
    exact .put ..
  | clone source handle =>
    refine renamed_withHandle m _ fun id => ?_
    rw [handles_answer]
    exact .put ..
  | drop handle =>
    simp only [execute, handles_answer]
    exact .drop handle
  | useDefault handle =>
    simp only [execute, handles_answer, contextFor_about]
    exact .keep ..
  | ask question handle => exact renamed_withHandle m _ fun id => .of_names (names_answer ..)
  | init target keepAs o => exact renamed_withTarget m _ fun id => renamed_initContext ..
  | shutdown target tolerant =>
    exact renamed_withTarget m _ fun id => .of_names (names_startShutdown ..)
  | shutdownAwaited handle =>
    refine renamed_withHandle m _ fun id => .of_names ?_
    split
    · exact names_startShutdown ..
    · exact names_answer ..
  | race target call count => exact renamed_withTarget m _ fun id => .same
  | onShutdown handle label body =>
    refine renamed_withHandle m _ fun id => .of_names ?_
    split
    · exact names_answer ..
    · rfl
  | createNode target name ns keepAs =>
    refine renamed_withTarget m _ fun id => ?_
    rw [handles_createNode]
    exact .same
  | nodeInfo node =>
    simp only [execute]
    split <;> exact .of_names (names_answer ..)
  | dropNode node =>
    simp only [execute, handles_answer]
    exact .same
  | raise signal => exact .of_names (names_raise m signal)
  | dispatch => exact .of_names (names_startDispatch m none)
  | _ => exact .of_names (names_answer ..)

theorem renamed_makeCall (m : Machine) (target : Option Nat) (call : RacingCall) :
    Renamed m.handles (m.makeCall target call).handles := by
  cases call with
  | init o => exact renamed_initContext m target none o
  | shutdown =>
    exact .of_names (names_startShutdown ..)

theorem renamed_advance (m : Machine) (f : Frame) :
    Renamed m.handles (m.advance f).handles := by
  fun_cases advance m f with
  | case1 label op rest replies =>
    exact renamed_execute { m with frames := .script label rest replies :: m.frames } op
  | case7 reply =>
    rw [handles_answer]
    exact .same
  | case11 next signal before =>
    exact .of_names (concluded_conclude m signal before next).names
  | case12 target call rest replies =>
    exact renamed_makeCall { m with frames := .racing target call rest replies :: m.frames } ..
  | case13 target call replies =>
    rw [handles_answer]
    exact .same
  | _ => exact .same

theorem unique_step (h : Unique m.handles) : Unique m.step.handles := by
  unfold Machine.step
  split
  · exact h
  · next frame below hframes =>
    exact (renamed_advance { m with frames := below } frame).unique h

/-- A program has one context at most under a name. -/
theorem Reachable.unique (h : m.Reachable) : Unique m.handles := by
  induction h with
  | start => exact List.nodup_nil
  | @next m m' _ hn ih =>
    cases hn with
    | work => exact unique_step ih
    | _ => exact ih

end Machine
end RobotClient
