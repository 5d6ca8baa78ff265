import RobotClient.Context.Load
import RobotClient.Context.Machine

set_option autoImplicit false

/-! # Running to the end

A machine always comes to rest. Every operation is executed at most once, wherever it waits: in a
program, in a callback that is still kept, or in one that a shutdown has taken. Where a step
executes no operation, it starts a callback or ends a frame. Main statements: `lighter_advance`, by
which `settle` is total, and `settle_frames`. -/

namespace RobotClient

/-! ## Operations that are left -/

mutual

/-- How many operations an operation stands for, those of its callback included. -/
def Op.work : Op → Nat
  | .onShutdown _ _ body => 1 + Op.workAll body
  | .race _ _ count => 1 + count
  | _ => 1

/-- How many operations a program stands for. -/
def Op.workAll : List Op → Nat
  | [] => 0
  | op :: rest => op.work + Op.workAll rest

end

/-- How many operations a callback stands for. -/
def Callback.work (c : Callback) : Nat := Op.workAll c.body

theorem Op.work_pos (op : Op) : 0 < op.work := by
  cases op <;> simp only [Op.work] <;> omega

namespace Frame

/-- How many operations are left in a frame. -/
def work : Frame → Nat
  | .script _ rest _ => Op.workAll rest
  | .shutting _ callbacks => total Callback.work callbacks
  | .racing _ _ rest _ => rest
  | _ => 0

/-- How many steps a frame takes that execute no operation. -/
def weight : Frame → Nat
  | .shutting _ callbacks => 2 * callbacks.length + 1
  | .dispatching _ rest _ _ => 2 * rest.length + 4
  | .concluding .check _ _ => 3
  | .concluding .raise _ _ => 2
  | _ => 1

end Frame

namespace Machine

/-- The operations left in the frames. -/
def frameWork (frames : List Frame) : Nat := total Frame.work frames

/-- The other steps left in the frames. -/
def frameWeight (frames : List Frame) : Nat := total Frame.weight frames

/-- The operations that are left. -/
def work (m : Machine) : Nat := frameWork m.frames + m.hub.load Callback.work

/-- The other steps that are left. -/
def weight (m : Machine) : Nat := frameWeight m.frames + m.hub.load fun _ => 2

/-- Whether less is left in `m` than the two numbers say: fewer operations, or as many and fewer
    other steps. -/
def Lighter (m : Machine) (work weight : Nat) : Prop :=
  m.work < work ∨ m.work = work ∧ m.weight < weight

/-! ## What is left after each part of a step -/

@[simp] theorem hub_answer (m : Machine) (reply : Reply) :
    (m.answer reply).hub = m.hub := by
  unfold answer; split <;> rfl

@[simp] theorem frameWork_answer (m : Machine) (reply : Reply) :
    frameWork (m.answer reply).frames = frameWork m.frames := by
  unfold answer
  split <;> simp_all [frameWork, Frame.work]

@[simp] theorem frameWeight_answer (m : Machine) (reply : Reply) :
    frameWeight (m.answer reply).frames = frameWeight m.frames := by
  unfold answer
  split <;> simp_all [frameWeight, Frame.weight]

@[simp] theorem work_answer (m : Machine) (reply : Reply) : (m.answer reply).work = m.work := by
  simp [work]

@[simp] theorem weight_answer (m : Machine) (reply : Reply) :
    (m.answer reply).weight = m.weight := by
  simp [weight]

theorem work_collect (m : Machine) : m.collect.work ≤ m.work :=
  Nat.add_le_add_left (Hub.load_foldl_free ..) _

theorem weight_collect (m : Machine) : m.collect.weight ≤ m.weight :=
  Nat.add_le_add_left (Hub.load_foldl_free ..) _

theorem work_contextFor (m : Machine) (target : Option Nat) :
    (m.contextFor target).2.work = m.work := by
  cases target with
  | some id => rfl
  | none => simp [contextFor, work, Hub.load_defaultContext]

theorem work_initContext (m : Machine) (target : Option Nat) (keepAs : Option String)
    (options : InitOptions) : (m.initContext target keepAs options).work = m.work := by
  unfold initContext
  rw [← work_contextFor m target]
  dsimp only
  split
  · exact work_answer ..
  · next hub h =>
    rw [work_answer]
    simp [work, Hub.load_init h]

theorem work_createNode (m : Machine) (target : Option Nat) (name ns : String)
    (keepAs : Option String) : (m.createNode target name ns keepAs).work = m.work := by
  unfold createNode
  rw [← work_contextFor m target]
  dsimp only
  split
  · exact work_answer ..
  · next node hub h =>
    rw [work_answer]
    simp [work, Hub.load_createNode h]

theorem work_startShutdown (m : Machine) (target : Option Nat) (tolerant : Bool) (reply : Reply) :
    (m.startShutdown target tolerant reply).work ≤ m.work := by
  unfold startShutdown
  split
  · split <;> simp
  · next id _ =>
    split
    · split <;> simp
    · next callbacks hub h =>
      have load := Hub.load_beginShutdown (w := Callback.work) h
      cases target <;> simp [work, frameWork, Frame.work] <;> omega

theorem work_startDispatch (m : Machine) (before : Option Nat) :
    (m.startDispatch before).work = m.work := by
  unfold startDispatch
  split
  · simp
  · simp [work, frameWork, Frame.work, Hub.load]

theorem work_raise (m : Machine) (signal : Signal) : (m.raise signal).work = m.work := by
  unfold raise
  split
  · simp
  · split
    · simp [work, Hub.load]
    · split
      · simp
      · rw [work_startDispatch]
        simp [work, Hub.load]

theorem work_makeCall (m : Machine) (target : Option Nat) (call : RacingCall) :
    (m.makeCall target call).work ≤ m.work := by
  cases call with
  | init options => exact Nat.le_of_eq (work_initContext ..)
  | shutdown => exact work_startShutdown ..

theorem work_withHandle {m : Machine} {handle : String} {act : Nat → Machine} {n : Nat}
    (hm : m.work ≤ n) (h : ∀ id, (act id).work ≤ n) : (m.withHandle handle act).work ≤ n := by
  unfold withHandle
  split
  · exact h _
  · simpa using hm

theorem work_withTarget {m : Machine} {target : Option String} {act : Option Nat → Machine}
    {n : Nat} (hm : m.work ≤ n) (h : ∀ id, (act id).work ≤ n) :
    (m.withTarget target act).work ≤ n := by
  unfold withTarget
  split
  · exact work_withHandle hm fun id => h _
  · exact h _

/-- An operation leaves at most what it stands for, less itself. -/
theorem work_execute (m : Machine) (op : Op) : (m.execute op).work + 1 ≤ m.work + op.work := by
  have pos := op.work_pos
  have plain : ∀ q : Machine, q.work ≤ m.work → q.work + 1 ≤ m.work + op.work := fun q h => by omega
  cases op with
  | create handle =>
    refine plain _ ?_
    simp only [execute, work_answer]
    simp [work, Hub.load_create]
  | clone source handle =>
    exact plain _ (work_withHandle (Nat.le_refl _) fun id => by simp [work])
  | drop handle => exact plain _ (by simp [execute, work])
  | useDefault handle =>
    refine plain _ ?_
    have h := work_contextFor m none
    simp only [execute, work_answer]
    simpa [work] using Nat.le_of_eq h
  | ask question handle =>
    exact plain _ (work_withHandle (Nat.le_refl _) fun id => by simp)
  | defaultOk => exact plain _ (by simp [execute])
  | init target keepAs options =>
    exact plain _ (work_withTarget (Nat.le_refl _) fun id =>
      Nat.le_of_eq (work_initContext m id keepAs options))
  | shutdown target tolerant =>
    exact plain _ (work_withTarget (Nat.le_refl _) fun id => work_startShutdown m id tolerant _)
  | shutdownAwaited handle =>
    refine plain _ (work_withHandle (Nat.le_refl _) fun id => ?_)
    split
    · exact work_startShutdown ..
    · simp
  | race target call count =>
    have h : ((m.execute (.race target call count)).work) ≤ m.work + count :=
      work_withTarget (Nat.le_add_right ..) fun id => by
        simp [work, frameWork, Frame.work]; omega
    simp only [Op.work]; omega
  | onShutdown handle label body =>
    have h : ((m.execute (.onShutdown handle label body)).work) ≤ m.work + Op.workAll body := by
      refine work_withHandle (Nat.le_add_right ..) fun id => ?_
      have load := Hub.load_onShutdown Callback.work m.hub id ⟨label, body⟩
      split
      · next hub h =>
        simp only [h, Option.toList, total_nil, Callback.work] at load
        rw [work_answer]
        simp only [work]; omega
      · next callback hub h =>
        simp only [h, Option.toList, total_cons, total_nil,
          Callback.work] at load
        simp only [work, frameWork, Frame.work, total_cons]
        omega
    simp only [Op.work]; omega
  | createNode target name ns keepAs =>
    exact plain _ (work_withTarget (Nat.le_refl _) fun id =>
      Nat.le_of_eq (work_createNode m id name ns keepAs))
  | nodeInfo node =>
    refine plain _ ?_
    simp only [execute]
    split <;> simp
  | dropNode node => exact plain _ (by simp [execute, work])
  | raise signal => exact plain _ (Nat.le_of_eq (work_raise m signal))
  | handlers => exact plain _ (by simp [execute])
  | owner => exact plain _ (by simp [execute])
  | pending => exact plain _ (by simp [execute])
  | takePending => exact plain _ (by simp [execute, work, Hub.load])
  | dispatch => exact plain _ (Nat.le_of_eq (work_startDispatch m none))
  | waitSignal => exact plain _ (by simp [execute])
  | malformed complaint => exact plain _ (by simp [execute])
  | unreadable => exact plain _ (by simp [execute])

/-! ## Steps -/

/-- The end of a dispatch executes no operation and comes nearer to its answer. -/
theorem lighter_conclude (m : Machine) (signal : Signal) (before : Option Nat)
    (next : Conclusion) :
    (m.conclude signal before next).work
        = m.work + (Frame.concluding next signal before).work ∧
      (m.conclude signal before next).weight
        < m.weight + (Frame.concluding next signal before).weight := by
  cases next with
  | check =>
    cases ht : m.hub.table <;>
      simp [conclude, ht, work, weight, frameWork, frameWeight, Frame.work, Frame.weight,
        Hub.load] <;>
      omega
  | raise =>
    simp [conclude, work, weight, frameWork, frameWeight, Frame.work, Frame.weight, Hub.load]
    omega
  | record => simp [conclude, work, weight, Frame.work, Frame.weight, Hub.load]

/-- Going on with a frame leaves less than the frame and the machine without it. -/
theorem lighter_advance (m : Machine) (frame : Frame) :
    (m.advance frame).Lighter (m.work + frame.work) (m.weight + frame.weight) := by
  fun_cases advance m frame with
  | case1 label op rest replies =>
    refine .inl ?_
    have h := work_execute { m with frames := .script label rest replies :: m.frames } op
    simp only [work, frameWork, Frame.work, Op.workAll, total_cons] at h ⊢
    omega
  | case2 label replies =>
    exact .inr ⟨by simp [work, Frame.work, Op.workAll], by simp [weight, Frame.weight]⟩
  | case3 replies =>
    exact .inr ⟨by simp [work, Frame.work, Op.workAll], by simp [weight, Frame.weight]⟩
  | case4 id callback rest =>
    refine .inr ⟨?_, ?_⟩
    · simp [work, frameWork, Frame.work, Callback.work]; omega
    · simp [weight, frameWeight, Frame.weight]; omega
  | case5 id =>
    exact .inr ⟨by simp [work, Frame.work, Hub.load], by simp [weight, Frame.weight, Hub.load]⟩
  | case6 id =>
    exact .inr ⟨by simp [work, Frame.work, Hub.load], by simp [weight, Frame.weight, Hub.load]⟩
  | case7 reply => exact .inr ⟨by simp [Frame.work], by simp [Frame.weight]⟩
  | case8 signal id rest count before e h =>
    refine .inr ⟨by simp [work, frameWork, Frame.work], ?_⟩
    simp [weight, frameWeight, Frame.weight]; omega
  | case9 signal id rest count before callbacks hub h =>
    have load := Hub.load_beginShutdown (w := Callback.work) h
    have load2 := Hub.load_beginShutdown (w := fun _ => 2) h
    rw [total_two] at load2
    refine .inr ⟨?_, ?_⟩
    · simp [work, frameWork, Frame.work]; omega
    · simp [weight, frameWeight, Frame.weight]; omega
  | case10 signal count before =>
    refine .inr ⟨by simp [work, frameWork, Frame.work, Hub.load], ?_⟩
    simp [weight, frameWeight, Frame.weight, Hub.load]; omega
  | case11 next signal before => exact .inr (lighter_conclude m signal before next)
  | case12 target call rest replies =>
    refine .inl (Nat.lt_of_le_of_lt (work_makeCall ..) ?_)
    simp [work, frameWork, Frame.work]; omega
  | case13 target call replies => exact .inr ⟨by simp [Frame.work], by simp [Frame.weight]⟩

theorem lighter_step {m : Machine} (h : m.frames ≠ []) : m.step.Lighter m.work m.weight := by
  cases hf : m.frames with
  | nil => exact absurd hf h
  | cons frame below =>
    have light := lighter_advance { m with frames := below } frame
    have work_eq : m.work = ({ m with frames := below } : Machine).work + frame.work := by
      simp [work, frameWork, hf]; omega
    have weight_eq : m.weight = ({ m with frames := below } : Machine).weight + frame.weight := by
      simp [weight, frameWeight, hf]; omega
    have hw := work_collect ({ m with frames := below }.advance frame)
    have hv := weight_collect ({ m with frames := below }.advance frame)
    simp only [Lighter, step, hf, work_eq, weight_eq] at light ⊢
    omega

/-- Runs a machine until no work is left. -/
def settle (m : Machine) : Machine := if m.frames.isEmpty then m else m.step.settle
termination_by (m.work, m.weight)
decreasing_by
  next h =>
  rcases lighter_step (m := m) (by simpa using h) with hl | ⟨he, hl⟩
  · exact Prod.Lex.left _ _ hl
  · rw [he]; exact Prod.Lex.right _ hl

theorem settle_frames (m : Machine) : m.settle.frames = [] := by
  fun_induction settle m with
  | case1 m h => simpa using h
  | case2 m h ih => exact ih

/-! ## Performing -/

/-- What performing an operation gives. -/
structure Performed where
  reply : Reply
  /-- The callbacks that ended meanwhile, in order. -/
  finished : List FinishedCallback
  machine : Machine

/-- Performs an operation on a machine at rest. -/
def perform (m : Machine) (op : Op) : Performed :=
  let settled := { m with frames := [.script none [op] []], finished := [], replies := [] }.settle
  { reply := settled.replies.headD (.refused "op")
    finished := settled.finished
    machine := settled }

end Machine
end RobotClient
