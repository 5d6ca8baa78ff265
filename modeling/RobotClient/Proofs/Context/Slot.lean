import RobotClient.Proofs.Context.Calls
import RobotClient.Proofs.Context.Return

set_option autoImplicit false

/-! # The slot of the default context

A context comes into the slot when somebody asks for the default one and there is none that is not
shut down; it is a fresh one then. It leaves the slot only when it is shut down: another takes its
place, or its shutdown empties the slot at the end. Main statements: `Reachable.slot_run`, that a
default context stays, `Reachable.answers_useDefault`, that no other is ever handed out, and
`Reachable.slot_releasing`, that the end of a shutdown leaves a new one alone. -/

namespace RobotClient

open Relation (ReflTransGen)

/-! ## Hubs -/

namespace Hub

variable {κ : Type} {p q : Hub κ} {id : Nat}

theorem slot_of_act (ha : Act p q) (h : q.slot = some id) : p.slot = some id ∨ p.nextId ≤ id := by
  cases ha with
  | create => exact .inl h
  | useDefault =>
    rcases defaultContext_cases p with ⟨j, -, -, heq⟩ | ⟨-, heq⟩ <;> rw [heq] at h
    · exact .inl h
    · exact .inr (Nat.le_of_eq (Option.some.inj h))
  | init hi =>
    obtain ⟨c, s, watching, events, -, -, -, ⟨-, -, rfl⟩ | ⟨-, -, -, rfl⟩⟩ := init_cases hi <;>
      exact .inl h
  | releaseDefault j =>
    unfold Hub.releaseDefault at h
    split at h
    · exact absurd h (by simp)
    · exact .inl h
  | onShutdown j callback =>
    rcases onShutdown_cases p j callback with ⟨-, heq⟩ | ⟨-, heq⟩ <;> rw [heq] at h <;> exact .inl h
  | createNode hc =>
    obtain ⟨arguments, -, -, rfl⟩ := createNode_eq_ok hc
    exact .inl h

/-- A context in the slot was there before or is new. -/
theorem slot_of_move (hm : Move p q) (h : q.slot = some id) :
    p.slot = some id ∨ p.nextId ≤ id := by
  cases hm with
  | act ha => exact slot_of_act ha h
  | beginShutdown hb =>
    obtain ⟨c, -, -, -, hslot, -⟩ := beginShutdown_closed hb
    exact .inl (hslot ▸ h)
  | free j => exact .inl (slot_free p j ▸ h)
  | deliver signal => exact .inl (slot_deliver p signal ▸ h)
  | report _ => exact .inl h
  | noteDelivered signal => exact .inl h
  | finishShutdown j => exact .inl h
  | takePending => exact .inl h
  | tick clock => exact .inl h
  | handle signal label htable => exact .inl h

theorem slot_of_moves (moves : ReflTransGen Move p q) (h : q.slot = some id) :
    p.slot = some id ∨ p.nextId ≤ id := by
  induction moves with
  | refl => exact .inl h
  | tail moves hm ih =>
    rcases slot_of_move hm h with h | hnew
    · exact ih h
    · exact .inr (Nat.le_trans (nextId_le_of_moves moves) hnew)

theorem phase_of_lifecycle (h : p.lifecycle id = .shutdown) : p.phase id = .shutdown := by
  rw [lifecycle] at h
  cases hphase : p.phase id with
  | shutdown => rfl
  | uninitialized | initialized => simp [hphase, Phase.lifecycle] at h

/-- A default context that is not shut down is the one that calls are about. -/
theorem about_none (hslot : p.slot = some id) (hphase : p.phase id ≠ .shutdown) :
    p.about none = (id, p) := by
  rcases defaultContext_cases p with ⟨j, hj, -, heq⟩ | ⟨hnone, -⟩
  · obtain rfl := Option.some.inj (hslot.symm.trans hj)
    exact heq
  · exact absurd (phase_of_lifecycle (hnone id hslot)) hphase

theorem slot_about (hslot : p.slot = some id) (hphase : p.phase id ≠ .shutdown)
    (target : Option Nat) : (p.about target).2.slot = some id := by
  cases target with
  | some j => exact hslot
  | none => rw [about_none hslot hphase, hslot]

theorem slot_init {o : InitOptions} {j : Nat} (h : p.init j o = .ok q) : q.slot = p.slot := by
  obtain ⟨c, s, watching, events, -, -, -, ⟨-, -, rfl⟩ | ⟨-, -, -, rfl⟩⟩ := init_cases h <;> rfl

theorem slot_onShutdown (p : Hub κ) (j : Nat) (callback : κ) :
    (p.onShutdown j callback).2.slot = p.slot := by
  rcases onShutdown_cases p j callback with ⟨-, heq⟩ | ⟨-, heq⟩ <;> rw [heq]

/-- The default context is not shut down, and is in the slot. -/
theorem defaultContext_spec (h : p.Numbered) :
    p.defaultContext.2.slot = some p.defaultContext.1 ∧
      p.defaultContext.2.phase p.defaultContext.1 ≠ .shutdown := by
  rcases defaultContext_cases p with ⟨id, hslot, hlife, heq⟩ | ⟨-, heq⟩ <;> rw [heq]
  · refine ⟨hslot, fun hphase => hlife ?_⟩
    rw [lifecycle, hphase]
    rfl
  · refine ⟨rfl, ?_⟩
    rw [phase_of_fresh h rfl, if_pos rfl]
    simp

end Hub

namespace Machine

variable {m : Machine} {id : Nat}

section
variable (hslot : m.hub.slot = some id) (hphase : m.hub.phase id ≠ .shutdown)
include hslot

theorem slot_withHandle (handle : String) {act : Nat → Machine}
    (hact : ∀ j, (act j).hub.slot = some id) : (m.withHandle handle act).hub.slot = some id :=
  withHandle_induction m handle (by rw [hub_answer, hslot]) fun j _ => hact j

theorem slot_withTarget (target : Option String) {act : Option Nat → Machine}
    (hact : ∀ j, (act j).hub.slot = some id) : (m.withTarget target act).hub.slot = some id :=
  withTarget_induction m target (by rw [hub_answer, hslot]) fun j _ => hact j

theorem slot_startShutdown (target : Option Nat) (tolerant : Bool) (receipt : Reply) :
    (m.startShutdown target tolerant receipt).hub.slot = some id := by
  unfold startShutdown
  split
  · rw [hub_answer, hslot]
  · split
    · rw [hub_answer, hslot]
    · next callbacks hub hb =>
      obtain ⟨c, -, -, -, hkept, -⟩ := Hub.beginShutdown_closed hb
      exact hkept.trans hslot

theorem slot_startDispatch (before : Option Nat) : (m.startDispatch before).hub.slot = some id := by
  unfold startDispatch
  split
  · rw [hub_answer, hslot]
  · exact hslot

theorem slot_raise (signal : Signal) : (m.raise signal).hub.slot = some id := by
  have hdelivered := (Hub.slot_deliver m.hub signal).trans hslot
  unfold raise
  split
  · rw [hub_answer, hslot]
  · split
    · rw [hub_answer, hdelivered]
    · split
      · rw [hub_answer, hslot]
      · exact slot_startDispatch hdelivered _

include hphase

theorem slot_initContext (target : Option Nat) (keepAs : Option String) (options : InitOptions) :
    (m.initContext target keepAs options).hub.slot = some id := by
  have habout := Hub.slot_about hslot hphase target
  simp only [initContext, contextFor_about]
  split
  · rw [hub_answer, habout]
  · next hub hi => rw [hub_answer, Hub.slot_init hi, habout]

theorem slot_createNode (target : Option Nat) (name ns : String) (keepAs : Option String) :
    (m.createNode target name ns keepAs).hub.slot = some id := by
  have habout := Hub.slot_about hslot hphase target
  simp only [createNode, contextFor_about]
  split
  · rw [hub_answer, habout]
  · next node hub hc =>
    obtain ⟨arguments, -, -, rfl⟩ := Hub.createNode_eq_ok hc
    rw [hub_answer, habout]

theorem slot_makeCall (target : Option Nat) (call : RacingCall) :
    (m.makeCall target call).hub.slot = some id := by
  cases call with
  | init options => exact slot_initContext hslot hphase target none options
  | shutdown => exact slot_startShutdown hslot target false _

/-- No operation takes a default context away that is not shut down. -/
theorem slot_execute (op : Op) : (m.execute op).hub.slot = some id := by
  cases op with
  | create handle => exact (congrArg Hub.slot (hub_answer ..)).trans hslot
  | clone source handle =>
    exact slot_withHandle hslot _ fun j => (congrArg Hub.slot (hub_answer ..)).trans hslot
  | useDefault handle =>
    simp only [execute, contextFor_about]
    rw [hub_answer, Hub.slot_about hslot hphase]
  | ask question handle => exact slot_withHandle hslot _ fun j => by rw [hub_answer, hslot]
  | init target keepAs options =>
    exact slot_withTarget hslot _ fun j => slot_initContext hslot hphase ..
  | shutdown target tolerant => exact slot_withTarget hslot _ fun j => slot_startShutdown hslot ..
  | shutdownAwaited handle =>
    refine slot_withHandle hslot _ fun j => ?_
    split
    · exact slot_startShutdown hslot ..
    · rw [hub_answer, hslot]
  | race target call count => exact slot_withTarget hslot _ fun j => hslot
  | onShutdown handle label body =>
    refine slot_withHandle hslot _ fun j => ?_
    have hkept := (Hub.slot_onShutdown m.hub j ⟨label, body⟩).trans hslot
    split
    · next hub heq => rw [hub_answer, ← hkept, heq]
    · next callback hub heq => rw [← hkept, heq]
  | createNode target name ns keepAs =>
    exact slot_withTarget hslot _ fun j => slot_createNode hslot hphase ..
  | nodeInfo node =>
    simp only [execute]
    split <;> rw [hub_answer, hslot]
  | raise signal => exact slot_raise hslot signal
  | dispatch => exact slot_startDispatch hslot none
  | _ => exact (congrArg Hub.slot (hub_answer ..)).trans hslot

end

theorem Concluded.slot {signal : Signal} {before : Option Nat} {r : Machine}
    (h : Concluded m signal before r) : r.hub.slot = m.hub.slot := by
  cases h with
  | report next he => rfl
  | raise => exact Hub.slot_deliver m.hub signal
  | record reply => rw [hub_answer]; rfl

/-- A default context that is not shut down stays the default one, since the one whose shutdown
    empties the slot is shut down. -/
theorem slot_advance {f : Frame} (hslot : m.hub.slot = some id)
    (hphase : m.hub.phase id ≠ .shutdown) (hf : f.Grounded m.hub) :
    (m.advance f).hub.slot = some id := by
  fun_cases advance m f with
  | case1 label op rest replies =>
    exact slot_execute (m := { m with frames := .script label rest replies :: m.frames })
      hslot hphase op
  | case6 j =>
    -- the shutdown that is over was one of another context
    have hne : j ≠ id := fun he => hphase (he ▸ hf.2)
    change (m.hub.releaseDefault j).slot = some id
    rw [Hub.releaseDefault, if_neg (by rw [hslot]; simpa using hne.symm), hslot]
  | case9 signal j rest count before callbacks hub hb =>
    obtain ⟨c, -, -, -, hkept, -⟩ := Hub.beginShutdown_closed hb
    exact hkept.trans hslot
  | case7 | case13 => rw [hub_answer, hslot]
  | case11 next signal before => exact (concluded_conclude m signal before next).slot.trans hslot
  | case12 target call rest replies =>
    exact slot_makeCall (m := { m with frames := .racing target call rest replies :: m.frames })
      hslot hphase target call
  | _ => exact hslot

theorem Reachable.slot_step (h : m.Reachable) (hslot : m.hub.slot = some id)
    (hphase : m.hub.phase id ≠ .shutdown) : m.step.hub.slot = some id := by
  unfold Machine.step
  split
  · exact hslot
  · next f below hframes =>
    have hf := h.grounded.frames f (by simp [hframes])
    have hkept := slot_advance (m := { m with frames := below }) hslot hphase hf
    exact (Hub.slot_foldl_free ..).trans hkept

theorem Reachable.slot_happen (h : m.Reachable) (hslot : m.hub.slot = some id)
    (hphase : m.hub.phase id ≠ .shutdown) (happening : Happening) :
    (m.happen happening).hub.slot = some id := by
  cases happening with
  | work => exact h.slot_step hslot hphase
  | arrive signal => exact (Hub.slot_deliver m.hub signal).trans hslot
  | handle signal label =>
    rw [Machine.happen]
    split <;> exact hslot
  | call program => exact hslot
  | tick clock => exact hslot

/-- **A default context stays** the default one until it is shut down. -/
theorem Reachable.slot_run (h : m.Reachable) (hslot : m.hub.slot = some id)
    (happenings : List Happening) (hphase : (m.run happenings).hub.phase id ≠ .shutdown) :
    (m.run happenings).hub.slot = some id := by
  induction happenings generalizing m with
  | nil => exact hslot
  | cons happening rest ih =>
    have hgiven := Hub.lt_nextId_of_isSome h.numbered (h.grounded.slot id hslot)
    -- it was not shut down before either
    have hbefore : m.hub.phase id ≠ .shutdown := fun hshut =>
      hphase (Hub.shutdown_of_moves (moves_run m (happening :: rest)) h.numbered hgiven hshut)
    exact ih (h.happen happening) (h.slot_happen hslot hbefore happening) hphase

/-- Whoever asks for the default context gets one that is not shut down. -/
theorem Reachable.answers_useDefault {label : Option String} {handle : Option String}
    {rest : List Op} {replies : List Reply} {below : List Frame} (h : m.Reachable)
    (hframes : m.frames = .script label (.useDefault handle :: rest) replies :: below) :
    ∃ id, m.Answers m.caller.frames 1 (.ok (.id id)) ∧ m.step.hub.slot = some id ∧
      m.step.hub.phase id ≠ .shutdown := by
  have hstep := step_of_script hframes
  obtain ⟨hslot, hphase⟩ := Hub.defaultContext_spec h.numbered
  have hhub : (m.caller.execute (.useDefault handle)).hub = m.hub.defaultContext.2 := by
    simp only [execute, contextFor_about, hub_answer, hub_caller]
    rfl
  refine ⟨m.hub.defaultContext.1, .of_step ?_, ?_, ?_⟩
  · rw [hstep]
    change (m.caller.execute (.useDefault handle)).frames = _
    simp only [execute, contextFor_about, answer_eq, hub_caller]
    rfl
  · rw [hstep]
    exact (Hub.slot_foldl_free ..).trans (hhub ▸ hslot)
  · have hheld : (m.caller.execute (.useDefault handle)).held m.hub.defaultContext.1 = true := by
      simp [held, hhub, hslot]
    have hkept := Hub.phase_congr (p := (m.caller.execute (.useDefault handle)).hub)
      ((find?_collect _ m.hub.defaultContext.1).trans (if_pos hheld))
    rw [hstep, hkept, hhub]
    exact hphase

/-- The end of a shutdown leaves a default context alone that has come since. -/
theorem Reachable.slot_releasing {old new : Nat} {below : List Frame} (h : m.Reachable)
    (hslot : m.hub.slot = some old) (hnew : m.hub.nextId ≤ new) (happenings : List Happening)
    (hframes : (m.run happenings).frames = .releasing old :: below)
    (hnow : (m.run happenings).hub.slot = some new) :
    (m.run happenings).step.hub.slot = some new := by
  have hold := Hub.lt_nextId_of_isSome h.numbered (h.grounded.slot old hslot)
  -- the old context was given out before the new one
  have hne : (m.run happenings).hub.slot ≠ some old := by
    rw [hnow]
    simp only [ne_eq, Option.some.injEq]
    omega
  rw [step_of_advance hframes rfl]
  refine (Hub.slot_foldl_free ..).trans ?_
  change ((m.run happenings).hub.releaseDefault old).slot = some new
  rw [Hub.releaseDefault, if_neg hne, hnow]

end Machine
end RobotClient
