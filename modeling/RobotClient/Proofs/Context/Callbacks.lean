import RobotClient.Proofs.Context.Ledger
import RobotClient.Proofs.Context.Ownership
import RobotClient.Proofs.Context.Refinement
import RobotClient.Proofs.Context.Registry

set_option autoImplicit false

/-! # Callbacks run once

The callbacks of a context that were registered before its shutdown start in the shutdown, each of
them once and in the order of their registration; one that is registered later runs at once, and a
context that is never shut down runs none. All of this is read off the balance of `Ledger`: as long
as a context is not shut down nothing starts and everything waits with it (`Reachable.unshut`), and
afterwards nothing is added to what waits (`Reachable.begun_run`). The programs that run as
callbacks are those that were started that way and no others (`running_run`). Main statement:
`shutdown_callbacks`. -/

namespace RobotClient

namespace Machine

variable {m r : Machine} {id : Nat}

/-! ## Contexts that are shut down -/

/-- Whether a context is there and shut down. -/
def Shut (m : Machine) (id : Nat) : Prop := ∃ c, m.hub.find? id = some c ∧ c.phase = .shutdown

/-- Whether a run comes to a moment at which a context is shut down. -/
def EverShut (m : Machine) (happenings : List Happening) (id : Nat) : Prop :=
  ∃ front, front <+: happenings ∧ (m.run front).Shut id

theorem shut_iff : m.Shut id ↔ (m.hub.find? id).isSome = true ∧ m.hub.phase id = .shutdown := by
  constructor
  · rintro ⟨c, hc, hph⟩
    exact ⟨by rw [hc]; rfl, by rw [Hub.phase_of_some hc, hph]⟩
  · rintro ⟨hsome, hph⟩
    obtain ⟨c, hc⟩ := Option.isSome_iff_exists.1 hsome
    exact ⟨c, hc, by rw [← Hub.phase_of_some hc, hph]⟩

theorem everShut_concat {front : List Happening} {last : Happening} :
    m.EverShut (front ++ [last]) id ↔
      m.EverShut front id ∨ (m.run (front ++ [last])).Shut id := by
  constructor
  · rintro ⟨hs, hprefix, hshut⟩
    rcases List.prefix_concat_iff.1 hprefix with rfl | hprefix
    · exact .inr hshut
    · exact .inl ⟨hs, hprefix, hshut⟩
  · rintro (⟨hs, hprefix, hshut⟩ | hshut)
    · exact ⟨hs, hprefix.trans (List.prefix_append ..), hshut⟩
    · exact ⟨_, List.prefix_rfl, hshut⟩

theorem Reachable.shut_run (h : m.Reachable) (hshut : m.Shut id) (happenings : List Happening) :
    id < (m.run happenings).hub.nextId ∧ (m.run happenings).hub.phase id = .shutdown := by
  obtain ⟨hsome, hphase⟩ := shut_iff.1 hshut
  have hlt := Hub.lt_nextId_of_isSome h.numbered hsome
  have moves := moves_run m happenings
  exact ⟨Nat.lt_of_lt_of_le hlt (Hub.nextId_le_of_moves moves),
    Hub.shutdown_of_moves moves h.numbered hlt hphase⟩

theorem Reachable.everShut_run (h : m.Reachable) {happenings : List Happening}
    (hever : m.EverShut happenings id) :
    id < (m.run happenings).hub.nextId ∧ (m.run happenings).hub.phase id = .shutdown := by
  obtain ⟨front, ⟨rest, rfl⟩, hshut⟩ := hever
  rw [run_append]
  exact (h.run front).shut_run hshut rest

/-! ## What starts -/

theorem mem_callbackOf {start? : Option (Nat × Callback)} {callback : Callback} :
    callback ∈ callbackOf id start? ↔ start? = some (id, callback) := by
  cases start? with
  | none => simp [callbackOf]
  | some start =>
    obtain ⟨id', callback'⟩ := start
    by_cases hid : id' = id
    · simp [callbackOf, hid, eq_comm]
    · simp [callbackOf, hid]

theorem begins?_eq {callback : Callback} (h : m.begins? = some (id, callback)) :
    ∃ rest below, m.frames = .shutting id (callback :: rest) :: below := by
  unfold begins? at h
  split at h
  · next hframes =>
    obtain ⟨rfl, rfl⟩ := Prod.mk.inj (Option.some.inj h)
    exact ⟨_, _, hframes⟩
  · exact absurd h (by simp)

theorem registers?_eq {callback : Callback} (h : m.registers? = some (id, callback)) :
    m.call? = some (.onShutdown id callback) := by
  obtain ⟨call, hcall, hregisters⟩ := Option.bind_eq_some_iff.1 h
  cases call with
  | onShutdown id' callback' =>
    obtain ⟨rfl, rfl⟩ := Prod.mk.inj (Option.some.inj hregisters)
    exact hcall
  | _ => exact absurd hregisters (by simp [Call.registers?])

/-- A context that a program names is there. -/
theorem Reachable.registers_isSome (h : m.Reachable) {callback : Callback}
    (hcall : m.call? = some (.onShutdown id callback)) : (m.hub.find? id).isSome = true := by
  unfold call? at hcall
  split at hcall
  · obtain ⟨name, hname⟩ := target_of_callOf? hcall (rfl : some id = some id)
    rw [handles_caller] at hname
    exact h.grounded.handles _ hname
  · next target racing rest replies below hframes =>
    cases racing <;> exact absurd hcall (by simp [callOfRace])
  · exact absurd hcall (by simp)

/-- A callback that is registered on a context that is shut down runs within the call. -/
theorem step_atOnce {callback : Callback} (hcall : m.call? = some (.onShutdown id callback))
    (hphase : m.hub.phase id = .shutdown) :
    m.step.frames = .script (some callback.label) callback.body [] :: .returning (.ok .done)
      :: m.caller.frames := by
  rw [step_of_call hcall, serve]
  rcases Hub.onShutdown_cases m.caller.hub id callback with ⟨-, heq⟩ | ⟨hne, -⟩
  · rw [heq]
    rfl
  · exact absurd hphase (by simpa using hne)

/-- A callback that starts belongs to a context that is shut down, and its program is next. -/
theorem Reachable.starts (h : m.Reachable) {callback : Callback}
    (hstarts : callback ∈ begun id m ++ atOnce id m) :
    m.Shut id ∧ ∃ below, m.step.frames
      = .script (some callback.label) callback.body [] :: below := by
  rcases List.mem_append.1 hstarts with hbegun | honce
  · obtain ⟨rest, below, hframes⟩ := begins?_eq (mem_callbackOf.1 hbegun)
    have hgrounded := h.grounded.frames (.shutting id (callback :: rest)) (by simp [hframes])
    refine ⟨shut_iff.2 hgrounded, .shutting id rest :: below, ?_⟩
    rw [step_of_advance hframes rfl]
    rfl
  · unfold atOnce at honce
    split at honce
    · next hphase =>
      have hcall := registers?_eq (mem_callbackOf.1 honce)
      exact ⟨shut_iff.2 ⟨h.registers_isSome hcall, hphase⟩, _, step_atOnce hcall hphase⟩
    · exact absurd honce List.not_mem_nil

theorem Reachable.starts_nil (h : m.Reachable) (hshut : ¬ m.Shut id) :
    begun id m = [] ∧ atOnce id m = [] := by
  rw [← List.append_eq_nil_iff]
  exact List.eq_nil_iff_forall_not_mem.2 fun callback hstarts => hshut (h.starts hstarts).1

/-- A context that is not shut down has no callbacks in the frames. -/
theorem Reachable.queued_of_unshut (h : m.Reachable) (hshut : ¬ m.Shut id) :
    queued id m.frames = [] := by
  refine List.flatMap_eq_nil_iff.2 fun f hf => ?_
  cases f with
  | shutting id' callbacks =>
    have hgrounded := h.grounded.frames _ hf
    exact if_neg fun he : id' = id => hshut (shut_iff.2 (he ▸ hgrounded))
  | _ => rfl

theorem onStep_eq_nil {α : Type} {read : Machine → List α} (h : read m = [])
    (happening : Happening) : onStep read m happening = [] := by
  cases happening with
  | work => exact h
  | _ => rfl

/-! ## Before and after the shutdown -/

/-- As long as a context is not shut down, nothing starts, and all that is registered waits. -/
theorem Reachable.unshut (h : m.Reachable) (hcontexts : m.hub.contexts = [])
    (happenings : List Happening) (hever : ¬ m.EverShut happenings id) :
    along (onStep (begun id)) m happenings = [] ∧ along (onStep (atOnce id)) m happenings = [] ∧
    (((m.run happenings).hub.find? id).isSome = true ∨ (m.run happenings).hub.nextId ≤ id →
      along (onStep (kept id)) m happenings = (m.run happenings).hub.stored id) := by
  induction happenings using List.reverseRecOn with
  | nil =>
    refine ⟨rfl, rfl, fun _ => ?_⟩
    change [] = m.hub.stored id
    rw [Hub.stored, Hub.find?, hcontexts]
    rfl
  | append_singleton front last ih =>
    rw [everShut_concat, not_or, run_concat] at hever
    obtain ⟨hfront, hlast⟩ := hever
    obtain ⟨hbegun, honce, hkept⟩ := ih hfront
    have hm := h.run front
    have hunshut : ¬ (m.run front).Shut id := fun hshut =>
      hfront ⟨front, List.prefix_rfl, hshut⟩
    obtain ⟨hbegin, hrun⟩ := hm.starts_nil hunshut
    simp only [along_concat, run_concat]
    rw [hbegun, honce, onStep_eq_nil hbegin, onStep_eq_nil hrun]
    refine ⟨rfl, rfl, fun hid => ?_⟩
    have moves := moves_happen (m.run front) last
    rcases hid with hsome | hle
    · -- the balance, with nothing in the frames before and after
      have hbefore := Hub.isSome_of_moves moves hsome
      have balanced := hm.waiting_happen last (.inl hsome)
      rw [onStep_eq_nil hbegin, List.nil_append, waiting, waiting,
        (hm.happen last).queued_of_unshut hlast, hm.queued_of_unshut hunshut, List.nil_append,
        List.nil_append, ← hkept hbefore] at balanced
      exact balanced.symm
    · -- the context is still to come
      have hle' := Nat.le_trans (Hub.nextId_le_of_moves moves) hle
      have hnone : kept id (m.run front) = [] := by
        refine List.eq_nil_iff_forall_not_mem.2 fun callback hmem => ?_
        unfold kept at hmem
        split at hmem
        · exact absurd hmem List.not_mem_nil
        · have hsome := hm.registers_isSome (registers?_eq (mem_callbackOf.1 hmem))
          exact absurd (Hub.lt_nextId_of_isSome hm.numbered hsome) (Nat.not_lt.2 hle')
      rw [onStep_eq_nil hnone, List.append_nil, hkept (.inr hle'),
        Hub.stored_of_none (Hub.find?_of_nextId_le hm.numbered hle'),
        Hub.stored_of_none (Hub.find?_of_nextId_le (hm.happen last).numbered hle)]

/-- Once a context is shut down, only what is in the frames starts, in this order. -/
theorem Reachable.begun_run (h : m.Reachable) (hlt : id < m.hub.nextId)
    (hphase : m.hub.phase id = .shutdown) (happenings : List Happening) :
    along (onStep (begun id)) m happenings ++ queued id (m.run happenings).frames
      = queued id m.frames := by
  induction happenings generalizing m with
  | nil => rfl
  | cons happening rest ih =>
    have moves := moves_happen m happening
    have hlater := Hub.shutdown_of_moves moves h.numbered hlt hphase
    have balanced := h.waiting_happen happening (.inr ⟨hlt, hphase⟩)
    have hkept : kept id m = [] := if_pos hphase
    rw [onStep_eq_nil hkept, waiting, waiting, h.spent id hphase,
      (h.happen happening).spent id hlater] at balanced
    simp only [List.append_nil] at balanced
    have hrest := ih (h.happen happening) (Nat.lt_of_lt_of_le hlt (Hub.nextId_le_of_moves moves))
      hlater
    rw [along, List.append_assoc]
    exact (congrArg _ hrest).trans balanced

/-- **The balance of a run** that comes to the shutdown of a context: what was kept for it has
    started or is in the frames. -/
theorem Reachable.kept_run (h : m.Reachable) (hcontexts : m.hub.contexts = [])
    (happenings : List Happening) (hever : m.EverShut happenings id) :
    along (onStep (kept id)) m happenings
      = along (onStep (begun id)) m happenings ++ queued id (m.run happenings).frames := by
  induction happenings using List.reverseRecOn with
  | nil =>
    obtain ⟨front, hprefix, c, hc, -⟩ := hever
    obtain rfl := List.prefix_nil.1 hprefix
    have hnone : m.hub.find? id = none := by simp [Hub.find?, hcontexts]
    exact absurd (hnone.symm.trans hc) (by simp)
  | append_singleton front last ih =>
    have hm := h.run front
    rw [everShut_concat] at hever
    simp only [along_concat, run_concat] at hever ⊢
    by_cases hfront : m.EverShut front id
    · obtain ⟨hlt, hphase⟩ := h.everShut_run hfront
      have hkept : kept id (m.run front) = [] := if_pos hphase
      have hrun := hm.begun_run hlt hphase [last]
      have hlast : along (onStep (begun id)) (m.run front) [last]
          = onStep (begun id) (m.run front) last := List.append_nil _
      rw [hlast] at hrun
      rw [onStep_eq_nil hkept, List.append_nil, ih hfront, List.append_assoc]
      exact congrArg _ hrun.symm
    · -- this is the moment at which the context is shut down
      have hshut := hever.resolve_left hfront
      obtain ⟨hsome, hphase⟩ := shut_iff.1 hshut
      obtain ⟨hbegun, -, hkept⟩ := h.unshut hcontexts front hfront
      have hunshut : ¬ (m.run front).Shut id := fun hshut =>
        hfront ⟨front, List.prefix_rfl, hshut⟩
      have hbefore := Hub.isSome_of_moves (moves_happen (m.run front) last) hsome
      have balanced := hm.waiting_happen last (.inl hsome)
      rw [onStep_eq_nil (hm.starts_nil hunshut).1, waiting, waiting, hm.queued_of_unshut hunshut,
        (hm.happen last).spent id hphase, ← hkept hbefore] at balanced
      rw [hbegun, onStep_eq_nil (hm.starts_nil hunshut).1]
      simpa using balanced.symm

/-! ## The shutdown -/

/-- Where a demand leads to the end, it is a shutdown of a context that is initialized. -/
theorem next_eq_shutdown {x : Phase} {d : Demand} (hx : x ≠ .shutdown) (h : x.next d = .shutdown) :
    x.session?.isSome = true ∧ ∃ tolerant receipt, d = .shutdown tolerant receipt := by
  cases x with
  | uninitialized =>
    cases d with
    | init offer => cases offer <;> exact absurd h (by simp [Phase.next])
    | _ => exact absurd h (by simp [Phase.next])
  | initialized s =>
    cases d with
    | shutdown tolerant receipt => exact ⟨rfl, tolerant, receipt, rfl⟩
    | _ => exact absurd h (by simp [Phase.next])
  | shutdown => exact absurd rfl hx

theorem demandsOf_eq {d : Demand} (h : d ∈ m.demandsOf id) :
    m.demandsOf id = [d] ∧ m.demand? = some (id, d) := by
  unfold demandsOf at h ⊢
  cases hd : m.demand? with
  | none => exact absurd (hd ▸ h) List.not_mem_nil
  | some demand =>
    obtain ⟨id', d'⟩ := demand
    simp only [hd] at h ⊢
    by_cases hid : id' = id
    · rw [if_pos hid] at h ⊢
      obtain rfl := List.mem_singleton.1 h
      exact ⟨rfl, by rw [hid]⟩
    · rw [if_neg hid] at h
      exact absurd h List.not_mem_nil

/-- Only a step shuts a context down, and only if a shutdown of it is demanded while it is
    initialized. -/
theorem Reachable.demand_of_shut (h : m.Reachable) {happening : Happening}
    (hbefore : ¬ m.Shut id) (hafter : (m.happen happening).Shut id) :
    happening = .work ∧ m.hub.isInitialized id = true ∧
      ∃ tolerant receipt, m.demand? = some (id, .shutdown tolerant receipt) := by
  obtain ⟨hsome, hphase⟩ := shut_iff.1 hafter
  have hreach := h.happen happening
  have hstage := h.stage_happen happening (.inl hsome)
  rw [Hub.stage_of_lt (Hub.lt_nextId_of_isSome hreach.numbered hsome), hphase] at hstage
  -- a context that is there now was there before or is new, and a new one is not shut down
  have hne : m.hub.stage id ≠ .shutdown := by
    intro hshut
    by_cases hlt : id < m.hub.nextId
    · rw [Hub.stage_of_lt hlt] at hshut
      have hold := (Hub.isSome_of_moves (moves_happen m happening) hsome).resolve_right
        (Nat.not_le.2 hlt)
      exact hbefore (shut_iff.2 ⟨hold, hshut⟩)
    · rw [Hub.stage_of_le (Nat.not_lt.1 hlt)] at hshut
      exact absurd hshut (by simp)
  cases happening with
  | work =>
    change Phase.shutdown = (m.demandsOf id).foldl Phase.next (m.hub.stage id) at hstage
    cases hdemands : m.demandsOf id with
    | nil =>
      rw [hdemands] at hstage
      exact absurd hstage.symm hne
    | cons d rest =>
      obtain ⟨hone, hdemand⟩ := demandsOf_eq (hdemands ▸ List.mem_cons_self)
      rw [hone] at hstage
      obtain ⟨hsession, tolerant, receipt, rfl⟩ := next_eq_shutdown hne hstage.symm
      refine ⟨rfl, ?_, tolerant, receipt, hdemand⟩
      rw [Hub.stage] at hsession
      split at hsession
      · exact hsession
      · exact absurd hsession (by simp [Phase.session?])
  | call | arrive | tick | handle => exact absurd hstage.symm hne

/-- A shutdown is demanded by a call or by the dispatch of a signal. -/
theorem demand?_eq_shutdown {tolerant : Bool} {receipt : Reply}
    (h : m.demand? = some (id, .shutdown tolerant receipt)) :
    (∃ target, m.call? = some (.shutdown target tolerant receipt) ∧
      target.or m.hub.slot = some id) ∨
    ∃ signal line count before below,
      m.frames = .dispatching signal (id :: line) count before :: below := by
  unfold demand? at h
  split at h
  · next call hcall =>
    refine .inl ?_
    cases call with
    | shutdown target tolerant' receipt' =>
      obtain ⟨id', htarget, hd⟩ := Option.map_eq_some_iff.1 h
      obtain ⟨rfl, hd⟩ := Prod.mk.inj hd
      cases hd
      exact ⟨target, hcall, htarget⟩
    | ask id' question =>
      cases question <;> exact absurd h (by simp [Call.demand?, Demand.ofQuestion?])
    | _ => exact absurd h (by simp [Call.demand?])
  · next hframes =>
    obtain ⟨rfl, -⟩ := Prod.mk.inj (Option.some.inj h)
    exact .inr ⟨_, _, _, _, _, hframes⟩
  · exact absurd h (by simp)

/-- A shutdown whose work has started and is over has started what waited in its frame. -/
theorem Reachable.begun_until (h : m.Reachable) (hbefore : ¬ m.Shut id)
    (hafter : m.step.Shut id) {k : Nat} (hend : queued id (m.step.after k).frames = []) :
    along (onStep (begun id)) m (List.replicate (k + 1) .work) = m.hub.stored id := by
  obtain ⟨hsome, hphase⟩ := shut_iff.1 hafter
  have hrun := h.step.begun_run (Hub.lt_nextId_of_isSome h.step.numbered hsome) hphase
    (List.replicate k .work)
  have balanced := h.waiting_happen .work (.inl hsome)
  -- a step that shuts a context down registers nothing
  have hunkept : onStep (kept id) m .work = [] := by
    have hwork : (m.happen .work).Shut id := hafter
    obtain ⟨-, -, tolerant, receipt, hdemand⟩ := h.demand_of_shut hbefore hwork
    change kept id m = []
    rw [kept, registers?]
    rcases demand?_eq_shutdown hdemand with
      ⟨target, hcall, -⟩ | ⟨s, line, count, before, below, hframes⟩
    · rw [hcall]
      exact ite_self _
    · rw [call?, hframes]
      exact ite_self _
  have hbegin : onStep (begun id) m .work = [] := (h.starts_nil hbefore).1
  rw [hbegin, hunkept, waiting, waiting, h.queued_of_unshut hbefore] at balanced
  change [] ++ (queued id m.step.frames ++ m.step.hub.stored id) = _ at balanced
  rw [h.step.spent id hphase] at balanced
  rw [run_work, hend, List.append_nil] at hrun
  rw [List.replicate_succ, along, hbegin, List.nil_append]
  change along (onStep (begun id)) m.step (List.replicate k .work) = m.hub.stored id
  rw [hrun]
  simpa using balanced

theorem exists_beginShutdown {κ : Type} {p : Hub κ} (h : p.isInitialized id = true) :
    ∃ callbacks hub, p.beginShutdown id = .ok (callbacks, hub) := by
  cases hb : p.beginShutdown id with
  | error e =>
    rw [(Hub.beginShutdown_eq_error hb).1] at h
    exact absurd h (by decide)
  | ok started => exact ⟨started.1, started.2, rfl⟩

/-- **The one shutdown.** Whatever shuts a context down is a call of a shutdown or the dispatch of a
    signal, and the callbacks that wait with the context start, in this order, before the call comes
    back or the dispatch goes on. -/
theorem Reachable.begun_in_shutdown (h : m.Reachable) {happening : Happening}
    (hbefore : ¬ m.Shut id) (hafter : (m.happen happening).Shut id) :
    happening = .work ∧
    ∃ n, along (onStep (begun id)) m (List.replicate n .work) = m.hub.stored id ∧
      ((∃ target tolerant receipt, m.call? = some (.shutdown target tolerant receipt) ∧
          target.or m.hub.slot = some id ∧ m.Answers m.caller.frames n receipt) ∨
        ∃ signal line count before below,
          m.frames = .dispatching signal (id :: line) count before :: below ∧
          (m.after n).frames = .dispatching signal line (count + 1) before :: below) := by
  obtain ⟨rfl, hinit, tolerant, receipt, hdemand⟩ := h.demand_of_shut hbefore hafter
  refine ⟨rfl, ?_⟩
  obtain ⟨callbacks, hub, hb⟩ := exists_beginShutdown hinit
  rcases demand?_eq_shutdown hdemand with
    ⟨target, hcall, htarget⟩ | ⟨signal, line, count, before, below, hframes⟩
  · have hstep : m.step.frames
        = (.shutting id callbacks :: if target.isNone then [.releasing id] else [])
          ++ .returning receipt :: m.caller.frames := by
      rw [step_of_call hcall, serve, startShutdown, hub_caller, htarget]
      simp only [hb]
      rfl
    obtain ⟨n, answers⟩ := exists_answered hstep
    obtain ⟨k, rfl⟩ := Nat.exists_eq_succ_of_ne_zero (Nat.ne_of_gt answers.pos)
    have hend : queued id (m.step.after k).frames = [] := by
      have hanswer : (m.step.after k).frames = answered receipt m.caller.frames := answers.answer
      rw [hanswer, queued_answered, queued_caller, h.queued_of_unshut hbefore]
    exact ⟨k + 1, h.begun_until hbefore hafter hend,
      .inl ⟨target, tolerant, receipt, hcall, htarget, answers⟩⟩
  · have hstep : m.step.frames
        = [.shutting id callbacks] ++ .dispatching signal line (count + 1) before :: below := by
      rw [step_of_advance hframes (advance_dispatching_of_ok hb)]
      rfl
    have hdeaf := deaf_dispatching signal line (count + 1) before below
    obtain ⟨k, hend, -⟩ := exists_after_eq hdeaf hstep
    have hqueued : queued id (m.step.after k).frames = [] := by
      have hbelow := h.queued_of_unshut hbefore
      rw [hframes, queued_cons] at hbelow
      rw [hend, queued_cons]
      exact hbelow
    exact ⟨k + 1, h.begun_until hbefore hafter hqueued,
      .inr ⟨signal, line, count, before, below, hframes, hend⟩⟩

/-! ## The programs that run -/

/-- The callbacks whose programs are going on, the innermost first. -/
def running (frames : List Frame) : List String :=
  frames.filterMap fun
    | .script label _ _ => label
    | _ => none

/-- The callback that the next step starts, with its context. -/
def starts? (m : Machine) : Option (Nat × Callback) :=
  m.begins?.or (m.registers?.filter fun start => m.hub.phase start.1 = .shutdown)

/-- The name of the callback that the next step starts. -/
def started (m : Machine) : List String := (m.starts?.map fun start => start.2.label).toList

/-- The name of the callback that the next step ends. -/
def ended (m : Machine) : List String :=
  match m.frames with
  | .script label [] _ :: _ => label.toList
  | _ => []

@[simp] theorem running_answered (reply : Reply) (frames : List Frame) :
    running (answered reply frames) = running frames := by
  cases frames with
  | nil => rfl
  | cons f below => cases f <;> rfl

theorem running_answer (m : Machine) (reply : Reply) :
    running (m.answer reply).frames = running m.frames := by
  rw [answer_eq]
  exact running_answered ..

theorem running_caller (m : Machine) : running m.caller.frames = running m.frames := by
  unfold caller
  split
  · next hframes => rw [hframes]; rfl
  · next hframes => rw [hframes]; rfl
  · rfl

/-- A call starts a program only if it registers a callback that runs at once. -/
theorem running_serve (m : Machine) (call : Call) :
    running (m.serve call).frames
      = ((call.registers?.filter fun start => m.hub.phase start.1 = .shutdown).map
          fun start => start.2.label).toList ++ running m.frames := by
  cases call with
  | init target keepAs o =>
    simp only [serve, initContext, contextFor_about]
    split <;> exact running_answer ..
  | shutdown target tolerant receipt =>
    simp only [serve, startShutdown]
    split
    · exact running_answer ..
    · split
      · exact running_answer ..
      · cases target <;> rfl
  | onShutdown id callback =>
    rw [serve, Call.registers?]
    rcases Hub.onShutdown_cases m.hub id callback with ⟨hph, heq⟩ | ⟨hph, heq⟩ <;> rw [heq]
    · simp [Option.filter, hph, running]
    · simpa [Option.filter, hph] using running_answer ..
  | createNode target name ns keepAs =>
    simp only [serve, createNode, contextFor_about]
    split <;> exact running_answer ..
  | ask id question => exact running_answer ..
  | defaultOk => exact running_answer ..

theorem started_of_none (hcall : m.call? = none) (hbegins : m.begins? = none) :
    m.started = [] := by
  rw [started, starts?, hbegins, registers?, hcall]
  rfl

theorem running_idle {r : Machine} (h : Idle m r) : running r.frames = running m.frames := by
  rcases h.frames with
    ⟨reply, heq⟩ | ⟨target, call, count, heq⟩ | ⟨signal, line, before, heq⟩ <;> rw [heq]
  · exact running_answered ..
  · rfl
  · rfl

/-- The name of the callback that a frame ends. -/
def Frame.ends? : Frame → Option String
  | .script label [] _ => label
  | _ => none

theorem ended_eq {f : Frame} {below : List Frame} (hframes : m.frames = f :: below) :
    m.ended = (Frame.ends? f).toList := by
  rw [ended, hframes]
  cases f with
  | script label ops replies => cases ops <;> rfl
  | _ => rfl

theorem ended_of_call {call : Call} (hcall : m.call? = some call) : m.ended = [] := by
  obtain ⟨f, below, hframes, hasks⟩ := exists_asks_of_call hcall
  rw [ended_eq hframes]
  cases f with
  | script label ops replies =>
    cases ops with
    | nil => exact absurd hasks (by simp [Frame.asks])
    | cons op rest => rfl
  | _ => rfl

/-- A frame that asks for nothing ends a callback or starts one, or leaves all as they are. -/
theorem running_advance {f : Frame} (hasks : f.asks = false) :
    (Frame.ends? f).toList ++ running (m.advance f).frames
      = ((Frame.begins? f).map fun start => start.2.label).toList ++ running (f :: m.frames) := by
  fun_cases advance m f with
  | case1 | case8 | case9 | case12 => exact absurd hasks (by simp [Frame.asks])
  | case7 | case13 =>
    rw [running_answer]
    simp [running, Frame.ends?, Frame.begins?]
  | case11 next signal before =>
    rcases (concluded_conclude m signal before next).frames with ⟨later, heq⟩ | ⟨reply, heq⟩ <;>
      rw [heq]
    · rfl
    · exact running_answered ..
  | _ => simp [running, Frame.ends?, Frame.begins?]

/-- **The programs of a step**: what ends and what goes on is what started and what went on. -/
theorem running_step (m : Machine) :
    m.ended ++ running m.step.frames = m.started ++ running m.frames := by
  by_cases hwork : m.frames = []
  · have hstep : m.step = m := by rw [Machine.step, hwork]
    have hidle : m.started = [] :=
      started_of_none (by rw [call?, hwork]) (by rw [begins?, hwork])
    rw [hstep, hidle, ended, hwork]
  · obtain ⟨r, hr, stepped, -⟩ := exists_stepped hwork
    have hafter : m.step.frames = r.frames := by rw [hr]; rfl
    rw [hafter]
    cases stepped with
    | @call call hcall =>
      rw [ended_of_call hcall, started, starts?, begins?_of_call hcall, registers?, hcall,
        running_serve, hub_caller, running_caller]
      rfl
    | idle hcall hidle hframes =>
      obtain ⟨label, op, rest, replies, below, hframes⟩ := hframes
      have hended : m.ended = [] := ended_eq hframes
      rw [hended, started_of_none hcall (by rw [begins?, hframes]), running_idle hidle,
        running_caller]
    | @skip signal j count line before below hframes he =>
      have hended : m.ended = [] := ended_eq hframes
      rw [hended, started_of_none (by rw [call?, hframes]) (by rw [begins?, hframes]), hframes]
      rfl
    | @shut signal j count line before below callbacks hub hframes hb =>
      have hended : m.ended = [] := ended_eq hframes
      rw [hended, started_of_none (by rw [call?, hframes]) (by rw [begins?, hframes]), hframes]
      rfl
    | @pass f below hframes hasks =>
      have hcall := call?_of_pass hframes hasks
      have hstarts : m.starts? = Frame.begins? f := by
        rw [starts?, registers?, hcall, begins?_of_frames hframes]
        exact Option.or_none
      rw [ended_eq hframes, started, hstarts, hframes]
      exact running_advance hasks

/-- **The programs of a run**: the callbacks that have ended and those that go on are the ones that
    were started, in some order, and those that went on before. -/
theorem running_run (m : Machine) (happenings : List Happening) :
    (along (onStep ended) m happenings ++ running (m.run happenings).frames).Perm
      (along (onStep started) m happenings ++ running m.frames) := by
  induction happenings generalizing m with
  | nil => exact .refl _
  | cons happening rest ih =>
    have hstep : onStep ended m happening ++ running (m.happen happening).frames
        = onStep started m happening ++ running m.frames := by
      cases happening with
      | work => exact running_step m
      | call program => rfl
      | arrive signal => rfl
      | tick clock => rfl
      | handle signal label =>
        simp only [Machine.happen]
        split <;> rfl
    have hrest := (ih (m.happen happening)).append_left (onStep ended m happening)
    have hfirst := List.Perm.of_eq hstep
    have front : ∀ xs ys zs : List String, (xs ++ (ys ++ zs)).Perm (ys ++ (xs ++ zs)) :=
      fun xs ys zs => by
        rw [← List.append_assoc, ← List.append_assoc]
        exact List.perm_append_comm.append_right zs
    rw [along, along, List.append_assoc, List.append_assoc]
    exact hrest.trans ((front ..).trans ((hfirst.append_left _).trans (front ..)))

/-! ## Callbacks run once -/

/-- **Callbacks run once, in order.** Take any run from the start, a context, and the callbacks that
were registered on it: those kept for its shutdown and those registered when it was shut down. Of
the kept ones a front part has started, in the order of their registration. If the context was never
shut down, nothing has; otherwise what has not started is in the frames of the shutdown, and starts
when the work goes on. Whatever shuts the context down is a call or a dispatch, and all that was
kept starts before that comes back; a shutdown that is refused only answers. A callback registered
when the context is shut down starts at once, and then the registering call comes back. When a
callback starts, its context is shut down, out of the registry and without the handlers, and stays
so. The callbacks that go on or have ended are those that were started, and no others. -/
theorem shutdown_callbacks (clock : String) (nextId : Nat) (watching : Bool)
    (interrupt terminate : Nat) (happenings : List Happening) (id : Nat) :
    let start := fresh clock nextId watching interrupt terminate
    let m := start.run happenings
    let kept := along (onStep (kept id)) start happenings
    let begun := along (onStep (begun id)) start
    let atOnce := along (onStep (atOnce id)) start happenings
    begun happenings <+: kept ∧
    (¬ start.EverShut happenings id → begun happenings = [] ∧ atOnce = []) ∧
    (start.EverShut happenings id →
      kept = begun happenings ++ queued id m.frames ∧
      ∃ n, let later := happenings ++ List.replicate n .work
        (start.run later).frames = [] ∧ begun later = kept) ∧
    (∀ happening, ¬ m.Shut id → (m.happen happening).Shut id → happening = .work ∧
      ∃ n, along (onStep (Machine.begun id)) m (List.replicate n .work) = kept ∧
        ((∃ target tolerant receipt, m.call? = some (.shutdown target tolerant receipt) ∧
            target.or m.hub.slot = some id ∧ m.Answers m.caller.frames n receipt) ∨
          ∃ signal line count before below,
            m.frames = .dispatching signal (id :: line) count before :: below ∧
            (m.after n).frames = .dispatching signal line (count + 1) before :: below)) ∧
    (∀ target tolerant receipt, m.call? = some (.shutdown target tolerant receipt) →
      (∀ j, target.or m.hub.slot = some j → m.hub.isInitialized j = false) →
      m.Answers m.caller.frames 1 (if tolerant then receipt else .failed .notInitialized)) ∧
    (∀ callback, m.call? = some (.onShutdown id callback) → m.hub.phase id = .shutdown →
      Machine.atOnce id m = [callback] ∧ ∃ n, m.Answers m.caller.frames n (.ok .done)) ∧
    (∀ callback, callback ∈ Machine.begun id m ++ Machine.atOnce id m →
      (∃ below, m.step.frames = .script (some callback.label) callback.body [] :: below) ∧
      ∀ later, (m.run later).hub.lifecycle id = .shutdown ∧
        id ∉ (m.run later).hub.liveContexts ∧ (m.run later).hub.owner? ≠ some id) ∧
    (along (onStep ended) start happenings ++ running m.frames).Perm
      (along (onStep started) start happenings) := by
  intro start m kept begun atOnce
  have hstart : start.Reachable := .start clock nextId watching interrupt terminate
  have hm : m.Reachable := hstart.run happenings
  have hnone : start.hub.contexts = [] := rfl
  refine ⟨?_, fun hever => ?_, fun hever => ?_, fun happening hbefore hafter => ?_,
    fun target tolerant receipt hcall hinit => answers_refused hcall hinit,
    fun callback hcall hphase => ?_, fun callback hstarts => ?_, ?_⟩
  · -- before the shutdown nothing has started, and afterwards the rest is in the frames
    by_cases hever : start.EverShut happenings id
    · have hkept : kept = begun happenings ++ _ := hstart.kept_run hnone happenings hever
      rw [hkept]
      exact List.prefix_append ..
    · have hbegun : begun happenings = [] := (hstart.unshut hnone happenings hever).1
      rw [hbegun]
      exact List.nil_prefix
  · obtain ⟨hbegun, honce, -⟩ := hstart.unshut hnone happenings hever
    exact ⟨hbegun, honce⟩
  · have hkept := hstart.kept_run hnone happenings hever
    obtain ⟨hlt, hphase⟩ := hstart.everShut_run hever
    -- all work ends, and then nothing is left in the frames
    obtain ⟨n, hrest⟩ := exists_after_nil m
    have hrun := hm.begun_run hlt hphase (List.replicate n .work)
    rw [run_work, hrest, queued_nil, List.append_nil] at hrun
    refine ⟨hkept, n, ?_, ?_⟩
    · rw [run_append, run_work]
      exact hrest
    · change along _ start (happenings ++ List.replicate n .work) = kept
      rw [along_append, hrun]
      exact hkept.symm
  · obtain ⟨hwork, n, hbegun, hends⟩ := hm.begun_in_shutdown hbefore hafter
    obtain ⟨-, hinit, -⟩ := hm.demand_of_shut hbefore hafter
    -- a context is shut down once, so all that was kept still waits with it
    have hever : ¬ start.EverShut happenings id := fun hever => by
      rw [Hub.isInitialized_of_shutdown (hstart.everShut_run hever).2] at hinit
      exact absurd hinit (by decide)
    obtain ⟨c, s, hc, -⟩ := Hub.isInitialized_iff.1 hinit
    have hkept := (hstart.unshut hnone happenings hever).2.2 (.inl (by rw [hc]; rfl))
    exact ⟨hwork, n, hbegun.trans hkept.symm, hends⟩
  · refine ⟨by rw [Machine.atOnce, if_pos hphase, registers?, hcall]; exact if_pos rfl, ?_⟩
    have hstep : m.step.frames
        = [.script (some callback.label) callback.body []] ++ .returning (.ok .done)
          :: m.caller.frames := step_atOnce hcall hphase
    exact exists_answered hstep
  · obtain ⟨hshut, hnext⟩ := hm.starts hstarts
    refine ⟨hnext, fun later => ?_⟩
    have hlater := hm.run later
    have hphase := (hm.shut_run hshut later).2
    have hinit := Hub.isInitialized_of_shutdown hphase
    refine ⟨by rw [Hub.lifecycle, hphase]; rfl, fun hlive => ?_, fun howner => ?_⟩
    · rw [hlater.mem_liveContexts_iff.1 hlive] at hinit
      exact absurd hinit (by decide)
    · obtain ⟨s, hs, -⟩ := hlater.owned.owner?_eq_some_iff.1 howner
      rw [Hub.isInitialized, hs] at hinit
      exact absurd hinit (by simp)
  · have hrun := running_run start happenings
    have hidle : running start.frames = [] := rfl
    rwa [hidle, List.append_nil] at hrun

end Machine
end RobotClient
