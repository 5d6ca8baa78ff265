import RobotClient.Proofs.Context.Account
import RobotClient.Proofs.Context.Callbacks
import RobotClient.Proofs.Context.Inheritance

set_option autoImplicit false

/-! # What a dispatch counts

The dispatch of a signal is spread over a run: it starts with a step, waits beneath the callbacks of
each shutdown, and leaves its event at the end, with the number of contexts that it shut down.
`dispatches` are the ones that are going on, `Counted` says all that a step does to them, and
`Underway` ties the count to the run: it is the number of contexts that were initialized before, and
shut down after, a step of this dispatch. Contexts that a callback shuts down in between, or another
thread, are not among them. With `Machine.Chronicled` this completes what a log tells, which is the
main statement: `log_tells`. -/

namespace RobotClient

open Relation (ReflTransGen)

namespace Hub

variable {κ : Type} {p q r : Hub κ} {id : Nat}

/-! ## Logs without dispatches -/

/-- Whether no dispatch ends on the way from one hub to another. -/
def Unsignalled (p q : Hub κ) : Prop :=
  ∃ events, q.log = p.log ++ events ∧ ∀ signal count, .signalReceived signal count ∉ events

theorem Unsignalled.of_log (h : q.log = p.log) : Unsignalled p q :=
  ⟨[], by rw [h, List.append_nil], fun _ _ => List.not_mem_nil⟩

theorem Unsignalled.trans (h : Unsignalled p q) (h' : Unsignalled q r) : Unsignalled p r := by
  obtain ⟨events, hlog, hnone⟩ := h
  obtain ⟨events', hlog', hnone'⟩ := h'
  refine ⟨events ++ events', by rw [hlog', hlog, List.append_assoc], fun signal count hmem => ?_⟩
  rcases List.mem_append.1 hmem with hmem | hmem
  · exact hnone signal count hmem
  · exact hnone' signal count hmem

theorem Unsignalled.act (h : Act p q) : Unsignalled p q := by
  cases h with
  | create => exact .of_log rfl
  | useDefault =>
    rcases defaultContext_cases p with ⟨id, -, -, heq⟩ | ⟨-, heq⟩ <;> rw [heq]
    · exact .of_log rfl
    · exact ⟨_, rfl, by simp⟩
  | init hi =>
    obtain ⟨s, quiet, hlog, hquiet⟩ := log_init hi
    refine ⟨_, hlog, fun signal count hmem => ?_⟩
    simp only [List.mem_append, List.mem_singleton, announcement, reduceCtorEq, or_false] at hmem
    rcases hmem with hmem | hmem
    · exact absurd (hquiet _ hmem) (by simp [Event.tells])
    · split at hmem <;> simp at hmem
  | releaseDefault id => unfold releaseDefault; split <;> exact .of_log rfl
  | onShutdown id callback =>
    rcases onShutdown_cases p id callback with ⟨-, heq⟩ | ⟨-, heq⟩ <;> rw [heq] <;>
      exact .of_log rfl
  | createNode hc =>
    obtain ⟨arguments, -, -, rfl⟩ := createNode_eq_ok hc
    exact ⟨_, rfl, by simp⟩

theorem Unsignalled.acts (h : ReflTransGen Act p q) : Unsignalled p q := by
  induction h with
  | refl => exact .of_log rfl
  | tail _ ha ih => exact ih.trans (.act ha)

theorem Unsignalled.beginShutdown {callbacks : List κ}
    (h : p.beginShutdown id = .ok (callbacks, q)) : Unsignalled p q := by
  obtain ⟨c, s, -, -, -, ⟨-, rfl⟩ | ⟨t, -, -, -, rfl⟩⟩ := beginShutdown_cases h <;>
    exact ⟨_, rfl, by simp⟩

theorem Unsignalled.free (p : Hub κ) (id : Nat) : Unsignalled p (p.free id) := by
  rcases free_cases p id with ⟨-, heq⟩ | ⟨s, -, -, heq⟩ | ⟨s, t, -, -, -, -, heq⟩ <;> rw [heq]
  · exact .of_log rfl
  · exact ⟨_, rfl, by simp⟩
  · exact ⟨_, rfl, by simp⟩

theorem Unsignalled.foldl_free (ids : List Nat) (p : Hub κ) :
    Unsignalled p (ids.foldl Hub.free p) := by
  induction ids generalizing p with
  | nil => exact .of_log rfl
  | cons id rest ih => exact (Unsignalled.free p id).trans (ih _)

end Hub

namespace Machine

variable {m r : Machine} {id : Nat}

/-! ## The dispatches that are going on -/

/-- A dispatch that is going on. -/
structure Dispatch where
  signal : Signal
  /-- How many contexts it has shut down. -/
  count : Nat
  /-- How many signals had reached the host, if it is for a signal that was raised. -/
  before : Option Nat
  /-- The work that waits for it. -/
  below : List Frame

/-- The dispatches that are going on, the innermost first. -/
def dispatches : List Frame → List Dispatch
  | [] => []
  | .dispatching signal _ count before :: below =>
    ⟨signal, count, before, below⟩ :: dispatches below
  | _ :: below => dispatches below

theorem dispatches_releasing {releasing : List Frame} (h : ∀ f ∈ releasing, f = .releasing id)
    (below : List Frame) : dispatches (releasing ++ below) = dispatches below := by
  induction releasing with
  | nil => rfl
  | cons f rest ih =>
    rw [List.cons_append, h f List.mem_cons_self, dispatches]
    · exact ih fun g hg => h g (List.mem_cons_of_mem _ hg)
    · intro _ _ _ _ he
      exact Frame.noConfusion he

theorem dispatches_answered (reply : Reply) (frames : List Frame) :
    dispatches (answered reply frames) = dispatches frames := by
  cases frames with
  | nil => rfl
  | cons f below => cases f <;> rfl

theorem mem_dispatches {d : Dispatch} {frames : List Frame} :
    d ∈ dispatches frames ↔
      ∃ top line, frames = top ++ .dispatching d.signal line d.count d.before :: d.below := by
  constructor
  · intro hmem
    induction frames with
    | nil => exact absurd hmem List.not_mem_nil
    | cons f below ih =>
      have later : d ∈ dispatches below →
          ∃ top line, f :: below
            = top ++ .dispatching d.signal line d.count d.before :: d.below := by
        intro hmem
        obtain ⟨top, line, hbelow⟩ := ih hmem
        exact ⟨f :: top, line, by rw [hbelow, List.cons_append]⟩
      cases f with
      | dispatching signal line count before =>
        rcases List.mem_cons.1 hmem with rfl | hmem
        · exact ⟨[], line, rfl⟩
        · exact later hmem
      | _ => exact later hmem
  · rintro ⟨top, line, rfl⟩
    induction top with
    | nil => exact List.mem_cons_self
    | cons f top ih =>
      cases f with
      | dispatching signal line count before => exact List.mem_cons_of_mem _ ih
      | _ => exact ih

theorem length_below_lt {d : Dispatch} {frames : List Frame} (h : d ∈ dispatches frames) :
    d.below.length < frames.length := by
  obtain ⟨top, line, rfl⟩ := mem_dispatches.1 h
  simp only [List.length_append, List.length_cons]
  omega

/-! ## Steps -/

/-- What a step does to the dispatches that are going on: nothing, unless it starts one, goes on
    with the innermost one, or ends it. Only an end is on record. -/
inductive Counted (m r : Machine) : Prop where
  | idle (hframes : m.frames = []) (hr : r.frames = []) (hlog : Hub.Unsignalled m.hub r.hub)
  | other {f : Frame} {below : List Frame} (hframes : m.frames = f :: below)
      (hr : dispatches r.frames = dispatches below)
      (hlog : Hub.Unsignalled m.hub r.hub)
  | started {label : Option String} {op : Op} {rest : List Op} {replies : List Reply}
      {older : List Frame} {signal : Signal} {before : Option Nat}
      (hframes : m.frames = .script label (op :: rest) replies :: older)
      (hr : r.frames = .dispatching signal m.hub.liveContexts 0 before
        :: .script label rest replies :: older)
      (hlog : Hub.Unsignalled m.hub r.hub)
  | skipped {signal : Signal} {j : Nat} {line : List Nat} {count : Nat} {before : Option Nat}
      {below : List Frame}
      (hframes : m.frames = .dispatching signal (j :: line) count before :: below)
      (hj : m.hub.isInitialized j = false)
      (hr : r.frames = .dispatching signal line count before :: below)
      (hlog : Hub.Unsignalled m.hub r.hub)
  | counted {signal : Signal} {j : Nat} {line : List Nat} {count : Nat} {before : Option Nat}
      {below : List Frame} {callbacks : List Callback}
      (hframes : m.frames = .dispatching signal (j :: line) count before :: below)
      (hj : m.hub.isInitialized j = true)
      (hr : r.frames
        = .shutting j callbacks :: .dispatching signal line (count + 1) before :: below)
      (hlog : Hub.Unsignalled m.hub r.hub)
  | ended {signal : Signal} {count : Nat} {before : Option Nat} {below : List Frame}
      (events : List Event) (hframes : m.frames = .dispatching signal [] count before :: below)
      (hr : dispatches r.frames = dispatches below)
      (hlog : r.hub.log = m.hub.log ++ .signalReceived signal count :: events)
      (hevents : ∀ signal count, .signalReceived signal count ∉ events)

theorem Counted.collect (h : Counted m r) : Counted m r.collect := by
  have freed : Hub.Unsignalled r.hub r.collect.hub := .foldl_free _ _
  cases h with
  | idle hframes hr hlog => exact .idle hframes hr (hlog.trans freed)
  | other hframes hr hlog => exact .other hframes hr (hlog.trans freed)
  | started hframes hr hlog => exact .started hframes hr (hlog.trans freed)
  | skipped hframes hj hr hlog => exact .skipped hframes hj hr (hlog.trans freed)
  | counted hframes hj hr hlog => exact .counted hframes hj hr (hlog.trans freed)
  | @ended signal count before below events hframes hr hlog hevents =>
    obtain ⟨more, hmore, hnone⟩ := freed
    refine .ended (events ++ more) hframes hr ?_ fun signal count hmem => ?_
    · rw [hmore, hlog, List.append_assoc, List.cons_append]
    · rcases List.mem_append.1 hmem with hmem | hmem
      · exact hevents signal count hmem
      · exact hnone signal count hmem

/-- A call of the library starts no dispatch and ends none. -/
theorem Called.dispatches (h : Called m r) :
    dispatches r.frames = dispatches m.frames ∧ Hub.Unsignalled m.hub r.hub := by
  cases h with
  | answer handles nodes reply acts known =>
    rw [answer_eq]
    exact ⟨dispatches_answered reply m.frames, .acts acts⟩
  | @shut id callbacks hub releasing reply hb hreleasing =>
    exact ⟨dispatches_releasing hreleasing _, .beginShutdown hb⟩

/-- The end of a dispatch is on record before it looks for an owner. -/
theorem conclude_dispatches (m : Machine) (signal : Signal) (before : Option Nat)
    (next : Conclusion) :
    dispatches (m.conclude signal before next).frames = dispatches m.frames ∧
      Hub.Unsignalled m.hub (m.conclude signal before next).hub := by
  cases next with
  | check =>
    cases ht : m.hub.table <;> simp only [conclude, ht] <;> exact ⟨rfl, _, rfl, by simp⟩
  | raise => exact ⟨rfl, .of_log (Hub.log_deliver m.hub signal)⟩
  | record =>
    simp only [conclude, answer_eq]
    exact ⟨dispatches_answered _ m.frames, .of_log rfl⟩

theorem Outcome.counted {label : Option String} {op : Op} {rest : List Op} {replies : List Reply}
    {older : List Frame} (hframes : m.frames = .script label (op :: rest) replies :: older)
    (h : Outcome { m with frames := .script label rest replies :: older } op r) : Counted m r := by
  have other : dispatches r.frames = dispatches older → Hub.Unsignalled m.hub r.hub →
      Counted m r := fun hr hlog => .other hframes hr hlog
  cases h with
  | called hcalled => exact other hcalled.dispatches.1 hcalled.dispatches.2
  | call callback => exact other rfl (.of_log rfl)
  | race target call count known => exact other rfl (.of_log rfl)
  | takePending reply =>
    rw [answer_eq] at other ⊢
    exact other rfl (.of_log rfl)
  | dispatch hp => exact .started hframes rfl (.of_log rfl)
  | host signal reply hc hd =>
    rw [answer_eq] at other ⊢
    exact other rfl (.of_log (Hub.log_deliver m.hub signal))
  | caught hlibrary hc hop hd => exact .started hframes rfl (.of_log rfl)

theorem counted_advance {f : Frame} {below : List Frame} (hframes : m.frames = f :: below) :
    Counted m (({ m with frames := below } : Machine).advance f) := by
  fun_cases Machine.advance { m with frames := below } f with
  | case1 label op rest replies =>
    exact (outcome_execute { m with frames := .script label rest replies :: below } op).counted
      hframes
  | case2 | case3 | case4 => exact .other hframes rfl (.of_log rfl)
  | case5 id => exact .other hframes rfl ⟨[.shutDown id], rfl, by simp⟩
  | case6 id => exact .other hframes rfl (.act (.releaseDefault id))
  | case7 reply =>
    rw [answer_eq]
    exact .other hframes (dispatches_answered reply below) (.of_log rfl)
  | case8 signal j line count before e he =>
    exact .skipped hframes (Hub.beginShutdown_eq_error he).1 rfl (.of_log rfl)
  | case9 signal j line count before callbacks hub hb =>
    obtain ⟨c, s, hc, hph, -⟩ := Hub.beginShutdown_cases hb
    exact .counted hframes (Hub.isInitialized_iff.2 ⟨c, s, hc, hph⟩) rfl (.beginShutdown hb)
  | case10 signal count before =>
    exact .ended [] hframes rfl rfl fun _ _ => List.not_mem_nil
  | case11 next signal before =>
    obtain ⟨hr, hlog⟩ := conclude_dispatches { m with frames := below } signal before next
    exact .other hframes hr hlog
  | case12 target call rest replies =>
    obtain ⟨hr, hlog⟩ := (called_makeCall
      { m with frames := .racing target call rest replies :: below } target call).dispatches
    exact .other hframes hr hlog
  | case13 target call replies =>
    rw [answer_eq]
    exact .other hframes (dispatches_answered _ below) (.of_log rfl)

/-- **What a step does to the dispatches.** -/
theorem counted_step (m : Machine) : Counted m m.step := by
  cases hframes : m.frames with
  | nil =>
    have hstep : m.step = m := by rw [Machine.step, hframes]
    rw [hstep]
    exact .idle hframes hframes (.of_log rfl)
  | cons f below =>
    rw [step_of_advance hframes rfl]
    exact (counted_advance hframes).collect

/-! ## What a dispatch shuts down -/

/-- Whether the next step is one of the dispatch above some frames, and takes a context from
    initialized to shut down. -/
def Ends (m : Machine) (below : List Frame) (id : Nat) : Prop :=
  (∃ signal line count before, m.frames = .dispatching signal line count before :: below) ∧
    m.hub.isInitialized id = true ∧ m.step.Shut id

theorem not_shut_of_isInitialized (h : m.hub.isInitialized id = true) : ¬ m.Shut id := by
  rintro ⟨c, hc, hph⟩
  obtain ⟨c', s, hc', hph'⟩ := Hub.isInitialized_iff.1 h
  obtain rfl : c = c' := Option.some.inj (hc.symm.trans hc')
  exact absurd (hph.symm.trans hph') (by simp)

/-- It is the context that is next in line. -/
theorem Reachable.ends_iff (h : m.Reachable) {signal : Signal} {j : Nat} {line : List Nat}
    {count : Nat} {before : Option Nat} {below : List Frame}
    (hframes : m.frames = .dispatching signal (j :: line) count before :: below) :
    m.Ends below id ↔ id = j ∧ m.hub.isInitialized j = true := by
  constructor
  · rintro ⟨-, hid, hshut⟩
    have hafter : (m.happen .work).Shut id := hshut
    obtain ⟨-, -, tolerant, receipt, hdemand⟩ :=
      h.demand_of_shut (not_shut_of_isInitialized hid) hafter
    obtain ⟨rfl, -⟩ : j = id ∧ _ := by simpa [demand?, call?, hframes] using hdemand
    exact ⟨rfl, hid⟩
  · rintro ⟨rfl, hid⟩
    refine ⟨⟨signal, id :: line, count, before, hframes⟩, hid, ?_⟩
    obtain ⟨s, hs⟩ := Option.isSome_iff_exists.1 hid
    have hbegin := Hub.beginShutdown_of_session hs
    have hstep := step_of_advance hframes (advance_dispatching_of_ok hbegin)
    have grounded := h.step.grounded.frames
    rw [hstep] at grounded ⊢
    exact shut_iff.2 (grounded _ List.mem_cons_self)

/-- A step of one dispatch is none of a dispatch beneath it. -/
theorem not_ends_of_mem {f : Frame} {below : List Frame} {d : Dispatch}
    (hframes : m.frames = f :: below) (hd : d ∈ dispatches below) : ¬ m.Ends d.below id := by
  rintro ⟨⟨signal, line, count, before, hinner⟩, -⟩
  have hbelow : below = d.below := (List.cons.inj (hframes.symm.trans hinner)).2
  have hlt := length_below_lt hd
  rw [hbelow] at hlt
  exact Nat.lt_irrefl _ hlt

/-! ## A dispatch in a run -/

/-- How a dispatch that is going on came about: something happened first, then a program asked for
    it, and it has lasted since. Its count is the number of contexts that it has shut down. -/
structure Underway (m : Machine) (first middle : List Happening) (d : Dispatch) : Prop where
  starts : ∃ label op rest replies older,
    (m.run first).frames = .script label (op :: rest) replies :: older ∧
    d.below = .script label rest replies :: older ∧
    (m.run (first ++ [.work])).frames
      = .dispatching d.signal (m.run first).hub.liveContexts 0 d.before :: d.below
  lasts : ∀ front, front <+: middle → ∃ top line count,
    (m.run (first ++ .work :: front)).frames
      = top ++ .dispatching d.signal line count d.before :: d.below
  counts : ∃ ids : List Nat, ids.Nodup ∧ ids.length = d.count ∧ ∀ id, id ∈ ids ↔
    ∃ front, front ++ [.work] <+: middle ∧ (m.run (first ++ .work :: front)).Ends d.below id

/-- A dispatch that has just been asked for. -/
theorem Underway.start {first : List Happening} {label : Option String} {op : Op}
    {rest : List Op} {replies : List Reply} {older : List Frame} {signal : Signal}
    {before : Option Nat}
    (hframes : (m.run first).frames = .script label (op :: rest) replies :: older)
    (hr : (m.run first).step.frames = .dispatching signal (m.run first).hub.liveContexts 0 before
      :: .script label rest replies :: older) :
    m.Underway first [] ⟨signal, 0, before, .script label rest replies :: older⟩ where
  starts := ⟨label, op, rest, replies, older, hframes, rfl, by rw [run_concat]; exact hr⟩
  lasts front hfront := by
    obtain rfl := List.prefix_nil.1 hfront
    rw [run_concat]
    exact ⟨[], _, 0, hr⟩
  counts := ⟨[], List.nodup_nil, rfl, fun id => by simp⟩

theorem prefix_work_concat {front middle : List Happening} {last : Happening} :
    front ++ [.work] <+: middle ++ [last] ↔
      front ++ [.work] <+: middle ∨ front = middle ∧ last = .work := by
  rw [List.prefix_concat_iff, or_comm]
  refine or_congr Iff.rfl ⟨fun h => ?_, ?_⟩
  · obtain ⟨rfl, hlast⟩ := List.append_inj' h rfl
    exact ⟨rfl, (List.cons.inj hlast).1.symm⟩
  · rintro ⟨rfl, rfl⟩
    rfl

theorem run_underway (m : Machine) (first middle : List Happening) (last : Happening) :
    m.run (first ++ .work :: (middle ++ [last]))
      = (m.run (first ++ .work :: middle)).happen last := by
  rw [← List.cons_append, ← List.append_assoc, run_concat]

/-- A dispatch that is there after one more thing has happened, with what it has counted by then. -/
theorem Underway.concat {first middle : List Happening} {d : Dispatch}
    (h : m.Underway first middle d) {last : Happening} {count : Nat}
    (hmem : { d with count } ∈ dispatches ((m.run (first ++ .work :: middle)).happen last).frames)
    (hcounts : ∃ ids : List Nat, ids.Nodup ∧ ids.length = count ∧ ∀ id, id ∈ ids ↔
      ∃ front, front ++ [.work] <+: middle ++ [last] ∧
        (m.run (first ++ .work :: front)).Ends d.below id) :
    m.Underway first (middle ++ [last]) { d with count } := by
  refine ⟨h.starts, fun front hfront => ?_, hcounts⟩
  rcases List.prefix_concat_iff.1 hfront with rfl | hfront
  · rw [run_underway]
    obtain ⟨top, line, hframes⟩ := mem_dispatches.1 hmem
    exact ⟨top, line, count, hframes⟩
  · exact h.lasts front hfront

/-- What is no step of the dispatch leaves its count. -/
theorem Underway.same {first middle : List Happening} {d : Dispatch}
    (h : m.Underway first middle d) {last : Happening}
    (hmem : d ∈ dispatches ((m.run (first ++ .work :: middle)).happen last).frames)
    (hnone : last = .work → ∀ id, ¬ (m.run (first ++ .work :: middle)).Ends d.below id) :
    m.Underway first (middle ++ [last]) d := by
  obtain ⟨ids, hnodup, hlength, hids⟩ := h.counts
  refine h.concat hmem ⟨ids, hnodup, hlength, fun id => (hids id).trans ?_⟩
  constructor
  · rintro ⟨front, hfront, hends⟩
    exact ⟨front, prefix_work_concat.2 (.inl hfront), hends⟩
  · rintro ⟨front, hfront, hends⟩
    rcases prefix_work_concat.1 hfront with hfront | ⟨rfl, hwork⟩
    · exact ⟨front, hfront, hends⟩
    · exact absurd hends (hnone hwork id)

/-- A step of the dispatch that shuts a context down: one that it has not shut down before, since
    that is still shut down. -/
theorem Underway.one {first middle : List Happening} {d : Dispatch}
    (h : m.Underway first middle d) (hm : m.Reachable)
    (hmem : { d with count := d.count + 1 }
      ∈ dispatches ((m.run (first ++ .work :: middle)).happen .work).frames)
    (hone : ∀ j, (m.run (first ++ .work :: middle)).Ends d.below j ↔ j = id) :
    m.Underway first (middle ++ [.work]) { d with count := d.count + 1 } := by
  obtain ⟨ids, hnodup, hlength, hids⟩ := h.counts
  have hnew : id ∉ ids := by
    intro hid
    obtain ⟨front, ⟨rest, hfront⟩, -, -, hshut⟩ := (hids id).1 hid
    have hthen : m.run (first ++ .work :: middle)
        = ((m.run (first ++ .work :: front)).step).run rest := by
      rw [← hfront, ← List.cons_append, ← List.cons_append, ← List.append_assoc,
        ← List.append_assoc, run_append, run_concat]
      rfl
    have hphase := ((hm.run (first ++ .work :: front)).step.shut_run hshut rest).2
    have hinit := ((hone id).2 rfl).2.1
    rw [hthen, Hub.isInitialized_of_shutdown hphase] at hinit
    exact absurd hinit (by decide)
  refine h.concat hmem ⟨ids ++ [id], ?_, by simp [hlength], fun j => ?_⟩
  · rw [List.nodup_append]
    refine ⟨hnodup, List.nodup_singleton id, fun a ha b hb => ?_⟩
    rw [List.mem_singleton] at hb
    exact fun he => hnew (hb ▸ he ▸ ha)
  · rw [List.mem_append, List.mem_singleton, hids]
    constructor
    · rintro (⟨front, hfront, hends⟩ | rfl)
      · exact ⟨front, prefix_work_concat.2 (.inl hfront), hends⟩
      · exact ⟨middle, prefix_work_concat.2 (.inr ⟨rfl, rfl⟩), (hone j).2 rfl⟩
    · rintro ⟨front, hfront, hends⟩
      rcases prefix_work_concat.1 hfront with hfront | ⟨rfl, -⟩
      · exact .inl ⟨front, hfront, hends⟩
      · exact .inr ((hone j).1 hends)

/-- Where a dispatch that is going on came from. -/
def Traces (m : Machine) (happenings : List Happening) (d : Dispatch) : Prop :=
  ∃ first middle, happenings = first ++ .work :: middle ∧ m.Underway first middle d

theorem mem_dispatches_cons {d : Dispatch} {f : Frame} {below : List Frame}
    (h : d ∈ dispatches below) : d ∈ dispatches (f :: below) := by
  cases f with
  | dispatching signal line count before => exact List.mem_cons_of_mem _ h
  | _ => exact h

theorem Traces.same {front : List Happening} {d : Dispatch} (h : m.Traces front d)
    {last : Happening} (hmem : d ∈ dispatches ((m.run front).happen last).frames)
    (hnone : last = .work → ∀ id, ¬ (m.run front).Ends d.below id) :
    m.Traces (front ++ [last]) d := by
  obtain ⟨first, middle, rfl, underway⟩ := h
  exact ⟨first, middle ++ [last], by simp, underway.same hmem hnone⟩

/-- **The dispatches that are going on** are each the work of a run. -/
theorem Reachable.traces (h : m.Reachable) (hidle : m.frames = []) (happenings : List Happening) :
    ∀ d ∈ dispatches (m.run happenings).frames, m.Traces happenings d := by
  induction happenings using List.reverseRecOn with
  | nil =>
    intro d hd
    exact absurd hd (by simp [Machine.run, hidle, dispatches])
  | append_singleton front last ih =>
    intro d hd
    have hm := h.run front
    rw [run_concat] at hd
    -- what happens beside the work touches no dispatch
    have aside : last ≠ .work → d ∈ dispatches (m.run front).frames →
        m.Traces (front ++ [last]) d := fun hne hmem =>
      (ih d hmem).same hd fun he => absurd he hne
    cases last with
    | call program => exact aside (by simp) hd
    | arrive signal => exact aside (by simp) hd
    | tick clock => exact aside (by simp) hd
    | handle signal label =>
      refine aside (by simp) ?_
      simp only [Machine.happen] at hd
      split at hd <;> exact hd
    | work =>
      -- nor does a step touch those beneath its frame
      have deeper : ∀ {f below}, (m.run front).frames = f :: below → d ∈ dispatches below →
          m.Traces (front ++ [.work]) d := by
        intro f below hframes hmem
        have hbefore := ih d (by rw [hframes]; exact mem_dispatches_cons hmem)
        exact hbefore.same hd fun _ id => not_ends_of_mem hframes hmem
      cases counted_step (m.run front) with
      | idle hframes hr => exact absurd hd (by simp [Machine.happen, hr, dispatches])
      | other hframes hr => exact deeper hframes (hr ▸ hd)
      | @started label op rest replies older signal before hframes hr =>
        have hnew := hd
        rw [Machine.happen, hr] at hnew
        rcases List.mem_cons.1 hnew with rfl | hmem
        · exact ⟨front, [], rfl, .start hframes hr⟩
        · exact deeper hframes hmem
      | @skipped signal j line count before below hframes hj hr =>
        have hnew := hd
        rw [Machine.happen, hr] at hnew
        rcases List.mem_cons.1 hnew with rfl | hmem
        · have hbefore := ih ⟨signal, count, before, below⟩
            (by rw [hframes]; exact List.mem_cons_self)
          refine hbefore.same hd fun _ id hends => ?_
          rw [((hm.ends_iff hframes).1 hends).2] at hj
          exact absurd hj (by decide)
        · exact deeper hframes hmem
      | @counted signal j line count before below callbacks hframes hj hr =>
        have hnew := hd
        rw [Machine.happen, hr] at hnew
        rcases List.mem_cons.1 hnew with rfl | hmem
        · obtain ⟨first, middle, rfl, underway⟩ := ih ⟨signal, count, before, below⟩
            (by rw [hframes]; exact List.mem_cons_self)
          have hone : ∀ id, (m.run (first ++ .work :: middle)).Ends below id ↔ id = j := by
            intro id
            rw [hm.ends_iff hframes, hj]
            exact and_iff_left rfl
          exact ⟨first, middle ++ [.work], by simp, underway.one h hd hone⟩
        · exact deeper hframes hmem
      | ended _ hframes hr => exact deeper hframes (hr ▸ hd)

/-! ## The end of a dispatch -/

theorem unsignalled_happen (m : Machine) {happening : Happening} (hne : happening ≠ .work) :
    Hub.Unsignalled m.hub (m.happen happening).hub := by
  cases happening with
  | work => exact absurd rfl hne
  | call program => exact .of_log rfl
  | arrive signal => exact .of_log (Hub.log_deliver m.hub signal)
  | tick clock => exact .of_log rfl
  | handle signal label =>
    simp only [Machine.happen]
    split <;> exact .of_log rfl

/-- Whether a run dealt with a signal when the log was `front`: a program asked for the dispatch, it
    shut `count` contexts down, and it came to its end. -/
def Recorded (m : Machine) (happenings : List Happening) (front : List Event) (signal : Signal)
    (count : Nat) : Prop :=
  ∃ first middle last before below,
    happenings = first ++ .work :: (middle ++ .work :: last) ∧
    m.Underway first middle ⟨signal, count, before, below⟩ ∧
    (m.run (first ++ .work :: middle)).frames = .dispatching signal [] count before :: below ∧
    (m.run (first ++ .work :: middle)).hub.log = front

theorem Recorded.concat {happenings : List Happening} {front : List Event} {signal : Signal}
    {count : Nat} (h : m.Recorded happenings front signal count) (happening : Happening) :
    m.Recorded (happenings ++ [happening]) front signal count := by
  obtain ⟨first, middle, last, before, below, rfl, underway, hframes, hfront⟩ := h
  exact ⟨first, middle, last ++ [happening], before, below, by simp, underway, hframes, hfront⟩

/-- **What a dispatch counts.** Every event about a signal that was dealt with is that of a dispatch
    in the run. -/
theorem Reachable.recorded (h : m.Reachable) (hidle : m.frames = []) (hempty : m.hub.log = [])
    (happenings : List Happening) {front back : List Event} {signal : Signal} {count : Nat}
    (hlog : (m.run happenings).hub.log = front ++ .signalReceived signal count :: back) :
    m.Recorded happenings front signal count := by
  induction happenings using List.reverseRecOn generalizing back with
  | nil =>
    rw [Machine.run, List.foldl_nil, hempty] at hlog
    exact absurd hlog (by simp)
  | append_singleton earlier last ih =>
    rw [run_concat] at hlog
    -- without an end of a dispatch the event was there before
    have quiet : Hub.Unsignalled (m.run earlier).hub ((m.run earlier).happen last).hub →
        m.Recorded (earlier ++ [last]) front signal count := by
      rintro ⟨events, hevents, hnone⟩
      rw [hevents] at hlog
      rcases split_append hlog with ⟨back', hbefore, -⟩ | ⟨front', -, rfl⟩
      · exact (ih hbefore).concat last
      · exact absurd (List.mem_append_right _ List.mem_cons_self) (hnone signal count)
    by_cases hwork : last = .work
    · subst hwork
      cases counted_step (m.run earlier) with
      | idle _ _ hnone | started _ _ hnone => exact quiet hnone
      | other _ _ hnone | skipped _ _ _ hnone | counted _ _ _ hnone => exact quiet hnone
      | @ended signal' count' before below events hframes _ hended hnone =>
        rw [Machine.happen, hended] at hlog
        rcases split_append hlog with ⟨back', hbefore, -⟩ | ⟨front', hfront, hevents⟩
        · exact (ih hbefore).concat .work
        · rcases List.cons_eq_append_iff.1 hevents with ⟨rfl, hhead⟩ | ⟨front'', -, rfl⟩
          · obtain ⟨heq, -⟩ := List.cons.inj hhead
            obtain ⟨rfl, rfl⟩ : signal = signal' ∧ count = count' := by simpa using heq
            rw [List.append_nil] at hfront
            obtain ⟨first, middle, rfl, underway⟩ := h.traces hidle earlier
              ⟨signal, count, before, below⟩ (by rw [hframes]; exact List.mem_cons_self)
            exact ⟨first, middle, [], before, below, by simp, underway, hframes, hfront.symm⟩
          · exact absurd (List.mem_append_right _ List.mem_cons_self) (hnone signal count)
    · exact quiet (unsignalled_happen _ hwork)

/-! ## The log of a run -/

theorem mem_closing {frames : List Frame} (h : id ∈ closing frames) :
    ∃ callbacks, .shutting id callbacks ∈ frames := by
  obtain ⟨f, hf, hclosing⟩ := List.mem_filterMap.1 h
  cases f with
  | shutting id' callbacks =>
    obtain rfl := Option.some.inj hclosing
    exact ⟨callbacks, hf⟩
  | _ => exact absurd hclosing (by simp [Frame.closing?])

/-- **The log tells what is true.** Take any run from the start, at any moment between two steps.
The contexts that are alive and initialized are those with an initialization on record and no end
after it, whose session is the one on record. Only a context whose shutdown is under way is shut
down before its end is on record; without work there is none. Each context has one initialization on
record at most, and then one end at most, after it. The owner of the handlers and what is handled
are those of the last event that put handlers in, unless they were taken out since; handlers are put
in and taken out in turn, by the same context each time. An initialization says that its context
owns the handlers exactly if they were installed for that context, which is then the event right
before it. And where the log says that a signal was dealt with, the run has a dispatch of it that
ended there, and the number on record is that of the contexts which this dispatch took from
initialized to shut down. -/
theorem log_tells (clock : String) (nextId : Nat) (watching : Bool) (interrupt terminate : Nat)
    (happenings : List Happening) :
    let start := fresh clock nextId watching interrupt terminate
    let m := start.run happenings
    let log := m.hub.log
    (∀ id, id ∉ closing m.frames → ∀ s,
      (∃ c ∈ m.hub.contexts, c.id = id ∧ c.phase = .initialized s) ↔
        Stands (Event.ends id) (.initialized id s) log) ∧
    (∀ id ∈ closing m.frames, m.hub.lifecycle id = .shutdown ∧
      ∃ s, Stands (Event.ends id) (.initialized id s) log) ∧
    (∀ id, ∃ s last, last.ends id = true ∧
      log.filter (Event.concerns id) <+: [.initialized id s, last]) ∧
    (∀ id options, m.hub.owner? = some id ∧ m.hub.handlers = options ↔
      Stands Event.turnsHandlers (.handlersInstalled id options) log) ∧
    (∃ past : List (Nat × HandlerOptions), log.filter Event.turnsHandlers
      = past.flatMap (fun x => [.handlersInstalled x.1 x.2, .handlersUninstalled x.1])
        ++ (m.hub.table.map fun t => .handlersInstalled t.owner t.options).toList) ∧
    (∀ front id s back, log = front ++ .initialized id s :: back →
      (s.ownsHandlers = true ↔ front.getLast? = some (.handlersInstalled id s.handlers)) ∧
      (s.ownsHandlers = true ↔ ∃ options, .handlersInstalled id options ∈ front)) ∧
    (∀ front signal count back, log = front ++ .signalReceived signal count :: back →
      start.Recorded happenings front signal count) := by
  intro start m log
  have hstart : start.Reachable := .start clock nextId watching interrupt terminate
  have hm : m.Reachable := hstart.run happenings
  have hempty : start.Chronicled := Chronicle.start
  have told : Chronicle log (m.hub.account (closing m.frames)) := hempty.run hstart happenings
  refine ⟨fun id hid s => ?_, fun id hid => ?_, told.life_prefix, fun id options => ?_, ?_,
    fun front id s back hlog => ?_, fun front signal count back hlog => ?_⟩
  · rw [← hm.session?_eq_some_iff]
    exact told.session?_iff hid
  · obtain ⟨callbacks, hmem⟩ := mem_closing hid
    have hphase : m.hub.phase id = .shutdown := (hm.grounded.frames _ hmem).2
    exact ⟨by rw [Hub.lifecycle, hphase]; rfl, (told.of_closing hid).2⟩
  · rw [← told.handlers_iff]
    cases htable : m.hub.table with
    | none => simp [Hub.owner?, Hub.account, htable]
    | some t => simp [Hub.owner?, Hub.handlers, Hub.account, htable]
  · obtain ⟨past, hpast⟩ := told.turns
    exact ⟨past, hpast.trans (by rw [Hub.account, Option.map_map]; rfl)⟩
  · obtain ⟨hlast, hearlier⟩ := told.owns_iff hlog
    refine ⟨hlast, fun howns => ⟨s.handlers, ?_⟩, hearlier⟩
    exact List.mem_of_getLast? (hlast.1 howns)
  · exact hstart.recorded rfl rfl happenings hlog

end Machine
end RobotClient
