import RobotClient.Proofs.Context.Chronicle
import RobotClient.Proofs.Context.Forwarding
import RobotClient.Proofs.Context.Registry
import RobotClient.Proofs.Context.Runs

set_option autoImplicit false

/-! # The log of a machine

Whatever happens to a machine, its log goes on by the rules of `Chronicle`, and what is true after
the log is true of the machine: `Account` is then the sessions and the handler table of the hub, and
`closing` the shutdowns whose callbacks are in the frames. That a context is initialized for the
first time is what the registry keeps on record; the rest is local to each change. -/

namespace RobotClient

open Relation (ReflTransGen)

namespace Hub

variable {κ : Type} {p q : Hub κ} {id : Nat} {closing : List Nat}

/-! ## The events of an initialization -/

theorem log_watch (p : Hub κ) :
    ∃ quiet, p.watch.log = p.log ++ quiet ∧ ∀ e ∈ quiet, e.tells = false := by
  unfold watch
  split
  · exact ⟨[], by simp, by simp⟩
  · exact ⟨[.watcherStarted], rfl, by simp [Event.tells]⟩

/-- What a session that owns the handlers tells before its initialization. -/
def announcement (id : Nat) (options : HandlerOptions) (owns : Bool) : List Event :=
  if owns then [.handlersInstalled id options] else []

theorem log_install (p : Hub κ) (id : Nat) (options : HandlerOptions) :
    ∃ quiet, (p.install id options).2.log
        = p.log ++ (quiet ++ announcement id options (p.install id options).1) ∧
      ∀ e ∈ quiet, e.tells = false := by
  obtain ⟨quiet, hwatch, hquiet⟩ := log_watch p
  have htable : p.watch.table = p.table := by unfold watch; split <;> rfl
  by_cases ho : options = .no
  · exact ⟨[], by simp [install, ho, announcement], by simp⟩
  · cases ht : p.table with
    | none =>
      exact ⟨quiet, by simp [install, ho, htable, ht, emit, hwatch, announcement], hquiet⟩
    | some t =>
      refine ⟨quiet ++ [.handlersTaken id t.owner t.options], ?_, ?_⟩
      · simp [install, ho, htable, ht, emit, hwatch, announcement]
      · simpa [or_imp, forall_and, Event.tells] using hquiet

/-- The last events of an initialization tell of the session, and before that of the handlers if it
    owns them. -/
theorem log_init {o : InitOptions} (h : p.init id o = .ok q) :
    ∃ s quiet, q.log
        = p.log ++ (quiet ++ announcement id s.handlers s.ownsHandlers ++ [.initialized id s]) ∧
      ∀ e ∈ quiet, e.tells = false := by
  unfold init at h
  cases hp : p.prepare id o with
  | error e => simp [hp, Except.map] at h
  | ok found =>
    obtain ⟨arguments, domainId⟩ := found
    simp only [hp, Except.map, Except.ok.injEq] at h
    subst h
    obtain ⟨quiet, hinstall, hquiet⟩ := log_install p id (p.requestedHandlers id o)
    refine ⟨⟨domainId, arguments, p.requestedHandlers id o,
      (p.install id (p.requestedHandlers id o)).1,
      (p.install id (p.requestedHandlers id o)).2.clock⟩, quiet, ?_, hquiet⟩
    simp only [openSession, emit, register, setPhase, modify, hinstall, List.append_assoc]

/-! ## What is true of a hub -/

/-- What is true of a hub while some shutdowns are under way. -/
def account (p : Hub κ) (closing : List Nat) : Account where
  session? := p.session?
  closing
  handlers := p.table.map fun t => (t.owner, t.options)

/-- Whether the log of a hub tells what is true of it. -/
def Chronicled (p : Hub κ) (closing : List Nat) : Prop := Chronicle p.log (p.account closing)

theorem account_congr (hs : ∀ j, q.session? j = p.session? j) (ht : q.table = p.table) :
    q.account closing = p.account closing := by
  rw [account, funext hs, ht, account]

/-- One context is bound anew. -/
theorem account_bind {s? : Option Session}
    (hs : ∀ j, q.session? j = if j = id then s? else p.session? j) :
    q.account closing = { (p.account closing).bind id s? with
      handlers := q.table.map fun t => (t.owner, t.options) } := by
  have hsession : q.session? = Function.update p.session? id s? := by
    funext j
    rw [hs, Function.update_apply]
  rw [account, hsession]
  rfl

/-- A change that tells nothing. -/
theorem Chronicled.quiet (h : p.Chronicled closing) {events : List Event}
    (hlog : q.log = p.log ++ events) (hquiet : ∀ e ∈ events, e.tells = false)
    (hs : ∀ j, q.session? j = p.session? j) (ht : q.table = p.table) : q.Chronicled closing := by
  rw [Chronicled, hlog, account_congr hs ht]
  exact Chronicle.quiets h hquiet

/-- A change that neither leaves an event nor touches a context or the handlers. -/
theorem Chronicled.congr (h : p.Chronicled closing) (hlog : q.log = p.log)
    (hs : ∀ j, q.session? j = p.session? j) (ht : q.table = p.table) : q.Chronicled closing := by
  rw [Chronicled, hlog, account_congr hs ht]
  exact h

theorem Chronicled.init (h : p.Chronicled closing) (hr : p.Registered) {o : InitOptions}
    (hi : p.init id o = .ok q) : q.Chronicled closing := by
  obtain ⟨s, quiet, hlog, hquiet⟩ := log_init hi
  obtain ⟨c, s', watching, events, hc, hph, -, hcase⟩ := init_cases hi
  have hevents : q.log = p.log ++ (events ++ [.initialized id s']) := by
    rcases hcase with ⟨-, -, rfl⟩ | ⟨-, -, -, rfl⟩ <;> rfl
  obtain rfl : s = s' := by
    have hsame := List.append_cancel_left (hlog.symm.trans hevents)
    simpa using (List.append_inj' hsame rfl).2
  have hnew : ∀ s', .initialized id s' ∉ p.log ++ quiet := by
    intro s' hmem
    rcases List.mem_append.1 hmem with hmem | hmem
    · have hever : id ∈ p.everInitialized := List.mem_filterMap.2 ⟨_, hmem, rfl⟩
      exact (hr.begun id hever).2 (by rw [phase_of_some hc, hph])
    · exact absurd (hquiet _ hmem) (by simp [Event.tells])
  have before : Chronicle (p.log ++ quiet) (p.account closing) := Chronicle.quiets h hquiet
  have hcontexts : q.contexts = modifyFirst id (opened s) p.contexts := by
    rcases hcase with ⟨-, -, rfl⟩ | ⟨-, -, -, rfl⟩ <;> rfl
  rw [Chronicled, hlog, account_bind (session?_of_opened hcontexts hc)]
  rcases hcase with ⟨howns, -, rfl⟩ | ⟨howns, -, hfree, rfl⟩
  · simpa [announcement, howns, account, Account.bind] using before.opened hnew howns
  · simpa [announcement, howns] using
      before.openedOwner hnew howns (by simp [account, hfree])

theorem Chronicled.act (h : p.Chronicled closing) (hn : p.Numbered) (hr : p.Registered)
    (ha : Act p q) : q.Chronicled closing := by
  cases ha with
  | create => exact h.congr rfl (session?_of_fresh hn rfl) rfl
  | useDefault =>
    rcases defaultContext_cases p with ⟨id, -, -, heq⟩ | ⟨-, heq⟩ <;> rw [heq]
    · exact h
    · exact h.quiet rfl (by simp [Event.tells]) (session?_of_fresh hn rfl) rfl
  | init hi => exact h.init hr hi
  | releaseDefault id =>
    unfold releaseDefault
    split <;> exact h.congr rfl (fun _ => rfl) rfl
  | onShutdown id callback =>
    rcases onShutdown_cases p id callback with ⟨-, heq⟩ | ⟨-, heq⟩ <;> rw [heq]
    · exact h
    · exact h.congr rfl (session?_of_pushed rfl) rfl
  | createNode hc =>
    obtain ⟨arguments, -, -, rfl⟩ := createNode_eq_ok hc
    exact h.quiet rfl (by simp [Event.tells]) (fun _ => rfl) rfl

theorem Chronicled.acts (h : p.Chronicled closing) (hn : p.Numbered) (hr : p.Registered)
    (acts : ReflTransGen Act p q) : q.Chronicled closing := by
  induction acts with
  | refl => exact h
  | tail acts ha ih =>
    have moves := acts_moves acts
    exact ih.act (hn.moves moves) (hr.moves hn moves) ha

/-! ## The end of a context -/

/-- A shutdown that begins takes the handlers out before it takes the session away. -/
theorem Chronicled.beginShutdown (h : p.Chronicled closing) {callbacks : List κ}
    (hb : p.beginShutdown id = .ok (callbacks, q)) : q.Chronicled (id :: closing) := by
  obtain ⟨c, s, hc, hph, -, hcase⟩ := beginShutdown_cases hb
  have hsession : p.session? id = some s := session?_eq_some_iff.2 ⟨c, hc, hph⟩
  have hcontexts : q.contexts = modifyFirst id closed p.contexts := by
    rcases hcase with ⟨-, rfl⟩ | ⟨t, -, -, -, rfl⟩ <;> rfl
  rw [Chronicled, account_bind (session?_of_closed hcontexts hc)]
  rcases hcase with ⟨-, rfl⟩ | ⟨t, -, htable, howner, rfl⟩
  · exact (Chronicle.begun h hsession).quiet rfl
  · have handlers : (p.account closing).handlers = some (id, t.options) := by
      simp [account, htable, howner]
    rw [List.append_cons]
    exact ((Chronicle.uninstalled h handlers).begun hsession).quiet rfl

theorem Chronicled.finishShutdown (h : p.Chronicled (id :: closing)) :
    (p.finishShutdown id).Chronicled closing :=
  Chronicle.shutDown h rfl

/-- A context that is freed takes its session away before the handlers are taken out. -/
theorem Chronicled.free (h : p.Chronicled closing) (id : Nat) : (p.free id).Chronicled closing := by
  have hs := session?_of_filtered (contexts_free p id)
  rcases free_cases p id with ⟨hnone, heq⟩ | ⟨s, hsession, -, heq⟩ |
    ⟨s, t, hsession, -, htable, howner, heq⟩
  · refine h.congr (by rw [heq]) (fun j => ?_) (by rw [heq])
    rw [hs]
    split
    · next hj => rw [hj, hnone]
    · rfl
  · rw [Chronicled, account_bind hs, heq]
    exact Chronicle.dropped h hsession
  · have handlers : (p.account closing).handlers = some (id, t.options) := by
      simp [account, htable, howner]
    rw [Chronicled, account_bind hs, heq, List.append_cons]
    exact (Chronicle.dropped h hsession).uninstalled handlers

theorem Chronicled.foldl_free (ids : List Nat) (h : p.Chronicled closing) :
    (ids.foldl Hub.free p).Chronicled closing := by
  induction ids generalizing p with
  | nil => exact h
  | cons id rest ih => exact ih (h.free id)

/-! ## Signals -/

theorem Chronicled.deliver (h : p.Chronicled closing) (signal : Signal) :
    (p.deliver signal).Chronicled closing := by
  rcases deliver_cases p signal with ⟨-, heq⟩ | ⟨label, -, heq⟩ <;> rw [heq] <;>
    exact h.congr rfl (fun _ => rfl) rfl

theorem Chronicled.report (h : p.Chronicled closing) {event : Event}
    (he : event.tellsDispatch = true) : (p.emit event).Chronicled closing := by
  cases event with
  | signalReceived signal count => exact Chronicle.received h signal count
  | signalForwarded | signalKept => exact Chronicle.quiet h rfl
  | _ => exact absurd he (by simp [Event.tellsDispatch])

end Hub

/-! ## Shutdowns under way -/

/-- The context whose shutdown a frame goes on with. -/
def Frame.closing? : Frame → Option Nat
  | .shutting id _ => some id
  | _ => none

namespace Machine

variable {m r : Machine} {id : Nat}

/-- The contexts whose shutdown is under way, the last one first. -/
def closing (frames : List Frame) : List Nat := frames.filterMap Frame.closing?

theorem closing_answered (reply : Reply) (frames : List Frame) :
    closing (answered reply frames) = closing frames := by
  cases frames with
  | nil => rfl
  | cons f below => cases f <;> rfl

/-- Whether the log of a machine tells what is true of it. -/
def Chronicled (m : Machine) : Prop := m.hub.Chronicled (closing m.frames)

/-- A change that tells what is true, with frames that shut nothing else down. -/
theorem Chronicled.answer {hub : Hub Callback} (h : hub.Chronicled (closing m.frames))
    (handles : List (String × Nat)) (nodes : List (String × Node)) (reply : Reply) :
    ({ m with hub, handles, nodes }.answer reply).Chronicled := by
  rw [answer_eq, Chronicled, closing_answered]
  exact h

theorem Called.chronicled (hcalled : Called m r) (h : m.Chronicled) (hn : m.hub.Numbered)
    (hr : m.hub.Registered) : r.Chronicled := by
  cases hcalled with
  | answer handles nodes reply acts known => exact .answer (h.acts hn hr acts) handles nodes reply
  | @shut id callbacks hub releasing reply hb hreleasing =>
    have hnone : closing releasing = [] :=
      List.filterMap_eq_nil_iff.2 fun f hf => by rw [hreleasing f hf]; rfl
    have hclosing : closing (.shutting id callbacks :: (releasing ++ .returning reply :: m.frames))
        = id :: closing m.frames := by
      change id :: (releasing ++ _).filterMap Frame.closing? = _
      rw [List.filterMap_append]
      exact congrArg (id :: · ++ closing m.frames) hnone
    rw [Chronicled, hclosing]
    exact h.beginShutdown hb

theorem Outcome.chronicled {op : Op} (houtcome : Outcome m op r) (h : m.Chronicled)
    (hn : m.hub.Numbered) (hr : m.hub.Registered) : r.Chronicled := by
  cases houtcome with
  | called hcalled => exact hcalled.chronicled h hn hr
  | call callback => exact h
  | race target call count known => exact h
  | takePending reply =>
    have cleared : ({ m.hub with pending := none } : Hub Callback).Chronicled (closing m.frames) :=
      h.congr rfl (fun _ => rfl) rfl
    exact .answer cleared m.handles m.nodes reply
  | dispatch hp => exact h.congr rfl (fun _ => rfl) rfl
  | host signal reply hc hd => exact .answer (h.deliver signal) m.handles m.nodes reply
  | caught hlibrary hc hop hd => exact h.congr rfl (fun _ => rfl) rfl

theorem Concluded.chronicled {signal : Signal} {before : Option Nat}
    (hc : Concluded m signal before r) (h : m.Chronicled) : r.Chronicled := by
  cases hc with
  | report next he => exact h.report he
  | raise => exact h.deliver signal
  | record reply =>
    have noted : (m.hub.noteDelivered signal).Chronicled (closing m.frames) :=
      h.congr rfl (fun _ => rfl) rfl
    exact .answer noted m.handles m.nodes reply

/-- A frame goes on with the log that the machine has with it. -/
theorem Chronicled.advance {f : Frame} (h : m.hub.Chronicled (closing (f :: m.frames)))
    (hn : m.hub.Numbered) (hr : m.hub.Registered) : (m.advance f).Chronicled := by
  fun_cases Machine.advance m f with
  | case1 label op rest replies =>
    exact (outcome_execute
      { m with frames := .script label rest replies :: m.frames } op).chronicled h hn hr
  | case2 | case3 | case4 | case8 => exact h
  | case5 id => exact h.finishShutdown
  | case6 id => exact h.act hn hr (.releaseDefault id)
  | case7 reply => exact .answer h m.handles m.nodes reply
  | case9 signal id rest count before callbacks hub hb => exact h.beginShutdown hb
  | case10 signal count before => exact h.report rfl
  | case11 next signal before => exact (concluded_conclude m signal before next).chronicled h
  | case12 target call rest replies =>
    exact (called_makeCall { m with frames := .racing target call rest replies :: m.frames } target
      call).chronicled h hn hr
  | case13 target call replies => exact .answer h m.handles m.nodes _

theorem Chronicled.step (h : m.Chronicled) (hn : m.hub.Numbered) (hr : m.hub.Registered) :
    m.step.Chronicled := by
  cases hframes : m.frames with
  | nil =>
    have hstep : m.step = m := by rw [Machine.step, hframes]
    rw [hstep]
    exact h
  | cons f below =>
    rw [Chronicled, hframes] at h
    have advanced : (({ m with frames := below } : Machine).advance f).Chronicled :=
      .advance h hn hr
    rw [step_of_advance hframes rfl]
    exact advanced.foldl_free _

theorem Chronicled.happen (h : m.Chronicled) (hn : m.hub.Numbered) (hr : m.hub.Registered)
    (happening : Happening) : (m.happen happening).Chronicled := by
  cases happening with
  | work => exact h.step hn hr
  | call program => exact h
  | arrive signal => exact h.deliver signal
  | tick clock => exact h.congr rfl (fun _ => rfl) rfl
  | handle signal label =>
    simp only [Machine.happen]
    split
    · exact h.congr rfl (fun _ => rfl) rfl
    · exact h

/-- **The log of a machine** goes on by the rules, and what is true after it is true of the
    machine. -/
theorem Chronicled.run (h : m.Chronicled) (hm : m.Reachable) (happenings : List Happening) :
    (m.run happenings).Chronicled := by
  induction happenings generalizing m with
  | nil => exact h
  | cons happening rest ih =>
    exact ih (h.happen hm.numbered hm.registered happening) (hm.happen happening)

end Machine
end RobotClient
