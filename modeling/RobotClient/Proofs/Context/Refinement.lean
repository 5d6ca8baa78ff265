import Mathlib.Data.List.Induction
import RobotClient.Proofs.Context.Calls
import RobotClient.Proofs.Context.Return
import RobotClient.Proofs.Context.Stages

set_option autoImplicit false

/-! # Contexts refine the three-state model

Whatever a program does, each context is where the model of `Stages` leads with what was demanded of
the context, and each demand is answered as the model says. The demands come from calls of programs
and races, and from the dispatch of a signal, which shuts down the contexts in its line. A step
makes at most one demand (`Machine.demand?`); `served_serve` compares what comes of it with the
model, `Reachable.step_staged` does so for the rest of a step, and `Reachable.stage_run` for a whole
run. Main statement: `lifecycle_refinement`. -/

namespace RobotClient

open Relation (ReflTransGen)

/-! ## Demands -/

/-- A question as a demand, unless more than the context's life goes into the answer. -/
def Demand.ofQuestion? : Question → Option Demand
  | .lifecycle => some .lifecycle
  | .domainId => some .domainId
  | .arguments => some .arguments
  | .status => some .status
  | .ok => some .ok
  | .waitForShutdown => some .waitForShutdown
  | .id | .isDefault | .display => none

namespace Call

/-- What a call demands, and of which context. A question about the default context, or its
    shutdown, demands nothing if there is none. -/
def demand? (p : Hub Callback) : Call → Option (Nat × Demand)
  | .init target _ o =>
    some ((p.about target).1, .init ((p.about target).2.offer (p.about target).1 o))
  | .shutdown target tolerant receipt =>
    (target.or p.slot).map fun id => (id, .shutdown tolerant receipt)
  | .onShutdown _ _ => none
  | .createNode target name ns _ => some ((p.about target).1, .createNode name ns)
  | .ask id question => (Demand.ofQuestion? question).map fun d => (id, d)
  | .defaultOk => p.slot.map fun id => (id, .ok)

end Call

namespace Machine

variable {m r : Machine}

/-- What the next step demands, and of which context. -/
def demand? (m : Machine) : Option (Nat × Demand) :=
  match m.call?, m.frames with
  | some call, _ => call.demand? m.hub
  | none, .dispatching _ (id :: _) _ _ :: _ => some (id, .shutdown true (.ok .done))
  | none, _ => none

/-- What the next step demands of one context. -/
def demandsOf (id : Nat) (m : Machine) : List Demand :=
  match m.demand? with
  | some (id', d) => if id' = id then [d] else []
  | none => []

/-- What comes of a demand: the stages are as the model has them, and the answer of the model is
    given at once or waits beneath the work that has started. -/
structure Served (m : Machine) (demand? : Option (Nat × Demand)) (r : Machine) : Prop where
  stage : ∀ j, r.hub.stage j = m.hub.stageAfter demand? j
  answer : ∀ id d, demand? = some (id, d) →
    r.frames = answered ((m.hub.stage id).answer id d) m.frames ∨
    ∃ above, r.frames = above ++ .returning ((m.hub.stage id).answer id d) :: m.frames

/-! ## Calls -/

/-- A demand that is answered at once. -/
theorem Served.of_answer {id : Nat} {d : Demand} {hub : Hub Callback}
    (handles : List (String × Nat)) (nodes : List (String × Node)) {reply : Reply}
    (hstage : ∀ j, hub.stage j = m.hub.stageAfter (some (id, d)) j)
    (hanswer : (m.hub.stage id).answer id d = reply) :
    Served m (some (id, d)) ({ m with hub, handles, nodes }.answer reply) := by
  refine ⟨fun j => by rw [hub_answer]; exact hstage j, fun id' d' hd => .inl ?_⟩
  obtain ⟨rfl, rfl⟩ := Prod.mk.inj (Option.some.inj hd)
  rw [answer_eq, hanswer]

theorem served_initContext (hn : m.hub.Numbered) (target : Option Nat)
    (hknown : ∀ id, target = some id → id < m.hub.nextId) (keepAs : Option String)
    (o : InitOptions) :
    Served m ((Call.init target keepAs o).demand? m.hub) (m.initContext target keepAs o) := by
  obtain ⟨hn', hlt⟩ := Hub.about_numbered hn target hknown
  have hsame := Hub.stage_about hn target
  unfold initContext
  rw [contextFor_about]
  dsimp only
  rcases Hub.init_stage hn' hlt o with ⟨e, he, hnext, hanswer⟩ | ⟨q, hq, hstage, hanswer⟩
  · rw [he]
    rw [hsame] at hnext hanswer
    exact .of_answer m.handles m.nodes
      (fun j => by rw [hsame, Hub.stageAfter_of_next hnext]) hanswer
  · rw [hq]
    rw [hsame] at hanswer
    refine .of_answer _ m.nodes (fun j => ?_) hanswer
    rw [hstage, Hub.stageAfter, hsame]
    rfl

theorem served_createNode (hn : m.hub.Numbered) (target : Option Nat)
    (hknown : ∀ id, target = some id → id < m.hub.nextId) (name ns : String)
    (keepAs : Option String) :
    Served m ((Call.createNode target name ns keepAs).demand? m.hub)
      (m.createNode target name ns keepAs) := by
  obtain ⟨hn', hlt⟩ := Hub.about_numbered hn target hknown
  have hsame := Hub.stage_about hn target
  have hidle : ∀ j, m.hub.stageAfter (some ((m.hub.about target).1, .createNode name ns)) j
      = m.hub.stage j := Hub.stageAfter_of_next (by cases m.hub.stage _ <;> rfl)
  unfold createNode
  rw [contextFor_about]
  dsimp only
  rcases Hub.createNode_stage hlt name ns with
    ⟨e, he, hanswer⟩ | ⟨node, q, hq, hcontexts, hnext, hanswer⟩
  · rw [he]
    rw [hsame] at hanswer
    exact .of_answer m.handles m.nodes (fun j => by rw [hsame, hidle]) hanswer
  · rw [hq]
    rw [hsame] at hanswer
    refine .of_answer m.handles _ (fun j => ?_) hanswer
    rw [Hub.stage_of_contexts hnext hcontexts, hsame, hidle]

theorem served_startShutdown (hn : m.hub.Numbered) (target : Option Nat) (tolerant : Bool)
    (receipt : Reply) :
    Served m ((Call.shutdown target tolerant receipt).demand? m.hub)
      (m.startShutdown target tolerant receipt) := by
  rw [startShutdown, Call.demand?]
  cases htarget : target.or m.hub.slot with
  | none => exact ⟨fun j => by rw [hub_answer]; rfl, fun id d hd => absurd hd (by simp)⟩
  | some id =>
    dsimp only
    rcases Hub.beginShutdown_stage hn id tolerant receipt with
      ⟨he, hnext, hanswer⟩ | ⟨callbacks, q, hq, hstage, hanswer⟩
    · rw [he]
      exact .of_answer m.handles m.nodes (fun j => (Hub.stageAfter_of_next hnext j).symm) hanswer
    · rw [hq]
      refine ⟨hstage, fun id' d hd => .inr ?_⟩
      obtain ⟨rfl, rfl⟩ := Prod.mk.inj (Option.some.inj hd)
      rw [hanswer]
      exact ⟨.shutting id callbacks :: if target.isNone then [.releasing id] else [], rfl⟩

/-- A question changes nothing. -/
theorem next_ofQuestion? {question : Question} {d : Demand}
    (h : Demand.ofQuestion? question = some d) (x : Phase) : x.next d = x := by
  cases question <;> cases h <;> cases x <;> rfl

theorem reply_eq_answer {question : Question} {d : Demand} {id : Nat}
    (h : Demand.ofQuestion? question = some d) (hid : id < m.hub.nextId) :
    (m.hub.stage id).answer id d = reply m.hub id question := by
  rw [Hub.stage_of_lt hid]
  generalize hx : m.hub.phase id = x
  cases question <;> cases h <;> cases x <;>
    simp only [reply, Hub.lifecycle, Hub.domainId, Hub.arguments, Hub.status, Hub.isInitialized,
      Hub.session?, hx] <;> rfl

theorem served_ask (id : Nat) (hid : id < m.hub.nextId) (question : Question) :
    Served m ((Call.ask id question).demand? m.hub) (m.answer (reply m.hub id question)) := by
  rw [Call.demand?]
  cases hd : Demand.ofQuestion? question with
  | none => exact ⟨fun j => by rw [hub_answer]; rfl, fun id d hd => absurd hd (by simp)⟩
  | some d =>
    exact .of_answer m.handles m.nodes
      (fun j => (Hub.stageAfter_of_next (next_ofQuestion? hd _) j).symm) (reply_eq_answer hd hid)

theorem served_defaultOk (hslot : ∀ id, m.hub.slot = some id → id < m.hub.nextId) :
    Served m (Call.defaultOk.demand? m.hub)
      (m.answer (.ok (.flag m.hub.defaultIsInitialized))) := by
  rw [Call.demand?, Hub.defaultIsInitialized]
  cases hs : m.hub.slot with
  | none => exact ⟨fun j => by rw [hub_answer]; rfl, fun id d hd => absurd hd (by simp)⟩
  | some id => exact served_ask id (hslot id hs) .ok

/-- What `onShutdown` does to the contexts is no concern of the model. -/
theorem served_onShutdown (id : Nat) (callback : Callback) :
    Served m ((Call.onShutdown id callback).demand? m.hub) (m.serve (.onShutdown id callback)) := by
  refine ⟨fun j => ?_, fun id d hd => absurd hd (by simp [Call.demand?])⟩
  have hstage : (m.hub.onShutdown id callback).2.stage j = m.hub.stage j := by
    rcases Hub.onShutdown_cases m.hub id callback with ⟨-, heq⟩ | ⟨-, heq⟩ <;> rw [heq]
    rw [Hub.stage, Hub.stage]
    have hphase : Hub.phase { m.hub with
        contexts := Hub.modifyFirst id (Hub.pushed callback) m.hub.contexts } j
        = m.hub.phase j := Hub.phase_of_pushed rfl j
    rw [hphase]
  rw [serve]
  split
  · next hub heq =>
    rw [heq] at hstage
    rw [hub_answer]
    exact hstage
  · next callback' hub heq =>
    rw [heq] at hstage
    exact hstage

/-- **What comes of a call** is what the model says. -/
theorem served_serve (hn : m.hub.Numbered) (hg : m.Grounded) {call : Call}
    (hknown : ∀ id, call.target? = some id → id < m.hub.nextId) :
    Served m (call.demand? m.hub) (m.serve call) := by
  cases call with
  | init target keepAs o => exact served_initContext hn target hknown keepAs o
  | shutdown target tolerant receipt => exact served_startShutdown hn target tolerant receipt
  | onShutdown id callback => exact served_onShutdown id callback
  | createNode target name ns keepAs => exact served_createNode hn target hknown name ns keepAs
  | ask id question => exact served_ask id (hknown id rfl) question
  | defaultOk =>
    exact served_defaultOk fun id hid => Hub.lt_nextId_of_isSome hn (hg.slot id hid)

/-! ## Steps -/

theorem Reachable.served (h : m.Reachable) {call : Call} (hcall : m.call? = some call) :
    Served m.caller (call.demand? m.hub) (m.caller.serve call) := by
  have hknown : ∀ id, call.target? = some id → id < m.caller.hub.nextId := by
    simpa using fun id hid => h.target_lt hcall hid
  simpa using served_serve (by simpa using h.numbered) (grounded_caller h.grounded) hknown

/-- A demand of a call is answered as the model says. -/
theorem Reachable.answers (h : m.Reachable) {call : Call} (hcall : m.call? = some call) {id : Nat}
    {d : Demand} (hd : call.demand? m.hub = some (id, d)) :
    ∃ n, m.Answers m.caller.frames n ((m.hub.stage id).answer id d) := by
  have hframes : m.step.frames = (m.caller.serve call).frames := by rw [step_of_call hcall]; rfl
  have hanswer := (h.served hcall).answer id d hd
  rw [hub_caller, ← hframes] at hanswer
  rcases hanswer with hanswer | ⟨above, hwaits⟩
  · exact ⟨1, .of_step hanswer⟩
  · exact exists_answered hwaits

/-- A step leads to a machine that has the stages of the model, apart from what is freed then. -/
theorem Reachable.step_staged (h : m.Reachable) (hwork : m.frames ≠ []) :
    ∃ r : Machine, m.step = r.collect ∧ ReflTransGen Hub.Move m.hub r.hub ∧
      ∀ j, r.hub.stage j = m.hub.stageAfter m.demand? j := by
  obtain ⟨r, hr, stepped, moves⟩ := exists_stepped hwork
  refine ⟨r, hr, moves, ?_⟩
  cases stepped with
  | call hcall =>
    have hstage := (h.served hcall).stage
    simp only [hub_caller] at hstage
    simpa only [demand?, hcall] using hstage
  | idle hcall hidle hframes =>
    obtain ⟨label, op, rest, replies, below, hframes⟩ := hframes
    have hdemand : m.demand? = none := by simp only [demand?, hcall, hframes]
    have hhub := hidle.hub
    rw [hub_caller] at hhub
    rw [hdemand]
    rcases hhub with ⟨hcontexts, hnext⟩ | ⟨hcontexts, hnext⟩
    · exact Hub.stage_of_contexts hnext hcontexts
    · exact Hub.stage_of_fresh h.numbered hnext hcontexts
  | @skip signal id count line before below hframes he =>
    have hdemand : m.demand? = some (id, .shutdown true (.ok .done)) := by
      simp only [demand?, call?, hframes]
    rw [hdemand]
    -- the shutdown is refused, and so it is by the model
    rcases Hub.beginShutdown_stage h.numbered id true (.ok .done) with
      ⟨-, hnext, -⟩ | ⟨callbacks, q, hq, -⟩
    · exact fun j => (Hub.stageAfter_of_next hnext j).symm
    · exact absurd (he.symm.trans hq) (by simp)
  | @shut signal id count line before below callbacks hub hframes hb =>
    have hdemand : m.demand? = some (id, .shutdown true (.ok .done)) := by
      simp only [demand?, call?, hframes]
    rw [hdemand]
    rcases Hub.beginShutdown_stage h.numbered id true (.ok .done) with
      ⟨he, -⟩ | ⟨callbacks', q, hq, hstage, -⟩
    · exact absurd (hb.symm.trans he) (by simp)
    · cases hb.symm.trans hq
      exact hstage
  | @pass f below hframes hasks =>
    obtain ⟨hcontexts, hnext⟩ := contexts_advance { m with frames := below } hasks
    have hdemand : m.demand? = none := by
      rw [demand?, call?_of_pass hframes hasks, hframes]
      cases f with
      | dispatching signal line count before =>
        cases line with
        | nil => rfl
        | cons id line => exact absurd hasks (by simp [Frame.asks])
      | _ => rfl
    rw [hdemand]
    exact Hub.stage_of_contexts hnext hcontexts

theorem stageAfter_eq_foldl (m : Machine) (j : Nat) :
    m.hub.stageAfter m.demand? j = (m.demandsOf j).foldl Phase.next (m.hub.stage j) := by
  unfold Hub.stageAfter demandsOf
  cases m.demand? with
  | none => rfl
  | some demand =>
    obtain ⟨id, d⟩ := demand
    dsimp only
    by_cases hj : j = id
    · rw [if_pos hj, if_pos hj.symm]
      rfl
    · rw [if_neg hj, if_neg (Ne.symm hj)]
      rfl

theorem stage_collect {r : Machine} {j : Nat}
    (hj : (r.collect.hub.find? j).isSome = true ∨ r.collect.hub.nextId ≤ j) :
    r.collect.hub.stage j = r.hub.stage j := by
  have hnext : r.collect.hub.nextId = r.hub.nextId := Hub.nextId_foldl_free ..
  rcases hj with hsome | hle
  · refine Hub.stage_congr hnext ?_
    rw [find?_collect] at hsome ⊢
    split at hsome
    · next hheld => rw [if_pos hheld]
    · exact absurd hsome (by simp)
  · rw [Hub.stage_of_le hle, Hub.stage_of_le (hnext ▸ hle)]

/-- **One thing that happens** leads a context that is there afterwards, or still to come, to where
    the model leads. -/
theorem Reachable.stage_happen (h : m.Reachable) (happening : Happening) {j : Nat}
    (hj : ((m.happen happening).hub.find? j).isSome = true ∨ (m.happen happening).hub.nextId ≤ j) :
    (m.happen happening).hub.stage j
      = (onStep (demandsOf j) m happening).foldl Phase.next (m.hub.stage j) := by
  cases happening with
  | work =>
    change m.step.hub.stage j = (m.demandsOf j).foldl Phase.next (m.hub.stage j)
    by_cases hwork : m.frames = []
    · have hidle : m.demandsOf j = [] := by simp [demandsOf, demand?, call?, hwork]
      rw [hidle, Machine.step, hwork]
      rfl
    · obtain ⟨r, hstep, -, hstage⟩ := h.step_staged hwork
      simp only [Machine.happen, hstep] at hj
      rw [hstep, stage_collect hj, hstage, stageAfter_eq_foldl]
  | call program => rfl
  | arrive signal =>
    exact Hub.stage_of_contexts (Hub.nextId_deliver ..) (Hub.contexts_deliver ..) j
  | tick clock => rfl
  | handle signal label =>
    simp only [Machine.happen]
    split <;> rfl

/-- **A whole run** leads a context that is there at its end, or still to come, to where the model
    leads. -/
theorem Reachable.stage_run (h : m.Reachable) (happenings : List Happening) {j : Nat}
    (hj : ((m.run happenings).hub.find? j).isSome = true ∨ (m.run happenings).hub.nextId ≤ j) :
    (m.run happenings).hub.stage j
      = (along (onStep (demandsOf j)) m happenings).foldl Phase.next (m.hub.stage j) := by
  induction happenings using List.reverseRecOn with
  | nil => rfl
  | append_singleton front last ih =>
    rw [run_concat] at hj ⊢
    have moves := moves_happen (m.run front) last
    -- what exists or is to come after the last happening existed or was to come before it
    have hbefore : ((m.run front).hub.find? j).isSome = true ∨ (m.run front).hub.nextId ≤ j := by
      rcases hj with hsome | hle
      · exact Hub.isSome_of_moves moves hsome
      · exact .inr (Nat.le_trans (Hub.nextId_le_of_moves moves) hle)
    rw [(h.run front).stage_happen last hj, ih hbefore, along_concat, List.foldl_append]

/-! ## The refinement -/

/-- Where the model leads a context that starts uninitialized, with all that is demanded of it over
    a run. -/
def modelled (m : Machine) (happenings : List Happening) (id : Nat) : Phase :=
  (along (onStep (demandsOf id)) m happenings).foldl Phase.next .uninitialized

/-- A call that only answers. -/
theorem Answers.of_serve {call : Call} {reply : Reply} (hcall : m.call? = some call)
    (hserve : m.caller.serve call = m.caller.answer reply) : m.Answers m.caller.frames 1 reply :=
  .of_step (by rw [step_of_call hcall, hserve, answer_eq]; rfl)

/-- A shutdown of a context that is not initialized, or of a default context that there is not, only
    answers. -/
theorem answers_refused {target : Option Nat} {tolerant : Bool} {receipt : Reply}
    (hcall : m.call? = some (.shutdown target tolerant receipt))
    (hinit : ∀ id, target.or m.hub.slot = some id → m.hub.isInitialized id = false) :
    m.Answers m.caller.frames 1 (if tolerant then receipt else .failed .notInitialized) := by
  refine .of_serve hcall ?_
  rw [serve, startShutdown, hub_caller]
  cases htarget : target.or m.hub.slot with
  | none => rfl
  | some id =>
    have hrefused : m.hub.beginShutdown id = .error .notInitialized := by
      cases hb : m.hub.beginShutdown id with
      | error e => rw [(Hub.beginShutdown_eq_error hb).2]
      | ok started =>
        obtain ⟨c, s, hc, hph, -⟩ := Hub.beginShutdown_cases hb
        have := Hub.isInitialized_iff.2 ⟨c, s, hc, hph⟩
        rw [hinit id htarget] at this
        exact absurd this (by decide)
    simp only [hrefused]

/-- Without a default context nothing is demanded: it is not fine, and there is nothing to shut
    down. -/
theorem answers_without_default {call : Call} (hcall : m.call? = some call)
    (hslot : m.hub.slot = none) :
    (call = .defaultOk → m.Answers m.caller.frames 1 (.ok (.flag false))) ∧
    ∀ tolerant receipt, call = .shutdown none tolerant receipt →
      m.Answers m.caller.frames 1 (if tolerant then receipt else .failed .notInitialized) := by
  constructor
  · rintro rfl
    exact .of_serve hcall (by simp [serve, Hub.defaultIsInitialized, hslot])
  · rintro tolerant receipt rfl
    exact answers_refused hcall fun id hid => absurd hid (by simp [hslot])

/-- **Contexts refine the three-state model.** After any run from the start, every context is where
the model leads with what was demanded of it, and a context that is still to come has not left its
start. Whatever is called next, what it demands of a context is answered as the model says; without
a default context, the calls about it answer as for one that was never initialized. Later a context
is where the model leads from there on, and it never goes back: a session stays the same until its
context is shut down. -/
theorem lifecycle_refinement (clock : String) (nextId : Nat) (watching : Bool)
    (interrupt terminate : Nat) (happenings : List Happening) :
    let start := fresh clock nextId watching interrupt terminate
    let m := start.run happenings
    (∀ c ∈ m.hub.contexts,
      m.hub.stage c.id = c.phase ∧ c.phase = start.modelled happenings c.id) ∧
    (∀ id, m.hub.nextId ≤ id →
      m.hub.stage id = .uninitialized ∧ start.modelled happenings id = .uninitialized) ∧
    (∀ call id d, m.call? = some call → call.demand? m.hub = some (id, d) →
      ∃ n, m.Answers m.caller.frames n ((m.hub.stage id).answer id d)) ∧
    (m.hub.slot = none → ∀ call, m.call? = some call →
      (call = .defaultOk → m.Answers m.caller.frames 1 (.ok (.flag false))) ∧
      ∀ tolerant receipt, call = .shutdown none tolerant receipt →
        m.Answers m.caller.frames 1 (if tolerant then receipt else .failed .notInitialized)) ∧
    (∀ later, ∀ c ∈ m.hub.contexts, ∀ c' ∈ (m.run later).hub.contexts, c'.id = c.id →
      c.phase.Leads c'.phase) := by
  intro start m
  have hstart : start.Reachable := .start clock nextId watching interrupt terminate
  have hm : m.Reachable := hstart.run happenings
  have hbegin : ∀ j, start.hub.stage j = if j < nextId then .shutdown else .uninitialized :=
    fun j => rfl
  -- from the first id on, a context starts where the model does
  have hmodel : ∀ {j}, nextId ≤ j →
      (m.hub.find? j).isSome = true ∨ m.hub.nextId ≤ j →
        m.hub.stage j = start.modelled happenings j :=
    fun {j} hle hj => by
      have hstage := hstart.stage_run happenings hj
      rw [hbegin, if_neg (Nat.not_lt.2 hle)] at hstage
      exact hstage
  have hfind : ∀ c ∈ m.hub.contexts, m.hub.find? c.id = some c := fun c hc =>
    (Hub.find?_eq_some_iff hm.numbered).2 ⟨hc, rfl⟩
  refine ⟨fun c hc => ?_, fun id hid => ?_, fun call id d hcall hd => hm.answers hcall hd,
    fun hslot call hcall => answers_without_default hcall hslot, fun later c hc c' hc' hid => ?_⟩
  · have hsome : (m.hub.find? c.id).isSome = true := by rw [hfind c hc]; rfl
    have hnew : nextId ≤ c.id :=
      (Hub.isSome_of_moves (moves_run start happenings) hsome).resolve_left
        (by simp [start, fresh, Hub.find?])
    have hstage := Hub.stage_of_some hm.numbered (hfind c hc)
    exact ⟨hstage, by rw [← hmodel hnew (.inl hsome), hstage]⟩
  · have hnew : nextId ≤ id :=
      Nat.le_trans (Hub.nextId_le_of_moves (moves_run start happenings)) hid
    have hstage : m.hub.stage id = .uninitialized := Hub.stage_of_le hid
    exact ⟨hstage, by rw [← hmodel hnew (.inr hid), hstage]⟩
  · have hleads := Hub.leads_of_moves (moves_run m later) hm.numbered
      (Hub.lt_nextId_of_find? hm.numbered (hfind c hc))
    have hfind' := (Hub.find?_eq_some_iff (hm.run later).numbered).2 ⟨hc', hid⟩
    rwa [Hub.phase_of_some (hfind c hc), Hub.phase_of_some hfind'] at hleads

end Machine
end RobotClient
