import RobotClient.Proofs.Context.Grounded
import RobotClient.Proofs.Context.Initialization

set_option autoImplicit false

/-! # The three-state model of a context

What a context does is determined by where it is in its life: `Phase.next` says where a demand leads
and `Phase.answer` what comes back. An initialization brings the session along that it would bind,
since that depends on the rest of the hub; all else depends on the context alone. The operations of
a hub are compared with the model here, one by one; for this a context that is still to come counts
as uninitialized (`Hub.stage`). -/

namespace RobotClient

/-- What can be demanded of a context. -/
inductive Demand where
  /-- An initialization, with the session that it would bind or the first of the other checks that
      fails. -/
  | init (offer : Except ClientError Session)
  /-- A shutdown that answers with the receipt. -/
  | shutdown (tolerant : Bool) (receipt : Reply)
  | createNode (name namespaceText : String)
  | domainId
  | arguments
  | status
  | lifecycle
  | ok
  | waitForShutdown

namespace Phase

/-! ## The model -/

/-- Where a demand leads. -/
def next : Phase → Demand → Phase
  | .uninitialized, .init (.ok s) => .initialized s
  | .initialized _, .shutdown _ _ => .shutdown
  | x, _ => x

/-- What a demand is answered with. -/
def answer (id : Nat) : Phase → Demand → Reply
  | .uninitialized, .init (.ok _) => .ok (.id id)
  | .uninitialized, .init (.error e) => .failed e
  | _, .init _ => .failed .alreadyInitialized
  | .initialized _, .shutdown _ receipt => receipt
  | _, .shutdown tolerant receipt => if tolerant then receipt else .failed .notInitialized
  | .initialized s, .createNode name ns =>
    .ofExcept (fun node => .node ⟨node, true⟩) (Node.make id s.arguments name ns)
  | .initialized s, .domainId => .ok (.domainId s.domainId)
  | .initialized s, .arguments => .ok (.arguments s.arguments)
  | _, .createNode _ _ | _, .domainId | _, .arguments => .failed .notInitialized
  | x, .status => .ok (.status (Status.ofPhase id x))
  | x, .lifecycle => .ok (.lifecycle x.lifecycle)
  | x, .ok => .ok (.flag (x.lifecycle = .initialized))
  | x, .waitForShutdown => .ok (.flag (x.lifecycle = .shutdown))

theorem next_init_of_started {x : Phase} (h : x ≠ .uninitialized)
    (offer : Except ClientError Session) : x.next (.init offer) = x := by
  cases x with
  | uninitialized => exact absurd rfl h
  | initialized s => rfl
  | shutdown => rfl

theorem next_shutdown_of_not_initialized {x : Phase} (h : x.session? = none) (tolerant : Bool)
    (receipt : Reply) : x.next (.shutdown tolerant receipt) = x := by
  cases x with
  | uninitialized => rfl
  | initialized s => exact absurd h (by simp [session?])
  | shutdown => rfl

theorem answer_shutdown_of_not_initialized {x : Phase} (h : x.session? = none) (id : Nat)
    (tolerant : Bool) (receipt : Reply) : x.answer id (.shutdown tolerant receipt)
      = if tolerant then receipt else .failed .notInitialized := by
  cases x with
  | uninitialized => rfl
  | initialized s => exact absurd h (by simp [session?])
  | shutdown => rfl

end Phase

namespace Hub

variable {κ : Type} {p q : Hub κ} {id j : Nat}

/-! ## Stages -/

/-- Where a context is in its life; one that is still to come is uninitialized, and one that is
    freed counts as shut down. -/
def stage (p : Hub κ) (id : Nat) : Phase := if id < p.nextId then p.phase id else .uninitialized

theorem stage_of_lt (h : id < p.nextId) : p.stage id = p.phase id := if_pos h

theorem stage_of_le (h : p.nextId ≤ id) : p.stage id = .uninitialized :=
  if_neg (Nat.not_lt.2 h)

theorem stage_of_some {c : Context κ} (hn : p.Numbered) (h : p.find? id = some c) :
    p.stage id = c.phase := by
  rw [stage_of_lt (lt_nextId_of_find? hn h), phase_of_some h]

theorem stage_congr (hnext : q.nextId = p.nextId) (hfind : q.find? id = p.find? id) :
    q.stage id = p.stage id := by
  rw [stage, stage, hnext, phase_congr hfind]

theorem stage_of_contexts (hnext : q.nextId = p.nextId) (hcontexts : q.contexts = p.contexts)
    (id : Nat) : q.stage id = p.stage id :=
  stage_congr hnext (find?_of_contexts hcontexts id)

/-- A context that is added was still to come. -/
theorem stage_of_fresh (hn : p.Numbered) (hnext : q.nextId = p.nextId + 1)
    (hq : q.contexts = p.contexts ++ [{ id := p.nextId }]) (id : Nat) :
    q.stage id = p.stage id := by
  rcases Nat.lt_trichotomy id p.nextId with hlt | rfl | hgt
  · rw [stage_of_lt (by omega), stage_of_lt hlt, phase_of_fresh hn hq, if_neg (Nat.ne_of_lt hlt)]
  · rw [stage_of_lt (by omega), stage_of_le (Nat.le_refl _), phase_of_fresh hn hq, if_pos rfl]
  · rw [stage_of_le (by omega), stage_of_le (Nat.le_of_lt hgt)]

/-- A context that is changed changes alone. -/
theorem stage_of_modified (change : Context κ → Context κ) (hc : ∀ c, (change c).id = c.id)
    (hn : p.Numbered) {c : Context κ} (hf : p.find? id = some c) (hnext : q.nextId = p.nextId)
    (hq : q.contexts = modifyFirst id change p.contexts) (j : Nat) :
    q.stage j = if j = id then (change c).phase else p.stage j := by
  have hphase := phase_of_update (find?_of_modified change hq hc hf) j
  by_cases hj : j = id
  · rw [if_pos hj] at hphase ⊢
    rw [stage_of_lt, hphase]
    rw [hnext, hj]
    exact lt_nextId_of_find? hn hf
  · rw [if_neg hj] at hphase ⊢
    rw [stage, stage, hnext, hphase]

/-- What the stages are after something is demanded of a context. -/
def stageAfter (p : Hub κ) (demand? : Option (Nat × Demand)) (j : Nat) : Phase :=
  match demand? with
  | some (id, d) => if j = id then (p.stage j).next d else p.stage j
  | none => p.stage j

theorem stageAfter_of_next {d : Demand} (h : (p.stage id).next d = p.stage id) (j : Nat) :
    p.stageAfter (some (id, d)) j = p.stage j := by
  by_cases hj : j = id
  · subst hj
    rw [stageAfter, if_pos rfl, h]
  · rw [stageAfter, if_neg hj]

/-! ## Initializations -/

/-- The session that an initialization would bind, unless one of its checks fails; whether the
    context is uninitialized is not among them. -/
def offer (p : Hub κ) (id : Nat) (o : InitOptions) : Except ClientError Session :=
  (Arguments.ofRaw o.args).bind fun arguments =>
    (resolveDomain o.domainId o.domain o.source).map fun domainId =>
      let handlers := p.requestedHandlers id o
      ⟨domainId, arguments, handlers, decide (handlers ≠ .no) && p.table.isNone, p.clock⟩

theorem init_of_started (o : InitOptions) (h : p.phase id ≠ .uninitialized) :
    p.init id o = .error .alreadyInitialized := by
  rw [init, prepare_of_started h]
  rfl

theorem init_of_offer_error {o : InitOptions} {e : ClientError} (h : p.phase id = .uninitialized)
    (ho : p.offer id o = .error e) : p.init id o = .error e := by
  rw [init, prepare_of_uninitialized h]
  unfold offer at ho
  cases ha : Arguments.ofRaw o.args with
  | error e' => simpa [ha, Except.bind, Except.map] using ho
  | ok arguments =>
    cases hd : resolveDomain o.domainId o.domain o.source with
    | error e' => simpa [ha, hd, Except.bind, Except.map] using ho
    | ok domainId => simp [ha, hd, Except.bind, Except.map] at ho

/-- What opening a session does to the contexts. -/
theorem openSession_contexts (p : Hub κ) (id : Nat) (options : HandlerOptions)
    (arguments : Arguments) (domainId : UInt64) :
    (p.openSession id options arguments domainId).contexts
        = modifyFirst id (opened ⟨domainId, arguments, options,
            decide (options ≠ .no) && p.table.isNone, p.clock⟩) p.contexts ∧
      (p.openSession id options arguments domainId).nextId = p.nextId := by
  unfold openSession
  rcases install_cases p id options with
    ⟨watching, events, hwhy, heq, -⟩ | ⟨watching, events, hno, htable, heq, -⟩
  · have howns : (decide (options ≠ .no) && p.table.isNone) = false := by
      rcases hwhy with rfl | htable
      · simp
      · cases ht : p.table with
        | none => exact absurd ht htable
        | some t => simp
    rw [heq, howns]
    exact ⟨rfl, rfl⟩
  · rw [heq, htable]
    have howns : (decide (options ≠ .no) && Option.isNone (none : Option HandlerTable)) = true := by
      simp [hno]
    rw [howns]
    exact ⟨rfl, rfl⟩

theorem init_of_offer_ok {o : InitOptions} {s : Session} (h : p.phase id = .uninitialized)
    (ho : p.offer id o = .ok s) : ∃ q, p.init id o = .ok q ∧
      q.contexts = modifyFirst id (opened s) p.contexts ∧ q.nextId = p.nextId := by
  rw [init, prepare_of_uninitialized h]
  unfold offer at ho
  cases ha : Arguments.ofRaw o.args with
  | error e => simp [ha, Except.bind] at ho
  | ok arguments =>
    cases hd : resolveDomain o.domainId o.domain o.source with
    | error e => simp [ha, hd, Except.bind, Except.map] at ho
    | ok domainId =>
      simp only [ha, hd, Except.bind, Except.map, Except.ok.injEq] at ho
      subst ho
      exact ⟨_, rfl, openSession_contexts p id _ arguments domainId⟩

/-- **Initializations and the model.** -/
theorem init_stage (hn : p.Numbered) (hid : id < p.nextId) (o : InitOptions) :
    (∃ e, p.init id o = .error e ∧ (p.stage id).next (.init (p.offer id o)) = p.stage id ∧
      (p.stage id).answer id (.init (p.offer id o)) = .failed e) ∨
    (∃ q, p.init id o = .ok q ∧
      (∀ j, q.stage j = p.stageAfter (some (id, .init (p.offer id o))) j) ∧
      (p.stage id).answer id (.init (p.offer id o)) = .ok (.id id)) := by
  have hstage := stage_of_lt hid
  by_cases hph : p.phase id = .uninitialized
  · rw [hstage, hph]
    cases ho : p.offer id o with
    | error e => exact .inl ⟨e, init_of_offer_error hph ho, rfl, rfl⟩
    | ok s =>
      obtain ⟨q, hq, hcontexts, hnext⟩ := init_of_offer_ok hph ho
      have hlive : p.phase id ≠ .shutdown := by simp [hph]
      obtain ⟨c, hc⟩ := exists_find?_of_phase hlive
      refine .inr ⟨q, hq, fun j => ?_, rfl⟩
      rw [stage_of_modified (opened s) (fun _ => rfl) hn hc hnext hcontexts, stageAfter]
      by_cases hj : j = id
      · rw [if_pos hj, if_pos hj, hj, hstage, hph]
        rfl
      · rw [if_neg hj, if_neg hj]
  · have hanswer : (p.phase id).answer id (.init (p.offer id o)) = .failed .alreadyInitialized := by
      cases hp : p.phase id with
      | uninitialized => exact absurd hp hph
      | initialized s => rfl
      | shutdown => rfl
    refine .inl ⟨_, init_of_started o hph, ?_, by rw [hstage, hanswer]⟩
    rw [hstage, Phase.next_init_of_started hph]

/-! ## Shutdowns -/

/-- **Shutdowns and the model.** -/
theorem beginShutdown_stage (hn : p.Numbered) (id : Nat) (tolerant : Bool) (receipt : Reply) :
    (p.beginShutdown id = .error .notInitialized ∧
      (p.stage id).next (.shutdown tolerant receipt) = p.stage id ∧
      (p.stage id).answer id (.shutdown tolerant receipt)
        = if tolerant then receipt else .failed .notInitialized) ∨
    (∃ callbacks q, p.beginShutdown id = .ok (callbacks, q) ∧
      (∀ j, q.stage j = p.stageAfter (some (id, .shutdown tolerant receipt)) j) ∧
      (p.stage id).answer id (.shutdown tolerant receipt) = receipt) := by
  cases hb : p.beginShutdown id with
  | error e =>
    obtain ⟨hinit, rfl⟩ := beginShutdown_eq_error hb
    have hnone : p.session? id = none := by simpa [isInitialized] using hinit
    have hsession : (p.stage id).session? = none := by
      rw [stage]
      split
      · exact hnone
      · rfl
    exact .inl ⟨rfl, Phase.next_shutdown_of_not_initialized hsession tolerant receipt,
      Phase.answer_shutdown_of_not_initialized hsession id tolerant receipt⟩
  | ok started =>
    obtain ⟨callbacks, q⟩ := started
    obtain ⟨c, s, hc, hph, -⟩ := beginShutdown_cases hb
    obtain ⟨c', hc', -, hcontexts, -, hnext⟩ := beginShutdown_closed hb
    obtain rfl : c = c' := Option.some.inj (hc.symm.trans hc')
    have hstage : p.stage id = .initialized s := by rw [stage_of_some hn hc, hph]
    refine .inr ⟨callbacks, q, rfl, fun j => ?_, by rw [hstage]; rfl⟩
    rw [stage_of_modified closed (fun _ => rfl) hn hc hnext hcontexts, stageAfter]
    by_cases hj : j = id
    · rw [if_pos hj, if_pos hj, hj, hstage]
      rfl
    · rw [if_neg hj, if_neg hj]

/-! ## Nodes -/

/-- **Nodes and the model.** -/
theorem createNode_stage (hid : id < p.nextId) (name ns : String) :
    (∃ e, p.createNode id name ns = .error e ∧
      (p.stage id).answer id (.createNode name ns) = .failed e) ∨
    (∃ node q, p.createNode id name ns = .ok (node, q) ∧ q.contexts = p.contexts ∧
      q.nextId = p.nextId ∧
      (p.stage id).answer id (.createNode name ns) = .ok (.node ⟨node, q.isInitialized id⟩)) := by
  rw [stage_of_lt hid]
  unfold createNode arguments session?
  cases hph : p.phase id with
  | uninitialized => exact .inl ⟨_, rfl, rfl⟩
  | initialized s =>
    cases hmake : Node.make id s.arguments name ns with
    | error e =>
      simp only [Phase.session?, Except.bind, hmake, Except.map]
      exact .inl ⟨e, rfl, by simp [Phase.answer, hmake, Reply.ofExcept]⟩
    | ok node =>
      simp only [Phase.session?, Except.bind, hmake, Except.map]
      refine .inr ⟨node, _, rfl, rfl, rfl, ?_⟩
      have hinit :
          (p.emit (.nodeCreated id node.name node.namespaceText)).isInitialized id = true := by
        change (p.phase id).session?.isSome = true
        rw [hph]
        rfl
      simp [Phase.answer, hmake, Reply.ofExcept, hinit]
  | shutdown => exact .inl ⟨_, rfl, rfl⟩

/-! ## The default context -/

/-- Making the default context changes no stage. -/
theorem stage_about (hn : p.Numbered) (target : Option Nat) (j : Nat) :
    (p.about target).2.stage j = p.stage j := by
  cases target with
  | some id => rfl
  | none =>
    rw [about]
    rcases defaultContext_cases p with ⟨id, -, -, heq⟩ | ⟨-, heq⟩ <;> rw [heq]
    exact stage_of_fresh hn rfl rfl j

theorem about_numbered (hn : p.Numbered) (target : Option Nat)
    (hknown : ∀ id, target = some id → id < p.nextId) :
    (p.about target).2.Numbered ∧ (p.about target).1 < (p.about target).2.nextId := by
  cases target with
  | some id => exact ⟨hn, hknown id rfl⟩
  | none =>
    have hdefault := hn.act .useDefault
    exact ⟨hdefault, lt_nextId_of_isSome hdefault (exists_of_defaultContext p)⟩

end Hub

end RobotClient
