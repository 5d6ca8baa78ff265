import RobotClient.Proofs.Console.Checks
import RobotClient.Proofs.Context.Carry
import RobotClient.Proofs.Context.Dormant
import RobotClient.Proofs.Context.Locality
import RobotClient.Proofs.Context.Slot

set_option autoImplicit false

/-! # What a run does

A run goes through its checks, and fails with the error of the first one that does not pass. If all
pass, its summary tells what they found. Either way the default context is shut down in the end, so
nothing is initialized any more and the handlers are free, unless a callback that was registered
before initializes something itself. Main statement: `execute_run`. -/

namespace RobotClient

open Relation (ReflTransGen)

namespace Console

variable {flags : RunFlags} {config : RuntimeConfig} {env : Environment} {m : Machine} {id : Nat}

/-! ## The options -/

theorem options_of_error {text complaint : String} (htext : flags.signals = some text)
    (h : HandlerOptions.ofText text = .error complaint) :
    flags.options config env = .error (.configuration complaint) := by
  simp only [RunFlags.options, htext, h]
  rfl

theorem options_of_asks {handlers : HandlerOptions} (h : flags.Asks config handlers) :
    ∃ o, flags.options config env = .ok o ∧ o.args = flags.args ∧
      o.domainId = flags.domainId.or config.domain.id ∧
      o.domain = ⟨config.domain.envVar, config.domain.defaultId⟩ ∧ o.source = .process env ∧
      o.handlers.getD .all = handlers := by
  unfold RunFlags.Asks at h
  unfold RunFlags.options
  cases htext : flags.signals with
  | none =>
    rw [htext] at h
    exact ⟨_, rfl, rfl, rfl, rfl, rfl, h.symm⟩
  | some text =>
    rw [htext] at h
    simp only [h]
    exact ⟨_, rfl, rfl, rfl, rfl, rfl, rfl⟩

/-! ## The default context -/

/-- Whether a hub is ready for a run: its default context waits for its initialization, and nothing
    is initialized. -/
structure Ready (p : Hub Callback) (id : Nat) : Prop where
  slot : p.slot = some id
  phase : p.phase id = .uninitialized
  numbered : p.Numbered
  dormant : p.Dormant
  owned : p.Owned

/-- The hub in which a run initializes the default context. -/
def readied (p : Hub Callback) : Hub Callback := (p.handOver runHandler).defaultContext.2

theorem defaultContext_handOver (p : Hub Callback) (label : Nat) :
    (p.handOver label).defaultContext.1 = p.defaultContext.1 := by
  rcases Hub.defaultContext_cases p with ⟨id, hslot, hlife, heq⟩ | ⟨hnone, heq⟩ <;>
  rcases Hub.defaultContext_cases (p.handOver label) with
    ⟨id', hslot', hlife', heq'⟩ | ⟨hnone', heq'⟩ <;> rw [heq, heq']
  · exact Option.some.inj (hslot'.symm.trans hslot)
  · exact absurd (hnone' id hslot) hlife
  · exact absurd (hnone id' hslot') hlife'
  · rfl

theorem phase_eq_uninitialized {p : Hub Callback} (hphase : p.phase id ≠ .shutdown)
    (hsession : p.session? id = none) : p.phase id = .uninitialized := by
  unfold Hub.session? at hsession
  cases hp : p.phase id with
  | uninitialized => rfl
  | initialized s => exact absurd hsession (by simp [hp, Phase.session?])
  | shutdown => exact absurd hp hphase

theorem ready_readied {p : Hub Callback} (hn : p.Numbered) (ho : p.Owned) (hd : p.Dormant) :
    Ready (readied p) p.defaultContext.1 := by
  have hn' : (p.handOver runHandler).Numbered := ⟨hn.nodup, hn.lt_nextId⟩
  have ho' : (p.handOver runHandler).Owned := ho.congr (fun _ => rfl) rfl
  have hmove : Hub.Move (p.handOver runHandler) (readied p) := .act .useDefault
  have hd' : (p.handOver runHandler).Dormant := hd
  have hdormant : (readied p).Dormant := by
    rcases Hub.defaultContext_cases (p.handOver runHandler) with ⟨id, -, -, heq⟩ | ⟨-, heq⟩ <;>
      rw [readied, heq]
    · exact hd'
    · exact hd'.congr (Hub.session?_of_fresh hn' rfl)
  obtain ⟨hslot, hphase⟩ := Hub.defaultContext_spec hn'
  rw [defaultContext_handOver] at hslot hphase
  exact {
    slot := hslot
    phase := phase_eq_uninitialized hphase (hdormant p.defaultContext.1)
    numbered := hn'.move hmove
    dormant := hdormant
    owned := ho'.move hn' hmove }

/-- Apart from the default context a hub that gets ready stays as it is. -/
theorem readied_cases (p : Hub Callback) :
    (readied p).clock = p.clock ∧ (readied p).received = p.received ∧
      (((readied p).find? p.defaultContext.1 = p.find? p.defaultContext.1) ∨
        p.defaultContext.1 = p.nextId ∧
        (readied p).contexts = p.contexts ++ [{ id := p.nextId }]) := by
  rcases Hub.defaultContext_cases (p.handOver runHandler) with ⟨id, -, -, heq⟩ | ⟨-, heq⟩
  · rw [readied, heq]
    exact ⟨rfl, rfl, .inl rfl⟩
  · have hid := defaultContext_handOver p runHandler
    rw [readied, ← hid, heq]
    exact ⟨rfl, rfl, .inr ⟨rfl, rfl⟩⟩

/-- The callbacks that wait for the end of a run are those of the default context before. -/
theorem callbacks_readied {p : Hub Callback} (hn : p.Numbered) {c : Context Callback}
    (hc : (readied p).find? p.defaultContext.1 = some c) {callback : Callback}
    (hcallback : callback ∈ c.callbacks) :
    ∃ c', p.find? p.defaultContext.1 = some c' ∧ callback ∈ c'.callbacks := by
  obtain ⟨-, -, hsame | ⟨hid, hfresh⟩⟩ := readied_cases p
  · exact ⟨c, hsame ▸ hc, hcallback⟩
  · rw [Hub.find?_of_fresh hn hfresh, if_pos hid] at hc
    obtain rfl := Option.some.inj hc
    exact absurd hcallback List.not_mem_nil

/-! ## The end -/

/-- The machine that shuts the default context down. -/
def ending (m : Machine) : Machine :=
  { m with frames := [.script none [.shutdown none true] []], finished := [], replies := [] }

/-- The shutdown has begun, and the callbacks are still to run. -/
def endBegun (m : Machine) (id : Nat) (callbacks : List Callback) (q : Hub Callback) : Machine :=
  { ending m with
    hub := q
    frames := [.shutting id callbacks, .releasing id, .returning (.ok .done),
      .script none [] []] }

theorem step_ending {callbacks : List Callback} {q : Hub Callback}
    (hslot : m.hub.slot = some id) (hb : m.hub.beginShutdown id = .ok (callbacks, q)) :
    (ending m).step = (endBegun m id callbacks q).collect := by
  refine Machine.step_of_advance rfl ?_
  change Machine.startShutdown { ending m with frames := [.script none [] []] } none true
    (.ok .done) = _
  simp only [Machine.startShutdown, ending, Option.none_or, hslot, hb]
  rfl

theorem shutdownDefault_eq (m : Machine) : shutdownDefault m = (ending m).step.settle := by
  change (ending m).settle = _
  rw [Machine.settle]
  rfl

/-- The default context is shut down at the end, whatever its callbacks do. -/
theorem isInitialized_shutdownDefault {s : Session} (hn : m.hub.Numbered)
    (hslot : m.hub.slot = some id) (hs : m.hub.session? id = some s) :
    (shutdownDefault m).hub.isInitialized id = false := by
  obtain ⟨callbacks, q, hb⟩ := Hub.exists_beginShutdown_of_some hs
  obtain ⟨c, hc, -, hcontexts, -, hnext⟩ := Hub.beginShutdown_closed hb
  have hshut : q.phase id = .shutdown := by rw [Hub.phase_of_closed hcontexts hc, if_pos rfl]
  have hmove : Hub.Move m.hub q := .beginShutdown hb
  have hlt : id < q.nextId := hnext ▸ Hub.lt_nextId_of_find? hn hc
  obtain ⟨n, hend⟩ := Machine.exists_after_eq_returnTo (ending m).step 0
  have hmoves : ReflTransGen Hub.Move q (shutdownDefault m).hub := by
    rw [shutdownDefault_eq, Machine.settle_eq_returnTo, hend, step_ending hslot hb]
    have hfreed : ReflTransGen Hub.Move q (endBegun m id callbacks q).collect.hub :=
      Machine.moves_foldl_free _ q
    exact hfreed.trans (Machine.moves_after (endBegun m id callbacks q).collect n)
  exact Hub.isInitialized_of_shutdown (Hub.shutdown_of_moves hmoves (hn.move hmove) hlt hshut)

/-- If the default context was the only one that is initialized, nothing is initialized at the end,
    unless a callback initializes something. -/
theorem dormant_shutdownDefault {s : Session} (hn : m.hub.Numbered)
    (hslot : m.hub.slot = some id) (hs : m.hub.session? id = some s)
    (hothers : ∀ j, j ≠ id → m.hub.session? j = none)
    (hcallbacks : ∀ c, m.hub.find? id = some c → ∀ callback ∈ c.callbacks,
      callback.opens = false) : (shutdownDefault m).hub.Dormant := by
  obtain ⟨callbacks, q, hb⟩ := Hub.exists_beginShutdown_of_some hs
  obtain ⟨c, hc, rfl, hcontexts, -⟩ := Hub.beginShutdown_closed hb
  have hmove : Hub.Move m.hub q := .beginShutdown hb
  have hdormant : q.Dormant := by
    intro j
    rw [Hub.session?_of_closed hcontexts hc]
    split
    · rfl
    · next hj => exact hothers j hj
  have hasleep : (endBegun m id c.callbacks q).Asleep := by
    refine ⟨hn.move hmove, hdormant, ?_⟩
    simpa [endBegun, Frame.opens, Op.opensAny] using hcallbacks c hc
  have hcollected : (endBegun m id c.callbacks q).collect.Asleep :=
    ⟨hasleep.numbered.moves (Machine.moves_foldl_free ..), hasleep.hub.foldl_free _, hasleep.frames⟩
  rw [shutdownDefault_eq, step_ending hslot hb]
  exact Machine.dormant_settle hcollected

theorem moves_shutdownDefault (m : Machine) :
    ReflTransGen Hub.Move m.hub (shutdownDefault m).hub := by
  obtain ⟨n, hend⟩ := Machine.exists_after_eq_returnTo (ending m) 0
  change ReflTransGen Hub.Move m.hub (ending m).settle.hub
  rw [Machine.settle_eq_returnTo, hend]
  exact Machine.moves_after (ending m) n

/-! ## The session -/

/-- Whether a hub differs from one that was ready in that its default context has a session. -/
structure Opened (p q : Hub Callback) (id : Nat) (s : Session) : Prop where
  slot : q.slot = some id
  session : q.session? id = some s
  others : ∀ j, j ≠ id → q.session? j = none
  callbacks : ∀ c, q.find? id = some c → ∃ c', p.find? id = some c' ∧ c'.callbacks = c.callbacks
  numbered : q.Numbered
  owned : q.Owned

/-- The session of a run. -/
def Findings.session (f : Findings) (clock : String) : Session :=
  ⟨f.domainId, f.arguments, f.handlers, decide (f.handlers ≠ .no), clock⟩

variable {p : Hub Callback} {o : InitOptions} {f : Findings}

theorem requestedHandlers_of_ready (h : Ready p id) (o : InitOptions) :
    p.requestedHandlers id o = o.handlers.getD .all := by
  rw [Hub.requestedHandlers, Hub.isDefault, h.slot]
  simp

/-- The initialization of a run succeeds if its checks do. -/
theorem init_of_ready (h : Ready p id) (hargs : Decoded o.args f.texts)
    (harguments : Arguments.parse f.texts = .ok f.arguments)
    (hdomain : resolveDomain o.domainId o.domain o.source = .ok f.domainId)
    (hhandlers : o.handlers.getD .all = f.handlers) :
    p.init id o = .ok (p.openSession id f.handlers f.arguments f.domainId) := by
  rw [Hub.init, Hub.prepare_of_uninitialized h.phase, Arguments.ofRaw,
    decodeArguments_eq_ok_iff.2 hargs, requestedHandlers_of_ready h, hhandlers]
  simp only [Except.bind, harguments, hdomain, Except.map]

theorem opened_of_ready (h : Ready p id)
    (hinit : p.init id o = .ok (p.openSession id f.handlers f.arguments f.domainId)) :
    Opened p (p.openSession id f.handlers f.arguments f.domainId) id (f.session p.clock) := by
  have hcontexts : (p.openSession id f.handlers f.arguments f.domainId).contexts
      = Hub.modifyFirst id (Hub.opened (f.session p.clock)) p.contexts := by
    rw [(Hub.openSession_contexts p id f.handlers f.arguments f.domainId).1,
      h.dormant.table_eq_none h.owned]
    simp [Findings.session]
  have hmove : Hub.Move p (p.openSession id f.handlers f.arguments f.domainId) :=
    .act (.init hinit)
  have hlive : p.phase id ≠ .shutdown := by simp [h.phase]
  obtain ⟨c, hc⟩ := Hub.exists_find?_of_phase hlive
  have hsession := Hub.session?_of_opened hcontexts hc
  exact {
    slot := (Hub.slot_init hinit).trans h.slot
    session := by rw [hsession, if_pos rfl]
    others := by
      intro j hj
      rw [hsession, if_neg hj]
      exact h.dormant j
    callbacks := by
      intro c' hc'
      rw [Hub.find?_of_modified (Hub.opened (f.session p.clock)) hcontexts (fun _ => rfl) hc,
        if_pos rfl] at hc'
      obtain rfl := Option.some.inj hc'
      exact ⟨c, hc, rfl⟩
    numbered := h.numbered.move hmove
    owned := h.owned.move h.numbered hmove }

theorem Opened.emit {q : Hub Callback} {s : Session} (h : Opened p q id s) (event : Event) :
    Opened p (q.emit event) id s :=
  ⟨h.slot, h.session, h.others, h.callbacks, ⟨h.numbered.nodup, h.numbered.lt_nextId⟩,
    h.owned.congr (fun _ => rfl) rfl⟩

/-! ## What is left -/

/-- Whether a run has left nothing behind. Its context, the default one, is not initialized,
    whatever waits for its shutdown. If no callback that the host had registered there before the
    run opens a context, then none is initialized, and nobody owns the handlers; what such a
    callback opens is left to the host. -/
structure Tidy (m r : Machine) : Prop where
  default : r.hub.isInitialized m.hub.defaultContext.1 = false
  rest : (∀ c, m.hub.find? m.hub.defaultContext.1 = some c →
      ∀ callback ∈ c.callbacks, callback.opens = false) →
    (∀ id, r.hub.isInitialized id = false) ∧ r.hub.table = none

theorem tidy_of_dormant {r : Machine} (hd : r.hub.Dormant) (ho : r.hub.Owned) : Tidy m r := by
  have hnone := Hub.dormant_iff.1 hd
  exact ⟨hnone _, fun _ => ⟨hnone, hd.table_eq_none ho⟩⟩

/-- A run that ends with the shutdown of its context leaves nothing behind. -/
theorem tidy_shutdownDefault {x : Machine} {s : Session} (hn : m.hub.Numbered)
    (h : Opened (readied m.hub) x.hub m.hub.defaultContext.1 s) : Tidy m (shutdownDefault x) := by
  refine ⟨isInitialized_shutdownDefault h.numbered h.slot h.session, ?_⟩
  intro hcallbacks
  have hdormant : (shutdownDefault x).hub.Dormant := by
    refine dormant_shutdownDefault h.numbered h.slot h.session h.others ?_
    intro c hc callback hcallback
    obtain ⟨c', hc', hsame⟩ := h.callbacks c hc
    obtain ⟨c'', hc'', hmem⟩ := callbacks_readied hn hc' (hsame ▸ hcallback)
    exact hcallbacks c'' hc'' callback hmem
  have howned : (shutdownDefault x).hub.Owned :=
    (Hub.keeps_of_moves (P := fun p => p.Numbered ∧ p.Owned) (moves_shutdownDefault x)
      (fun ⟨hn, ho⟩ hm => ⟨hn.move hm, ho.move hn hm⟩) ⟨h.numbered, h.owned⟩).2
  exact ⟨Hub.dormant_iff.1 hdormant, hdormant.table_eq_none howned⟩

/-! ## Runs -/

theorem run_of_error {e : ClientError} (h : flags.options config env = .error e) :
    run config env flags none m = (.error e, m) := by
  unfold run
  rw [h]

/-- A run whose options can be told initializes the default context. -/
theorem run_of_ok (h : flags.options config env = .ok o) :
    run config env flags none m =
      match (readied m.hub).init m.hub.defaultContext.1 o with
      | .error e => (.error e, { m with hub := readied m.hub })
      | .ok hub => finishRun flags none { m with hub } m.hub.defaultContext.1 := by
  unfold run
  rw [h, ← defaultContext_handOver m.hub runHandler]
  rfl

/-- The summary of a run whose checks pass. -/
def RunFlags.summary (flags : RunFlags) (m : Machine) (f : Findings) : Summary where
  context := {
    id := UInt64.ofNat m.hub.defaultContext.1
    state := .initialized
    domainId := some f.domainId
    handlers := some f.handlers
    ownsHandlers := decide (f.handlers ≠ .no)
    initializedAt := some m.hub.clock }
  node := flags.nodeName.map fun name =>
    (Node.mk (Node.remapName f.arguments name) (Node.remapNamespace f.arguments name "/")
      m.hub.defaultContext.1).fullName
  signal := (m.hub.lastReceived runHandler).map Signal.name
  plain := f.plain

/-- The node of a run is checked by its name first. -/
theorem make_eq (id : Nat) (arguments : Arguments) (name : String) :
    Node.make id arguments name "/" =
      match nodeNameDefect? (Node.remapName arguments name) with
      | some defect => .error (.invalidNodeName (Node.remapName arguments name) defect.reason)
      | none =>
        match namespaceDefect? (Node.remapNamespace arguments name "/") with
        | some defect =>
          .error (.invalidNamespace (Node.remapNamespace arguments name "/") defect.reason)
        | none =>
          .ok ⟨Node.remapName arguments name, Node.remapNamespace arguments name "/", id⟩ := by
  unfold Node.make validateNodeName validateNamespace
  dsimp only
  cases nodeNameDefect? (Node.remapName arguments name) with
  | some defect => rfl
  | none => cases namespaceDefect? (Node.remapNamespace arguments name "/") <;> rfl

/-- A run whose first checks pass gets as far as its node. -/
theorem run_of_checks (hready : Ready (readied m.hub) m.hub.defaultContext.1)
    (hsignals : flags.Asks config f.handlers) (htexts : Decoded flags.args f.texts)
    (harguments : Arguments.parse f.texts = .ok f.arguments)
    (hdomain : flags.Domain config env (.ok f.domainId)) :
    ∃ q, Opened (readied m.hub) q m.hub.defaultContext.1 (f.session m.hub.clock) ∧
      q.received = m.hub.received ∧
      run config env flags none m
        = finishRun flags none { m with hub := q } m.hub.defaultContext.1 := by
  obtain ⟨o, ho, hargs, hid, hsettings, hsource, hhandlers⟩ := options_of_asks hsignals
  have hresolved : resolveDomain o.domainId o.domain o.source = .ok f.domainId := by
    rw [hid, hsettings, hsource]
    exact hdomain.eq
  have hinit := init_of_ready hready (hargs ▸ htexts) harguments hresolved hhandlers
  obtain ⟨hclock, hreceived, -⟩ := readied_cases m.hub
  refine ⟨_, hclock ▸ opened_of_ready hready hinit, ?_, ?_⟩
  · obtain ⟨c, s, watching, events, -, -, -, ⟨-, -, heq⟩ | ⟨-, -, -, heq⟩⟩ :=
      Hub.init_cases hinit <;> rw [heq] <;> exact hreceived
  · rw [run_of_ok ho, hinit]

/-- The node of a run of an initialized context. -/
theorem createRunNode_of_some {q : Hub Callback} {s : Session} {name : String}
    (hs : q.session? id = some s) :
    createRunNode q id (some name) = (Node.make id s.arguments name "/").map fun node =>
      (some node, q.emit (.nodeCreated id node.name node.namespaceText)) := by
  simp only [createRunNode, Hub.createNode, Hub.arguments, hs, Except.bind]
  cases Node.make id s.arguments name "/" <;> rfl

theorem finishRun_of_error {e : ClientError}
    (h : createRunNode m.hub id flags.nodeName = .error e) :
    finishRun flags none m id = (.error e, shutdownDefault m) := by
  unfold finishRun
  rw [h]

theorem finishRun_of_ok {node : Option Node} {q : Hub Callback}
    (h : createRunNode m.hub id flags.nodeName = .ok (node, q)) :
    finishRun flags none m id = (.ok {
      context := m.hub.status id
      node := node.map Node.fullName
      signal := (q.lastReceived runHandler).map Signal.name
      plain := ((m.hub.session? id).map (·.arguments.plain)).getD [] },
      shutdownDefault { m with hub := q.emit (.waiting id flags.timeout) }) := by
  unfold finishRun
  rw [h]
  rfl

/-- A run fails with the error of the first check that does not pass. -/
theorem run_of_refused (hn : m.hub.Numbered)
    (hready : Ready (readied m.hub) m.hub.defaultContext.1) (hd : m.hub.Dormant)
    (ho : m.hub.Owned) {e : ClientError} (h : flags.Refused config env e) :
    (run config env flags none m).1 = .error e ∧ Tidy m (run config env flags none m).2 := by
  -- a run whose initialization fails leaves the hub as it was, ready
  have notOpened : ∀ {o}, flags.options config env = .ok o →
      (readied m.hub).Refused m.hub.defaultContext.1 o e →
      (run config env flags none m).1 = .error e ∧ Tidy m (run config env flags none m).2 := by
    intro o ho hrefused
    rw [run_of_ok ho, Hub.init_of_refused hrefused]
    exact ⟨rfl, tidy_of_dormant hready.dormant hready.owned⟩
  -- a run whose node is refused shuts its context down again
  have notNamed : ∀ {handlers texts arguments domainId name}, flags.Asks config handlers →
      Decoded flags.args texts → Arguments.parse texts = .ok arguments →
      flags.Domain config env (.ok domainId) → flags.nodeName = some name →
      Node.make m.hub.defaultContext.1 arguments name "/" = .error e →
      (run config env flags none m).1 = .error e ∧ Tidy m (run config env flags none m).2 := by
    intro handlers texts arguments domainId name hsignals htexts harguments hdomain hname hmake
    obtain ⟨q, hopened, -, hrun⟩ := run_of_checks
      (f := ⟨handlers, texts, arguments, [], domainId⟩) hready hsignals htexts harguments hdomain
    have hnode : createRunNode q m.hub.defaultContext.1 flags.nodeName = .error e := by
      rw [hname, createRunNode_of_some hopened.session]
      simp only [Findings.session, hmake, Except.map]
    have hfinish := finishRun_of_error (m := { m with hub := q }) hnode
    rw [hrun, hfinish]
    exact ⟨rfl, tidy_shutdownDefault (x := { m with hub := q }) hn hopened⟩
  cases h with
  | signals htext h =>
    rw [run_of_error (options_of_error htext h)]
    exact ⟨rfl, tidy_of_dormant hd ho⟩
  | undecodable hsignals h =>
    obtain ⟨o, hoptions, hargs, -⟩ := options_of_asks hsignals
    exact notOpened hoptions (.undecodable hready.phase (hargs ▸ h))
  | arguments hsignals htexts h =>
    obtain ⟨o, hoptions, hargs, -⟩ := options_of_asks hsignals
    exact notOpened hoptions (.arguments hready.phase (hargs ▸ htexts) h)
  | domain hsignals htexts harguments h =>
    obtain ⟨o, hoptions, hargs, hid, hsettings, hsource, -⟩ := options_of_asks hsignals
    refine notOpened hoptions (.domain hready.phase (hargs ▸ htexts) harguments ?_)
    rw [hid, hsettings, hsource]
    exact h.eq
  | nodeName hsignals htexts harguments hdomain hname h =>
    refine notNamed hsignals htexts harguments hdomain hname ?_
    rw [make_eq, h]
  | nodeNamespace hsignals htexts harguments hdomain hname hvalid h =>
    refine notNamed hsignals htexts harguments hdomain hname ?_
    rw [make_eq, hvalid, h]

/-- A run whose checks pass tells in its summary what they found. -/
theorem run_of_passes (hn : m.hub.Numbered)
    (hready : Ready (readied m.hub) m.hub.defaultContext.1) (h : flags.Passes config env f) :
    (run config env flags none m).1 = .ok (flags.summary m f) ∧
      Tidy m (run config env flags none m).2 := by
  obtain ⟨q, hopened, hreceived, hrun⟩ :=
    run_of_checks hready h.handlers h.texts h.arguments h.domain
  obtain ⟨node, q', hnode, hq', hmade⟩ : ∃ node q',
      createRunNode q m.hub.defaultContext.1 flags.nodeName = .ok (node, q') ∧
      (q' = q ∨ ∃ event, q' = q.emit event) ∧
      node.map Node.fullName = (flags.summary m f).node := by
    unfold RunFlags.summary
    cases hname : flags.nodeName with
    | none => exact ⟨none, q, rfl, .inl rfl, rfl⟩
    | some name =>
      obtain ⟨hvalid, hvalid'⟩ := h.node name hname
      rw [createRunNode_of_some hopened.session]
      simp only [Findings.session, make_eq, hvalid, hvalid', Except.map]
      exact ⟨_, _, rfl, .inr ⟨_, rfl⟩, rfl⟩
  have hplain : f.arguments.plain = f.plain :=
    Except.ok.inj ((plainArguments_of_parse h.arguments).symm.trans h.plain)
  have hend : Opened (readied m.hub) q' m.hub.defaultContext.1 (f.session m.hub.clock) ∧
      q'.received = q.received := by
    rcases hq' with rfl | ⟨event, rfl⟩
    · exact ⟨hopened, rfl⟩
    · exact ⟨hopened.emit event, rfl⟩
  rw [hrun, finishRun_of_ok (m := { m with hub := q }) hnode]
  refine ⟨congrArg Except.ok ?_, tidy_shutdownDefault hn (hend.1.emit _)⟩
  have hcontext : q.status m.hub.defaultContext.1 = (flags.summary m f).context := by
    obtain ⟨c, hc, hphase⟩ := Hub.session?_eq_some_iff.1 hopened.session
    rw [Hub.status, Hub.phase_of_some hc, hphase]
    rfl
  have hsignal : q'.lastReceived runHandler = m.hub.lastReceived runHandler := by
    rw [Hub.lastReceived, hend.2, hreceived, Hub.lastReceived]
  change Summary.mk (q.status m.hub.defaultContext.1) (node.map Node.fullName)
    ((q'.lastReceived runHandler).map Signal.name)
    (((q.session? m.hub.defaultContext.1).map (·.arguments.plain)).getD []) = _
  rw [hcontext, hmade, hsignal, hopened.session]
  simp only [Findings.session, Option.map_some, Option.getD_some, hplain]
  rfl

/-- **The command `run`**, from a state in which nothing is initialized, if no signal arrives. It
fails exactly if one of its checks does, with the error of the first one, and succeeds exactly if
all of them pass; then it prints the summary of what they found. Either way its context is shut
down, without a condition (`Tidy.default`). That nothing is left initialized and nobody owns the
handlers is said under one (`Tidy.rest`): no callback that waited on the default context before
opens a context. -/
theorem execute_run (h : m.Reachable) (hidle : ∀ id, m.hub.isInitialized id = false)
    (flags : RunFlags) (config : RuntimeConfig) (env : Environment) :
    (∀ e, (execute config env none (.run flags) m).1 = .error e ↔ flags.Refused config env e) ∧
    (∀ text, (execute config env none (.run flags) m).1 = .ok text ↔
      ∃ f, flags.Passes config env f ∧ text = (flags.summary m f).inFormat flags.format) ∧
    Tidy m (execute config env none (.run flags) m).2 := by
  have hd : m.hub.Dormant := Hub.dormant_iff.2 hidle
  have hready := ready_readied h.numbered h.owned hd
  have hexecute : execute config env none (.run flags) m
      = ((run config env flags none m).1.map (Summary.inFormat flags.format),
        (run config env flags none m).2) := rfl
  have refused : ∀ {e}, flags.Refused config env e →
      (execute config env none (.run flags) m).1 = .error e := by
    intro e he
    rw [hexecute, (run_of_refused h.numbered hready hd h.owned he).1]
    rfl
  have passes : ∀ {f}, flags.Passes config env f →
      (execute config env none (.run flags) m).1
        = .ok ((flags.summary m f).inFormat flags.format) := by
    intro f hf
    rw [hexecute, (run_of_passes h.numbered hready hf).1]
    rfl
  refine ⟨?_, ?_, ?_⟩
  · intro e
    refine ⟨fun herror => ?_, refused⟩
    rcases flags.refused_or_passes config env with ⟨e', he'⟩ | ⟨f, hf⟩
    · obtain rfl : e' = e := Except.error.inj ((refused he').symm.trans herror)
      exact he'
    · exact absurd ((passes hf).symm.trans herror) (by simp)
  · intro text
    constructor
    · intro hok
      rcases flags.refused_or_passes config env with ⟨e', he'⟩ | ⟨f, hf⟩
      · exact absurd ((refused he').symm.trans hok) (by simp)
      · exact ⟨f, hf, (Except.ok.inj ((passes hf).symm.trans hok)).symm⟩
    · rintro ⟨f, hf, rfl⟩
      exact passes hf
  · rcases flags.refused_or_passes config env with ⟨e', he'⟩ | ⟨f, hf⟩
    · exact (run_of_refused h.numbered hready hd h.owned he').2
    · exact (run_of_passes h.numbered hready hf).2

/-- A run that is given a domain, a choice of handlers and the name of a node. -/
def talkerFlags : RunFlags :=
  { domainId := some 7, signals := some "NO", nodeName := some "talker" }

theorem execute_run_talker :
    (Machine.fresh "" 1 false 0 0).Reachable ∧
    (execute {} {} none (.run talkerFlags) (Machine.fresh "" 1 false 0 0)).1
      = .ok (Summary.inFormat "text" {
          context := {
            id := 1, state := .initialized, domainId := some 7, handlers := some .no
            ownsHandlers := false, initializedAt := some "" }
          node := some "/talker" }) ∧
    ∀ id, (execute {} {} none (.run talkerFlags) (Machine.fresh "" 1 false 0 0)).2.hub.isInitialized id
      = false := by
  have start := Machine.Reachable.start "" 1 false 0 0
  have idle : ∀ id, (Machine.fresh "" 1 false 0 0).hub.isInitialized id = false := fun _ => rfl
  obtain ⟨-, accepted, tidy⟩ := execute_run start idle talkerFlags {} {}
  have found : talkerFlags.Passes {} {} ⟨.no, [], {}, [], 7⟩ := by
    refine ⟨rfl, .nil, rfl, rfl, .number rfl (by decide), ?_⟩
    rintro name ⟨⟩
    exact ⟨by decide, by decide⟩
  refine ⟨start, (accepted _).2 ⟨_, found, rfl⟩, (tidy.rest ?_).1⟩
  intro c hc
  exact absurd hc (by simp [Machine.fresh, Hub.find?])

end Console
end RobotClient
