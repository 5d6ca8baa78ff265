import RobotClient.Proofs.Context.Lookup

set_option autoImplicit false

/-! # What each operation of a hub does

One statement for each operation: when it happens, and the hub that it leaves, written out as the
hub before with the fields that change. All later proofs about hubs start from these and open no
operation again. Events that a handler change leaves are summed up by `Event.marksLife`: none of
them is about the life of a context. -/

namespace RobotClient

/-- Whether an event tells what a dispatch has come to. -/
def Event.tellsDispatch : Event → Bool
  | .signalReceived .. | .signalForwarded _ | .signalKept _ => true
  | _ => false

/-- Whether an event marks a step in the life of a context: its initialization, the start of its
    shutdown, or the end of it. -/
def Event.marksLife : Event → Bool
  | .initialized .. | .runningCallbacks .. | .shutDown _ => true
  | _ => false

theorem Event.marksLife_of_tellsDispatch {e : Event} (h : e.tellsDispatch = true) :
    e.marksLife = false := by
  cases e <;> first | rfl | exact absurd h (by simp [tellsDispatch])

namespace Hub

variable {κ : Type} {p q : Hub κ} {id : Nat}

/-! ## Handlers -/

theorem watch_eq (p : Hub κ) :
    ∃ watching events, p.watch = { p with watching, log := p.log ++ events } ∧
      ∀ e ∈ events, e.marksLife = false := by
  unfold watch
  split
  · exact ⟨p.watching, [], by simp, by simp⟩
  · exact ⟨true, [.watcherStarted], rfl, by simp [Event.marksLife]⟩

/-- Installing either leaves the handlers as they are, because none are asked for or another context
    owns them, or makes the context their owner. -/
theorem install_cases (p : Hub κ) (id : Nat) (options : HandlerOptions) :
    (∃ watching events, (options = .no ∨ p.table ≠ none) ∧
      p.install id options = (false, { p with watching, log := p.log ++ events }) ∧
      ∀ e ∈ events, e.marksLife = false) ∨
    (∃ watching events, options ≠ .no ∧ p.table = none ∧
      p.install id options = (true, { p with
        watching
        log := p.log ++ events
        table := some ⟨id, options, options.signals.map fun s => (s, p.dispositions.get s)⟩
        dispositions := catchSignals p.dispositions options.signals
        pending := none
        delivered := none }) ∧
      ∀ e ∈ events, e.marksLife = false) := by
  obtain ⟨watching, events, hwatch, hquiet⟩ := watch_eq p
  by_cases ho : options = .no
  · exact .inl ⟨p.watching, [], .inl ho, by simp [install, ho], by simp⟩
  · cases ht : p.table with
    | none =>
      refine .inr ⟨watching, events ++ [.handlersInstalled id options], ho, rfl, ?_, ?_⟩
      · simp [install, ho, hwatch, ht, emit]
      · simpa [or_imp, forall_and, Event.marksLife] using hquiet
    | some t =>
      refine .inl ⟨watching, events ++ [.handlersTaken id t.owner t.options], .inr (by simp), ?_, ?_⟩
      · simp [install, ho, hwatch, ht, emit]
      · simpa [or_imp, forall_and, Event.marksLife] using hquiet

/-- What a context's end does to the handlers: they are taken out if the session owned them. -/
def release (p : Hub κ) (id : Nat) (s : Session) : Hub κ :=
  if s.ownsHandlers then p.uninstall id else p

/-- The end of a context either leaves the handlers as they are, because it does not own them, or
    puts back what was there before. -/
theorem release_cases (p : Hub κ) (id : Nat) (s : Session) :
    ((s.ownsHandlers = false ∨ p.owner? ≠ some id) ∧ p.release id s = p) ∨
    (∃ t, s.ownsHandlers = true ∧ p.table = some t ∧ t.owner = id ∧
      p.release id s = { p with
        table := none
        dispositions := restoreSignals p.dispositions t.previous
        pending := none
        log := p.log ++ [.handlersUninstalled id] }) := by
  unfold release
  by_cases hs : s.ownsHandlers = true
  · rw [if_pos hs]
    unfold uninstall
    cases ht : p.table with
    | none => exact .inl ⟨.inr (by simp [owner?, ht]), rfl⟩
    | some t =>
      by_cases how : t.owner = id
      · exact .inr ⟨t, hs, rfl, how, by simp [how, emit]⟩
      · exact .inl ⟨.inr (by simp [owner?, ht, how]), by simp [how]⟩
  · rw [if_neg hs]
    exact .inl ⟨.inl (by simpa using hs), rfl⟩

theorem contexts_release (p : Hub κ) (id : Nat) (s : Session) :
    (p.release id s).contexts = p.contexts := by
  unfold release
  split <;> simp

/-! ## The life of a context -/

theorem modifyFirst_modifyFirst (id : Nat) (f g : Context κ → Context κ)
    (hf : ∀ c, (f c).id = c.id) (xs : List (Context κ)) :
    modifyFirst id g (modifyFirst id f xs) = modifyFirst id (fun c => g (f c)) xs := by
  induction xs with
  | nil => rfl
  | cons c rest ih =>
    by_cases h : c.id = id
    · simp [modifyFirst, h, hf]
    · simp [modifyFirst, h, ih]

theorem liveContexts_of_ids (hc : q.contexts.map (·.id) = p.contexts.map (·.id))
    (hl : q.live = p.live) : q.liveContexts = p.liveContexts := by
  have hfind : ∀ id, (q.find? id).isSome = (p.find? id).isSome := fun id =>
    Bool.eq_iff_iff.2 (by rw [find?_isSome_iff, find?_isSome_iff, hc])
  simp only [liveContexts, hl, hfind]

theorem liveContexts_setPhase (p : Hub κ) (id : Nat) (phase : Phase) :
    (p.setPhase id phase).liveContexts = p.liveContexts :=
  liveContexts_of_ids
    (map_id_modifyFirst id (fun c => { c with phase }) (fun _ => rfl) p.contexts) rfl

/-- A context as its initialization leaves it. -/
def opened (s : Session) (c : Context κ) : Context κ := { c with phase := .initialized s }

/-- A context as the start of its shutdown leaves it. -/
def closed (c : Context κ) : Context κ := { c with phase := .shutdown, callbacks := [] }

/-- A context as `onShutdown` leaves it. -/
def pushed (callback : κ) (c : Context κ) : Context κ :=
  { c with callbacks := c.callbacks ++ [callback] }

/-- The checks of an initialization, all of which come before anything changes. -/
theorem prepare_eq_ok {o : InitOptions} {arguments : Arguments} {domainId : UInt64}
    (h : p.prepare id o = .ok (arguments, domainId)) :
    p.phase id = .uninitialized ∧ Arguments.ofRaw o.args = .ok arguments ∧
      resolveDomain o.domainId o.domain o.source = .ok domainId := by
  unfold prepare at h
  cases hph : p.phase id with
  | uninitialized =>
    cases ha : Arguments.ofRaw o.args with
    | error e => simp [hph, ha, bind, Except.bind] at h
    | ok a =>
      cases hd : resolveDomain o.domainId o.domain o.source with
      | error e => simp [hph, ha, hd, bind, Except.bind] at h
      | ok d =>
        simp only [hph, ha, hd, bind, Except.bind, pure, Except.pure, Except.ok.injEq,
          Prod.mk.injEq] at h
        obtain ⟨rfl, rfl⟩ := h
        exact ⟨rfl, rfl, rfl⟩
  | initialized s => simp [hph, bind, Except.bind, throw, throwThe, MonadExceptOf.throw] at h
  | shutdown => simp [hph, bind, Except.bind, throw, throwThe, MonadExceptOf.throw] at h

/-- An initialization that succeeds takes an uninitialized context and binds it to a session. Either
    the session does not own the handlers and they stay as they are, or nobody owned them and they
    were installed for it. -/
theorem init_cases {o : InitOptions} (h : p.init id o = .ok q) :
    ∃ c s watching events, p.find? id = some c ∧ c.phase = .uninitialized ∧
      (∀ e ∈ events, e.marksLife = false) ∧
      (s.ownsHandlers = false ∧ (s.handlers = .no ∨ p.table ≠ none) ∧
        q = { p with
          watching
          contexts := modifyFirst id (opened s) p.contexts
          live := p.liveContexts ++ [id]
          log := p.log ++ (events ++ [.initialized id s]) } ∨
      s.ownsHandlers = true ∧ s.handlers ≠ .no ∧ p.table = none ∧
        q = { p with
          watching
          contexts := modifyFirst id (opened s) p.contexts
          live := p.liveContexts ++ [id]
          log := p.log ++ (events ++ [.initialized id s])
          table := some ⟨id, s.handlers, s.handlers.signals.map fun x => (x, p.dispositions.get x)⟩
          dispositions := catchSignals p.dispositions s.handlers.signals
          pending := none
          delivered := none }) := by
  unfold init at h
  cases hp : p.prepare id o with
  | error e => simp [hp, Except.map] at h
  | ok found =>
    obtain ⟨arguments, domainId⟩ := found
    simp only [hp, Except.map, Except.ok.injEq] at h
    subst h
    obtain ⟨hph, -, -⟩ := prepare_eq_ok hp
    have hlive : p.phase id ≠ .shutdown := by simp [hph]
    obtain ⟨c, hc⟩ := exists_find?_of_phase hlive
    have hcph : c.phase = .uninitialized := by rw [← hph, phase_of_some hc]
    generalize p.requestedHandlers id o = options
    unfold openSession
    rcases install_cases p id options with
      ⟨watching, events, hwhy, heq, hquiet⟩ | ⟨watching, events, hno, htable, heq, hquiet⟩
    · refine ⟨c, ⟨domainId, arguments, options, false, p.clock⟩, watching, events, hc, hcph, hquiet,
        .inl ⟨rfl, hwhy, ?_⟩⟩
      rw [heq]
      simp only [emit, register]
      rw [liveContexts_setPhase]
      simp only [setPhase, modify, List.append_assoc]
      rfl
    · refine ⟨c, ⟨domainId, arguments, options, true, p.clock⟩, watching, events, hc, hcph, hquiet,
        .inr ⟨rfl, hno, htable, ?_⟩⟩
      rw [heq]
      simp only [emit, register]
      rw [liveContexts_setPhase]
      simp only [setPhase, modify, List.append_assoc]
      rfl

theorem callbacks_unregister_setPhase {c : Context κ} (hc : p.find? id = some c) (phase : Phase) :
    (((p.setPhase id phase).unregister id).find? id).map (·.callbacks) = some c.callbacks := by
  have hset := find?_modifyFirst id (fun c : Context κ => { c with phase }) (fun _ => rfl)
    p.contexts id
  rw [if_pos rfl, ← find?, hc] at hset
  change ((modifyFirst id _ p.contexts).find? (·.id = id)).map _ = _
  rw [hset]
  rfl

theorem beginShutdown_of_session {s : Session} (hs : p.session? id = some s) :
    p.beginShutdown id =
      let r := ((p.release id s).setPhase id .shutdown).unregister id
      .ok (((r.find? id).map (·.callbacks)).getD [],
        (r.modify id fun c => { c with callbacks := [] }).emit
          (.runningCallbacks id (((r.find? id).map (·.callbacks)).getD []).length)) := by
  unfold beginShutdown
  rw [hs]
  rfl

/-- A shutdown starts only in an initialized context, and hands its callbacks out. Either the
    context does not own the handlers and they stay as they are, or they are taken out again. -/
theorem beginShutdown_cases {callbacks : List κ} (h : p.beginShutdown id = .ok (callbacks, q)) :
    ∃ c s, p.find? id = some c ∧ c.phase = .initialized s ∧ callbacks = c.callbacks ∧
      ((s.ownsHandlers = false ∨ p.owner? ≠ some id) ∧
        q = { p with
          contexts := modifyFirst id closed p.contexts
          live := p.liveContexts.filter (· ≠ id)
          log := p.log ++ [.runningCallbacks id c.callbacks.length] } ∨
      ∃ t, s.ownsHandlers = true ∧ p.table = some t ∧ t.owner = id ∧
        q = { p with
          contexts := modifyFirst id closed p.contexts
          live := p.liveContexts.filter (· ≠ id)
          table := none
          dispositions := restoreSignals p.dispositions t.previous
          pending := none
          log := p.log ++ [.handlersUninstalled id, .runningCallbacks id c.callbacks.length] }) := by
  cases hs : p.session? id with
  | none => simp [beginShutdown, hs] at h
  | some s =>
    obtain ⟨c, hc, hph⟩ := session?_eq_some_iff.1 hs
    have hcontexts := contexts_release p id s
    have hcallbacks := callbacks_unregister_setPhase (p := p.release id s)
      (by rw [find?_of_contexts hcontexts, hc]) .shutdown
    rw [beginShutdown_of_session hs] at h
    dsimp only at h
    rw [hcallbacks] at h
    simp only [Option.getD_some, Except.ok.injEq, Prod.mk.injEq] at h
    obtain ⟨rfl, rfl⟩ := h
    have hclosed := modifyFirst_modifyFirst id (fun c : Context κ => { c with phase := .shutdown })
      (fun c => { c with callbacks := [] }) (fun _ => rfl) p.contexts
    refine ⟨c, s, hc, hph, rfl, ?_⟩
    rcases release_cases p id s with ⟨hwhy, heq⟩ | ⟨t, howns, htable, howner, heq⟩
    · refine .inl ⟨hwhy, ?_⟩
      simp only [heq, emit, unregister, modify]
      rw [liveContexts_setPhase]
      simp only [setPhase, modify, hclosed]
      rfl
    · refine .inr ⟨t, howns, htable, howner, ?_⟩
      simp only [heq, emit, unregister, modify]
      rw [liveContexts_setPhase]
      simp only [setPhase, modify, hclosed, List.append_assoc, List.singleton_append]
      rfl

/-- Whether or not the handlers are taken out, a shutdown closes its context, and neither the
    default slot nor the numbering notices. -/
theorem beginShutdown_closed {callbacks : List κ} (h : p.beginShutdown id = .ok (callbacks, q)) :
    ∃ c, p.find? id = some c ∧ callbacks = c.callbacks ∧
      q.contexts = modifyFirst id closed p.contexts ∧ q.slot = p.slot ∧ q.nextId = p.nextId := by
  obtain ⟨c, s, hc, -, hcallbacks, hcase⟩ := beginShutdown_cases h
  refine ⟨c, hc, hcallbacks, ?_⟩
  rcases hcase with ⟨-, rfl⟩ | ⟨t, -, -, -, rfl⟩ <;> exact ⟨rfl, rfl, rfl⟩

theorem beginShutdown_eq_error {e : ClientError} (h : p.beginShutdown id = .error e) :
    p.isInitialized id = false ∧ e = .notInitialized := by
  unfold beginShutdown at h
  split at h
  · next hs => exact ⟨by simp [isInitialized, hs], by simpa using h.symm⟩
  · simp at h

/-- A callback is kept for later, unless the context is shut down. -/
theorem onShutdown_cases (p : Hub κ) (id : Nat) (callback : κ) :
    (p.phase id = .shutdown ∧ p.onShutdown id callback = (some callback, p)) ∨
    (p.phase id ≠ .shutdown ∧ p.onShutdown id callback
      = (none, { p with contexts := modifyFirst id (pushed callback) p.contexts })) := by
  unfold onShutdown
  split
  · next h => exact .inl ⟨h, rfl⟩
  · next h => exact .inr ⟨h, rfl⟩

/-- Freeing a context takes it away. One that is still initialized leaves an event, and its handlers
    are taken out if it owns them. -/
theorem free_cases (p : Hub κ) (id : Nat) :
    (p.session? id = none ∧
      p.free id = { p with contexts := p.contexts.filter (·.id ≠ id) }) ∨
    (∃ s, p.session? id = some s ∧ (s.ownsHandlers = false ∨ p.owner? ≠ some id) ∧
      p.free id = { p with
        contexts := p.contexts.filter (·.id ≠ id)
        log := p.log ++ [.droppedInitialized id] }) ∨
    (∃ s t, p.session? id = some s ∧ s.ownsHandlers = true ∧ p.table = some t ∧ t.owner = id ∧
      p.free id = { p with
        contexts := p.contexts.filter (·.id ≠ id)
        table := none
        dispositions := restoreSignals p.dispositions t.previous
        pending := none
        log := p.log ++ [.droppedInitialized id, .handlersUninstalled id] }) := by
  cases hs : p.session? id with
  | none => exact .inl ⟨rfl, by simp [free, hs]⟩
  | some s =>
    have hfree : p.free id = { (p.emit (.droppedInitialized id)).release id s with
        contexts := p.contexts.filter (·.id ≠ id) } := by
      have hcontexts : ((p.emit (.droppedInitialized id)).release id s).contexts = p.contexts :=
        contexts_release _ id s
      unfold free
      simp only [hs, ← hcontexts]
      rfl
    rcases release_cases (p.emit (.droppedInitialized id)) id s with
      ⟨hwhy, heq⟩ | ⟨t, howns, htable, howner, heq⟩
    · exact .inr (.inl ⟨s, rfl, hwhy, by rw [hfree, heq]; rfl⟩)
    · refine .inr (.inr ⟨s, t, rfl, howns, htable, howner, ?_⟩)
      rw [hfree, heq]
      simp [emit]

/-! ## The default context -/

/-- The context that a call is about, and the hub with it; the default one is made if need be. -/
def about (p : Hub κ) : Option Nat → Nat × Hub κ
  | some id => (id, p)
  | none => p.defaultContext

/-- The default context is the one in the slot, unless that is shut down or there is none; then it
    is a fresh one. -/
theorem defaultContext_cases (p : Hub κ) :
    (∃ id, p.slot = some id ∧ p.lifecycle id ≠ .shutdown ∧ p.defaultContext = (id, p)) ∨
    ((∀ id, p.slot = some id → p.lifecycle id = .shutdown) ∧
      p.defaultContext = (p.nextId, { p with
        nextId := p.nextId + 1
        contexts := p.contexts ++ [{ id := p.nextId }]
        slot := some p.nextId
        log := p.log ++ [.defaultCreated p.nextId] })) := by
  unfold defaultContext
  cases hs : p.slot with
  | none => exact .inr ⟨by simp, rfl⟩
  | some id =>
    by_cases hl : p.lifecycle id = .shutdown
    · exact .inr ⟨by simp [hl], by simp only [if_pos hl]; rfl⟩
    · exact .inl ⟨id, rfl, hl, by simp only [if_neg hl]⟩

/-! ## Nodes and signals -/

theorem createNode_eq_ok {name ns : String} {node : Node}
    (h : p.createNode id name ns = .ok (node, q)) :
    ∃ arguments, p.arguments id = .ok arguments ∧ Node.make id arguments name ns = .ok node ∧
      q = { p with log := p.log ++ [.nodeCreated id node.name node.namespaceText] } := by
  unfold createNode at h
  cases ha : p.arguments id with
  | error e => simp [ha, Except.bind] at h
  | ok a =>
    cases hn : Node.make id a name ns with
    | error e => simp [ha, hn, Except.bind, Except.map] at h
    | ok n =>
      simp only [ha, hn, Except.bind, Except.map, Except.ok.injEq, Prod.mk.injEq] at h
      obtain ⟨rfl, rfl⟩ := h
      exact ⟨a, rfl, hn, rfl⟩

/-- A signal either becomes pending or reaches a handler of the host. -/
theorem deliver_cases (p : Hub κ) (signal : Signal) :
    (p.dispositions.get signal = .library ∧
      p.deliver signal = { p with pending := some signal }) ∨
    (∃ label, p.dispositions.get signal = .host label ∧
      p.deliver signal = { p with received := p.received ++ [(signal, label)] }) := by
  unfold deliver
  cases hd : p.dispositions.get signal with
  | library => exact .inl ⟨rfl, rfl⟩
  | host label => exact .inr ⟨label, rfl, rfl⟩

/-! ## Looking up afterwards -/

theorem find?_of_fresh (h : p.Numbered) (hq : q.contexts = p.contexts ++ [{ id := p.nextId }])
    (j : Nat) : q.find? j = if j = p.nextId then some { id := p.nextId } else p.find? j := by
  unfold find?
  rw [hq, List.find?_append]
  by_cases hj : j = p.nextId
  · subst hj
    have hnone := find?_of_nextId_le h (Nat.le_refl p.nextId)
    unfold find? at hnone
    simp [hnone]
  · simp [hj, Ne.symm hj]

theorem find?_of_modified (change : Context κ → Context κ)
    (hq : q.contexts = modifyFirst id change p.contexts) (hc : ∀ c, (change c).id = c.id)
    {c : Context κ} (hf : p.find? id = some c) (j : Nat) :
    q.find? j = if j = id then some (change c) else p.find? j := by
  unfold find? at hf ⊢
  rw [hq, find?_modifyFirst id change hc, hf]
  rfl

theorem find?_of_filtered (hq : q.contexts = p.contexts.filter (·.id ≠ id)) (j : Nat) :
    q.find? j = if j = id then none else p.find? j := by
  unfold find?
  rw [hq, List.find?_filter]
  by_cases hj : j = id
  · subst hj
    simp
  · rw [if_neg hj]
    congr 1
    funext c
    by_cases hc : c.id = j
    · simp [hc, hj]
    · simp [hc]

/-! ## What exists afterwards -/

theorem exists_of_create (p : Hub κ) : (p.create.2.find? p.create.1).isSome = true :=
  find?_isSome_iff.2 (by simp [create])

theorem exists_of_defaultContext (p : Hub κ) :
    (p.defaultContext.2.find? p.defaultContext.1).isSome = true := by
  rcases defaultContext_cases p with ⟨id, -, hlife, heq⟩ | ⟨-, heq⟩ <;> rw [heq]
  · cases hc : p.find? id with
    | none => exact absurd (by rw [lifecycle, phase_of_none hc]; rfl) hlife
    | some c => rfl
  · exact find?_isSome_iff.2 (by simp)

theorem exists_of_init {o : InitOptions} (h : p.init id o = .ok q) :
    (q.find? id).isSome = true := by
  obtain ⟨c, s, watching, events, hc, -, -, hcase⟩ := init_cases h
  have hcontexts : q.contexts = modifyFirst id (opened s) p.contexts := by
    rcases hcase with ⟨-, -, rfl⟩ | ⟨-, -, -, rfl⟩ <;> rfl
  rw [find?_of_modified (opened s) hcontexts (fun _ => rfl) hc, if_pos rfl]
  rfl

/-- A node knows the context that it was made for. -/
theorem context_of_make {arguments : Arguments} {name ns : String} {node : Node}
    (h : Node.make id arguments name ns = .ok node) : node.context = id := by
  unfold Node.make at h
  simp only [bind, Except.bind, pure, Except.pure] at h
  split at h
  · exact absurd h (by simp)
  · split at h
    · exact absurd h (by simp)
    · exact (Except.ok.inj h) ▸ rfl

theorem exists_of_createNode {name ns : String} {node : Node}
    (h : p.createNode id name ns = .ok (node, q)) :
    (q.find? node.context).isSome = true := by
  obtain ⟨arguments, harguments, hnode, rfl⟩ := createNode_eq_ok h
  rw [context_of_make hnode]
  cases hc : p.find? id with
  | none =>
    have hnone : p.arguments id = .error .notInitialized := by
      rw [Hub.arguments, session?, phase_of_none hc]
      rfl
    exact absurd (hnone.symm.trans harguments) (by simp)
  | some c => exact (congrArg Option.isSome hc).trans rfl

end Hub
end RobotClient
