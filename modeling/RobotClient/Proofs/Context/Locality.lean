import RobotClient.Proofs.Context.Stages

set_option autoImplicit false

/-! # What a task on one context reads and writes

A task is what a program asks of one context by a name. It reads the context and the default slot,
and it writes the context alone. The signal handlers are the one thing that contexts share and tasks
change; a task reads and writes them only where it asks for them or gives them back
(`Hub.Rewires`). Main statements: `Hub.effect_leaves` and `Hub.wiring_effect` for what is written,
`Hub.effect_congr` and `Hub.wiring_effect_congr` for what is read. -/

namespace RobotClient

/-! ## Tasks -/

/-- What a program can ask of one context. -/
inductive Task where
  | init (options : InitOptions)
  | shutdown (tolerant : Bool)
  | onShutdown (callback : Callback)
  | createNode (name namespaceText : String) (keepAs : Option String)
  /-- Lets go of the name by which the program holds the context. -/
  | drop

/-- The operation that a task is, under the name of its context. -/
def Task.op (handle : String) : Task → Op
  | .init options => .init (some handle) none options
  | .shutdown tolerant => .shutdown (some handle) tolerant
  | .onShutdown callback => .onShutdown handle callback.label callback.body
  | .createNode name ns keepAs => .createNode (some handle) name ns keepAs
  | .drop => .drop handle

/-- What comes of a task: the answer, the callbacks that have run, and the hub afterwards. -/
structure Effect where
  reply : Reply
  ran : List Callback := []
  /-- The node that is made. -/
  node? : Option Node := none
  hub : Hub Callback

/-- A session without its time. -/
def Session.timeless (s : Session) : Session := { s with initializedAt := "" }

/-- A phase without the time of its session. -/
def Phase.timeless : Phase → Phase
  | .initialized s => .initialized s.timeless
  | phase => phase

/-- A context without the time of its initialization. -/
def Context.timeless {κ : Type} (c : Context κ) : Context κ := { c with phase := c.phase.timeless }

/-- Whether two effects on a context are the same, the time of an initialization aside. -/
structure Effect.Same (id : Nat) (e e' : Effect) : Prop where
  reply : e'.reply = e.reply
  ran : e'.ran = e.ran
  node? : e'.node? = e.node?
  context : (e'.hub.find? id).map Context.timeless = (e.hub.find? id).map Context.timeless

namespace Hub

/-! ## The wiring of the handlers -/

/-- Who handles signals, and which signals were caught. -/
structure Wiring where
  table : Option HandlerTable
  dispositions : Dispositions
  pending : Option Signal
  delivered : Option Signal

section
variable {κ : Type} {p p' q : Hub κ} {id : Nat}

/-- The part of a hub that is about signals. -/
def wiring (p : Hub κ) : Wiring := ⟨p.table, p.dispositions, p.pending, p.delivered⟩

theorem wiring_eq_iff : p'.wiring = p.wiring ↔ p'.table = p.table ∧
    p'.dispositions = p.dispositions ∧ p'.pending = p.pending ∧ p'.delivered = p.delivered := by
  simp only [wiring, Wiring.mk.injEq]

/-- Installing reads nothing but the wiring. -/
theorem wiring_install_congr (h : p'.wiring = p.wiring) (id : Nat) (options : HandlerOptions) :
    (p'.install id options).2.wiring = (p.install id options).2.wiring := by
  obtain ⟨htable, hdispositions, -, -⟩ := wiring_eq_iff.1 h
  rcases install_cases p id options with
    ⟨_, _, hwhy, heq, -⟩ | ⟨_, _, hno, hfree, heq, -⟩ <;>
  rcases install_cases p' id options with
    ⟨_, _, hwhy', heq', -⟩ | ⟨_, _, hno', hfree', heq', -⟩ <;> rw [heq, heq']
  · exact h
  · rcases hwhy with rfl | htaken
    · exact absurd rfl hno'
    · exact absurd (htable ▸ hfree') htaken
  · rcases hwhy' with rfl | htaken
    · exact absurd rfl hno
    · exact absurd (htable.trans hfree) htaken
  · simp only [wiring, hdispositions]

/-- Releasing reads nothing but the wiring. -/
theorem wiring_release_congr (h : p'.wiring = p.wiring) (id : Nat) (s : Session) :
    (p'.release id s).wiring = (p.release id s).wiring := by
  obtain ⟨htable, hdispositions, -, hdelivered⟩ := wiring_eq_iff.1 h
  rcases release_cases p id s with ⟨hwhy, heq⟩ | ⟨t, howns, ht, howner, heq⟩ <;>
  rcases release_cases p' id s with ⟨hwhy', heq'⟩ | ⟨t', howns', ht', howner', heq'⟩ <;>
    rw [heq, heq']
  · exact h
  · rcases hwhy with hnot | hother
    · exact absurd (howns'.symm.trans hnot) (by decide)
    · exact absurd (by rw [owner?, ← htable, ht', ← howner']; rfl) hother
  · rcases hwhy' with hnot | hother
    · exact absurd (howns.symm.trans hnot) (by decide)
    · exact absurd (by rw [owner?, htable, ht, ← howner]; rfl) hother
  · obtain rfl : t = t' := Option.some.inj (ht.symm.trans (htable.symm.trans ht'))
    simp only [wiring, hdispositions, hdelivered]

/-- An initialization that succeeds opens the session that its checks have found. -/
theorem init_eq_ok {o : InitOptions} (h : p.init id o = .ok q) :
    ∃ arguments domainId, p.prepare id o = .ok (arguments, domainId) ∧
      q = p.openSession id (p.requestedHandlers id o) arguments domainId := by
  unfold init at h
  cases hp : p.prepare id o with
  | error e => simp [hp, Except.map] at h
  | ok found =>
    rw [hp] at h
    exact ⟨found.1, found.2, rfl, (Except.ok.inj h).symm⟩

theorem wiring_openSession (p : Hub κ) (id : Nat) (options : HandlerOptions)
    (arguments : Arguments) (domainId : UInt64) :
    (p.openSession id options arguments domainId).wiring = (p.install id options).2.wiring := rfl

theorem wiring_beginShutdown {s : Session} {callbacks : List κ} (hs : p.session? id = some s)
    (h : p.beginShutdown id = .ok (callbacks, q)) : q.wiring = (p.release id s).wiring := by
  rw [beginShutdown_of_session hs] at h
  obtain ⟨-, rfl⟩ := Prod.mk.inj (Except.ok.inj h)
  rfl

theorem wiring_free_of_some {s : Session} (hs : p.session? id = some s) :
    (p.free id).wiring = (p.release id s).wiring := by
  have hemit : (p.emit (.droppedInitialized id)).wiring = p.wiring := rfl
  rw [← wiring_release_congr hemit, free]
  simp only [hs]
  rfl

theorem wiring_free_of_none (hs : p.session? id = none) : (p.free id).wiring = p.wiring := by
  rw [free]
  simp only [hs]
  rfl

end

variable {p p' : Hub Callback} {id : Nat} {freed : Bool} {task : Task}

/-! ## Effects -/

/-- What comes of a task; `freed` tells whether nobody holds the context without the name. -/
def effect (p : Hub Callback) (id : Nat) (freed : Bool) : Task → Effect
  | .init options =>
    match p.init id options with
    | .error e => { reply := .failed e, hub := p }
    | .ok q => { reply := .ok (.id id), hub := q }
  | .shutdown tolerant =>
    match p.beginShutdown id with
    | .error e => { reply := if tolerant then .ok .done else .failed e, hub := p }
    | .ok (callbacks, q) => { reply := .ok .done, ran := callbacks, hub := q.finishShutdown id }
  | .onShutdown callback =>
    { reply := .ok .done, ran := (p.onShutdown id callback).1.toList,
      hub := (p.onShutdown id callback).2 }
  | .createNode name ns _ =>
    match p.createNode id name ns with
    | .error e => { reply := .failed e, hub := p }
    | .ok (node, q) =>
      { reply := .ok (.node ⟨node, q.isInitialized id⟩), node? := some node, hub := q }
  | .drop => { reply := .ok (.flag true), hub := if freed then p.free id else p }

/-- Whether a task asks for signal handlers, or gives back those that the context owns. -/
def Rewires (p : Hub Callback) (id : Nat) (freed : Bool) : Task → Prop
  | .init options => (∃ q, p.init id options = .ok q) ∧ p.requestedHandlers id options ≠ .no
  | .shutdown _ => ∃ s, p.session? id = some s ∧ s.ownsHandlers = true
  | .drop => freed = true ∧ ∃ s, p.session? id = some s ∧ s.ownsHandlers = true
  | .onShutdown _ | .createNode .. => False

/-! ## What is written -/

/-- Whether a change is one of a single context at most. -/
structure Leaves (id : Nat) (p q : Hub Callback) : Prop where
  find? : ∀ j, j ≠ id → q.find? j = p.find? j
  slot : q.slot = p.slot
  nextId : q.nextId = p.nextId

/-- Whether a change puts something else in the place of a single context at most. -/
def Replaces (id : Nat) (p q : Hub Callback) : Prop :=
  ∃ change : Context Callback → Context Callback, (∀ c, (change c).id = c.id) ∧
    q.contexts = modifyFirst id change p.contexts ∧ q.slot = p.slot ∧ q.nextId = p.nextId

theorem modifyFirst_self (id : Nat) (xs : List (Context Callback)) :
    modifyFirst id (fun c => c) xs = xs := by
  induction xs with
  | nil => rfl
  | cons c rest ih => simp only [modifyFirst, ih, ite_self]

theorem Replaces.refl (id : Nat) (p : Hub Callback) : Replaces id p p :=
  ⟨fun c => c, fun _ => rfl, (modifyFirst_self id p.contexts).symm, rfl, rfl⟩

theorem Replaces.ids {q : Hub Callback} (h : Replaces id p q) :
    q.contexts.map (·.id) = p.contexts.map (·.id) := by
  obtain ⟨change, hc, hq, -, -⟩ := h
  rw [hq, map_id_modifyFirst id change hc]

theorem Replaces.leaves {q : Hub Callback} (h : Replaces id p q) : Leaves id p q := by
  obtain ⟨change, hc, hq, hslot, hnext⟩ := h
  refine ⟨?_, hslot, hnext⟩
  intro j hj
  rw [Hub.find?, hq, find?_modifyFirst id change hc, if_neg hj, Hub.find?]

/-- A task that lets go of nothing keeps its context. -/
theorem replaces_effect (p : Hub Callback) (id : Nat) (freed : Bool) (h : task ≠ .drop) :
    Replaces id p (p.effect id freed task).hub := by
  cases task with
  | init options =>
    simp only [effect]
    split
    · exact .refl id p
    · next q hq =>
      obtain ⟨c, s, watching, events, -, -, -, ⟨-, -, rfl⟩ | ⟨-, -, -, rfl⟩⟩ := init_cases hq <;>
        exact ⟨opened s, fun _ => rfl, rfl, rfl, rfl⟩
  | shutdown tolerant =>
    simp only [effect]
    split
    · exact .refl id p
    · next callbacks q hq =>
      obtain ⟨c, -, -, hcontexts, hslot, hnext⟩ := beginShutdown_closed hq
      exact ⟨closed, fun _ => rfl, hcontexts, hslot, hnext⟩
  | onShutdown callback =>
    simp only [effect]
    rcases onShutdown_cases p id callback with ⟨-, heq⟩ | ⟨-, heq⟩ <;> rw [heq]
    · exact .refl id p
    · exact ⟨pushed callback, fun _ => rfl, rfl, rfl, rfl⟩
  | createNode name ns keepAs =>
    simp only [effect]
    split
    · exact .refl id p
    · next node q hq =>
      obtain ⟨arguments, -, -, rfl⟩ := createNode_eq_ok hq
      exact ⟨fun c => c, fun _ => rfl, (modifyFirst_self id p.contexts).symm, rfl, rfl⟩
  | drop => exact absurd rfl h

/-- **A task writes its context alone.** -/
theorem effect_leaves (p : Hub Callback) (id : Nat) (freed : Bool) (task : Task) :
    Leaves id p (p.effect id freed task).hub := by
  by_cases hdrop : task = .drop
  · subst hdrop
    cases freed with
    | false => exact (Replaces.refl id p).leaves
    | true =>
      refine ⟨?_, slot_free p id, nextId_free p id⟩
      intro j hj
      change (p.free id).find? j = p.find? j
      rw [find?_of_filtered (contexts_free p id), if_neg hj]
  · exact (replaces_effect p id freed hdrop).leaves

theorem release_of_not_owns {s : Session} (h : s.ownsHandlers = false) : p.release id s = p := by
  rw [release, h]
  rfl

/-- **A task that neither asks for the handlers nor gives any back** leaves the wiring alone. -/
theorem wiring_effect (h : ¬ p.Rewires id freed task) :
    (p.effect id freed task).hub.wiring = p.wiring := by
  have kept : ∀ {s : Session}, p.session? id = some s →
      ¬ (∃ s, p.session? id = some s ∧ s.ownsHandlers = true) →
      (p.release id s).wiring = p.wiring := fun {s} hs hno => by
    rw [release_of_not_owns (by simpa using fun howns => hno ⟨s, hs, howns⟩)]
  cases task with
  | init options =>
    simp only [effect]
    split
    · rfl
    · next q hq =>
      have hno : p.requestedHandlers id options = .no := by
        by_contra hasks
        exact h ⟨⟨q, hq⟩, hasks⟩
      obtain ⟨arguments, domainId, -, rfl⟩ := init_eq_ok hq
      rw [hno, wiring_openSession]
      rfl
  | shutdown tolerant =>
    simp only [effect]
    split
    · rfl
    · next callbacks q hq =>
      obtain ⟨c, s, hc, hph, -⟩ := beginShutdown_cases hq
      have hs := session?_eq_some_iff.2 ⟨c, hc, hph⟩
      exact (wiring_beginShutdown hs hq).trans (kept hs h)
  | onShutdown callback =>
    simp only [effect]
    rcases onShutdown_cases p id callback with ⟨-, heq⟩ | ⟨-, heq⟩
    · rw [heq]
    · rw [heq]
      rfl
  | createNode name ns keepAs =>
    simp only [effect]
    split
    · rfl
    · next node q hq =>
      obtain ⟨arguments, -, -, rfl⟩ := createNode_eq_ok hq
      rfl
  | drop =>
    simp only [effect]
    split
    · next hfreed =>
      cases hs : p.session? id with
      | none => exact wiring_free_of_none hs
      | some s => exact (wiring_free_of_some hs).trans (kept hs fun howns => h ⟨hfreed, howns⟩)
    · rfl

/-! ## What is read -/

theorem phase_eq (hfind : p'.find? id = p.find? id) : p'.phase id = p.phase id := by
  rw [phase, phase, hfind]

theorem session?_eq (hfind : p'.find? id = p.find? id) : p'.session? id = p.session? id := by
  rw [session?, session?, phase_eq hfind]

theorem prepare_eq (hfind : p'.find? id = p.find? id) (o : InitOptions) :
    p'.prepare id o = p.prepare id o := by
  rw [prepare, prepare, phase_eq hfind]

theorem requestedHandlers_eq (hslot : p'.slot = p.slot) (id : Nat) (o : InitOptions) :
    p'.requestedHandlers id o = p.requestedHandlers id o := by
  rw [requestedHandlers, requestedHandlers, isDefault, isDefault, hslot]

theorem find?_openSession {o : HandlerOptions} {arguments : Arguments} {domainId : UInt64} :
    (p.openSession id o arguments domainId).find? id = (p.find? id).map (opened
      ⟨domainId, arguments, o, decide (o ≠ .no) && p.table.isNone, p.clock⟩) := by
  rw [Hub.find?, (openSession_contexts p id o arguments domainId).1,
    find?_modifyFirst id (opened _) (fun _ => rfl), if_pos rfl, Hub.find?]

/-- Two sessions that are opened under the same wiring, or that ask for no handlers, are the same,
    their times aside. -/
theorem timeless_openSession (hfind : p'.find? id = p.find? id) (o : HandlerOptions)
    (arguments : Arguments) (domainId : UInt64) (hw : o ≠ .no → p'.wiring = p.wiring) :
    ((p'.openSession id o arguments domainId).find? id).map Context.timeless
      = ((p.openSession id o arguments domainId).find? id).map Context.timeless := by
  have howns : (decide (o ≠ .no) && p'.table.isNone) = (decide (o ≠ .no) && p.table.isNone) := by
    by_cases hno : o = .no
    · simp [hno]
    · rw [(wiring_eq_iff.1 (hw hno)).1]
  rw [find?_openSession, find?_openSession, hfind, howns, Option.map_map, Option.map_map]
  rfl

theorem beginShutdown_of_none (hs : p.session? id = none) :
    p.beginShutdown id = .error .notInitialized := by
  rw [beginShutdown, hs]

theorem exists_beginShutdown_of_some {s : Session} (hs : p.session? id = some s) :
    ∃ callbacks q, p.beginShutdown id = .ok (callbacks, q) := ⟨_, _, beginShutdown_of_session hs⟩

/-- **A task reads its context and the slot**, and the wiring only if it asks for handlers or gives
    some back. -/
theorem effect_congr (hfind : p'.find? id = p.find? id) (hslot : p'.slot = p.slot)
    (hw : p.Rewires id freed task → p'.wiring = p.wiring) :
    Effect.Same id (p.effect id freed task) (p'.effect id freed task) := by
  cases task with
  | init options =>
    have hprepare := prepare_eq hfind options
    have hoptions := requestedHandlers_eq hslot id options
    simp only [effect, Hub.init, hprepare, hoptions]
    cases hp : p.prepare id options with
    | error e => exact ⟨rfl, rfl, rfl, congrArg _ hfind⟩
    | ok found =>
      have hinit : ∃ q, p.init id options = .ok q := ⟨_, by rw [Hub.init, hp]; rfl⟩
      exact ⟨rfl, rfl, rfl, timeless_openSession hfind _ _ _ fun hasks => hw ⟨hinit, hasks⟩⟩
  | shutdown tolerant =>
    have hsession := session?_eq hfind
    simp only [effect]
    cases hs : p.session? id with
    | none =>
      rw [beginShutdown_of_none hs, beginShutdown_of_none (hsession.trans hs)]
      exact ⟨rfl, rfl, rfl, congrArg _ hfind⟩
    | some s =>
      obtain ⟨callbacks, q, hq⟩ := exists_beginShutdown_of_some hs
      obtain ⟨callbacks', q', hq'⟩ := exists_beginShutdown_of_some (hsession.trans hs)
      obtain ⟨c, hc, rfl, hcontexts, -⟩ := beginShutdown_closed hq
      obtain ⟨c', hc', rfl, hcontexts', -⟩ := beginShutdown_closed hq'
      obtain rfl : c = c' := Option.some.inj (hc.symm.trans (hfind.symm.trans hc'))
      rw [hq, hq']
      refine ⟨rfl, rfl, rfl, ?_⟩
      change (q'.find? id).map _ = (q.find? id).map _
      rw [find?_of_modified closed hcontexts (fun _ => rfl) hc, if_pos rfl,
        find?_of_modified closed hcontexts' (fun _ => rfl) hc', if_pos rfl]
  | onShutdown callback =>
    have hphase := phase_eq hfind
    simp only [effect]
    rcases onShutdown_cases p id callback with ⟨hshut, heq⟩ | ⟨hshut, heq⟩
    · rcases onShutdown_cases p' id callback with ⟨-, heq'⟩ | ⟨hopen, -⟩
      · rw [heq, heq']
        exact ⟨rfl, rfl, rfl, congrArg _ hfind⟩
      · exact absurd (hphase.trans hshut) hopen
    · rcases onShutdown_cases p' id callback with ⟨hshut', -⟩ | ⟨-, heq'⟩
      · exact absurd (hphase.symm.trans hshut') hshut
      · rw [heq, heq']
        refine ⟨rfl, rfl, rfl, congrArg _ ?_⟩
        simp only [Hub.find?] at hfind ⊢
        rw [find?_modifyFirst id (pushed callback) (fun _ => rfl), if_pos rfl,
          find?_modifyFirst id (pushed callback) (fun _ => rfl), if_pos rfl, hfind]
  | createNode name ns keepAs =>
    have hsession := session?_eq hfind
    have harguments : p'.arguments id = p.arguments id := by
      rw [Hub.arguments, Hub.arguments, hsession]
    simp only [effect, Hub.createNode, harguments]
    cases p.arguments id with
    | error e => exact ⟨rfl, rfl, rfl, congrArg _ hfind⟩
    | ok arguments =>
      cases hn : Node.make id arguments name ns with
      | error e =>
        simp only [Except.bind, hn, Except.map]
        exact ⟨rfl, rfl, rfl, congrArg _ hfind⟩
      | ok node =>
        have hinit : ∀ event, (p'.emit event).isInitialized id = (p.emit event).isInitialized id :=
          fun _ => congrArg Option.isSome hsession
        simp only [Except.bind, hn, Except.map, hinit]
        exact ⟨rfl, rfl, rfl, congrArg _ hfind⟩
  | drop =>
    refine ⟨rfl, rfl, rfl, congrArg _ ?_⟩
    simp only [effect]
    split
    · rw [find?_of_filtered (contexts_free p' id), find?_of_filtered (contexts_free p id), if_pos rfl,
        if_pos rfl]
    · exact hfind

/-- What a task makes of the wiring depends on nothing but the wiring, its context and the slot. -/
theorem wiring_effect_congr (hfind : p'.find? id = p.find? id) (hslot : p'.slot = p.slot)
    (hw : p'.wiring = p.wiring) :
    (p'.effect id freed task).hub.wiring = (p.effect id freed task).hub.wiring := by
  have hsession := session?_eq hfind
  cases task with
  | init options =>
    simp only [effect, Hub.init, prepare_eq hfind options, requestedHandlers_eq hslot id options]
    cases p.prepare id options with
    | error e => exact hw
    | ok found => exact wiring_install_congr hw id _
  | shutdown tolerant =>
    simp only [effect]
    cases hs : p.session? id with
    | none =>
      rw [beginShutdown_of_none hs, beginShutdown_of_none (hsession.trans hs)]
      exact hw
    | some s =>
      have hs' := hsession.trans hs
      obtain ⟨callbacks, q, hq⟩ := exists_beginShutdown_of_some hs
      obtain ⟨callbacks', q', hq'⟩ := exists_beginShutdown_of_some hs'
      rw [hq, hq']
      change q'.wiring = q.wiring
      rw [wiring_beginShutdown hs hq, wiring_beginShutdown hs' hq', wiring_release_congr hw]
  | onShutdown | createNode =>
    rw [wiring_effect (by simp [Rewires]), wiring_effect (by simp [Rewires]), hw]
  | drop =>
    simp only [effect]
    split
    · cases hs : p.session? id with
      | none => rw [wiring_free_of_none hs, wiring_free_of_none (hsession.trans hs), hw]
      | some s =>
        rw [wiring_free_of_some hs, wiring_free_of_some (hsession.trans hs),
          wiring_release_congr hw]
    · exact hw

/-- Whether a task touches the handlers depends on its context and the slot. -/
theorem rewires_congr (hfind : p'.find? id = p.find? id) (hslot : p'.slot = p.slot) :
    p'.Rewires id freed task ↔ p.Rewires id freed task := by
  have hsession := session?_eq hfind
  cases task with
  | init options =>
    have hok : (∃ q, p'.init id options = .ok q) ↔ ∃ q, p.init id options = .ok q := by
      simp only [Hub.init, prepare_eq hfind options]
      cases p.prepare id options <;> simp [Except.map]
    simp only [Rewires, hok, requestedHandlers_eq hslot id options]
  | shutdown | drop => simp only [Rewires, hsession]
  | onShutdown | createNode => exact Iff.rfl

end Hub
end RobotClient
