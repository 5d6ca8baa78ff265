import RobotClient.Proofs.Context.Lockstep
import RobotClient.Proofs.Context.Registry

set_option autoImplicit false

/-! # Leaving a shut down context out

A context that is shut down does nothing any more (`Retired`). So it makes no difference to an
operation whether it is still there or was left out of the hub, also as the default one: each
operation comes to the same with and without it, and leaves hubs of which the second is again the
first without it. There is one equation for each operation, `(p.without d).op = p.op.without d` in
short; a collection, that frees contexts one after another, comes last. -/

namespace RobotClient

namespace Hub

variable {κ : Type} {p q : Hub κ} {d id : Nat}

/-- A hub without a context. -/
def without (d : Nat) (p : Hub κ) : Hub κ :=
  { p with
    contexts := p.contexts.filter (·.id ≠ d)
    slot := if p.slot = some d then none else p.slot }

/-- Whether a context was given out and is shut down, in a hub that keeps its books. -/
structure Retired (d : Nat) (p : Hub κ) : Prop where
  numbered : p.Numbered
  registered : p.Registered
  given : d < p.nextId
  shut : p.phase d = .shutdown

/-- Nothing brings a context back to life. -/
theorem Retired.move (h : Retired d p) (hm : Move p q) : Retired d q where
  numbered := h.numbered.move hm
  registered := h.registered.move h.numbered hm
  given := Nat.lt_of_lt_of_le h.given hm.nextId_le
  shut := shutdown_of_moves (.single hm) h.numbered h.given h.shut

theorem Retired.ne_of_phase (h : Retired d p) (hid : p.phase id ≠ .shutdown) : id ≠ d := by
  rintro rfl
  exact hid h.shut

theorem Retired.not_mem_liveContexts (h : Retired d p) : d ∉ p.liveContexts := by
  rw [h.registered.live, h.registered.mem_initializedIds_iff, isInitialized_of_shutdown h.shut]
  exact Bool.false_ne_true

/-! ## Looking -/

theorem find?_without (p : Hub κ) (d j : Nat) :
    (p.without d).find? j = if j = d then none else p.find? j :=
  find?_of_filtered (q := p.without d) rfl j

theorem find?_without_of_ne {j : Nat} (hj : j ≠ d) : (p.without d).find? j = p.find? j := by
  rw [find?_without, if_neg hj]

/-- Every context is where it was, since one that is missing counts as shut down. -/
theorem phase_without (h : p.phase d = .shutdown) : (p.without d).phase = p.phase := by
  funext j
  rw [phase_of_filtered (q := p.without d) rfl]
  split
  · next hj => rw [hj, h]
  · rfl

theorem session?_without (h : p.phase d = .shutdown) (j : Nat) :
    (p.without d).session? j = p.session? j := by
  rw [session?, phase_without h, session?]

theorem isInitialized_without (h : p.phase d = .shutdown) (j : Nat) :
    (p.without d).isInitialized j = p.isInitialized j := by
  rw [isInitialized, session?_without h, isInitialized]

theorem liveContexts_without (h : d ∉ p.liveContexts) :
    (p.without d).liveContexts = p.liveContexts := by
  rw [liveContexts_of_filtered (q := p.without d) (p := p) rfl rfl]
  exact List.filter_eq_self.2 fun j hj => decide_eq_true fun he => h (he ▸ hj)

theorem slot_without_eq_some_iff {j : Nat} :
    (p.without d).slot = some j ↔ p.slot = some j ∧ j ≠ d := by
  simp only [without]
  split
  · next hd => simp [hd, eq_comm]
  · next hd => exact ⟨fun hj => ⟨hj, fun he => hd (he ▸ hj)⟩, fun hj => hj.1⟩

theorem slot_without_of_ne (h : p.slot ≠ some d) : (p.without d).slot = p.slot := if_neg h

theorem slot_without_self (h : p.slot = some d) : (p.without d).slot = none := if_pos h

theorem isDefault_without (hid : id ≠ d) : (p.without d).isDefault id = p.isDefault id :=
  decide_eq_decide.2 (slot_without_eq_some_iff.trans (and_iff_left hid))

theorem defaultIsInitialized_without (h : p.phase d = .shutdown) :
    (p.without d).defaultIsInitialized = p.defaultIsInitialized := by
  have hinit : (p.without d).isInitialized = p.isInitialized := funext (isInitialized_without h)
  unfold defaultIsInitialized
  rw [hinit]
  by_cases hslot : p.slot = some d
  · rw [slot_without_self hslot, hslot]
    simp [isInitialized_of_shutdown h]
  · rw [slot_without_of_ne hslot]

theorem lifecycle_without (h : p.phase d = .shutdown) (j : Nat) :
    (p.without d).lifecycle j = p.lifecycle j := by
  rw [lifecycle, phase_without h, lifecycle]

/-- All questions have the same answers, but whether the context left out is the default one. -/
theorem reply_without {p : Hub Callback} (h : p.phase d = .shutdown) {question : Question}
    (hodd : ¬ (id = d ∧ question = .isDefault)) :
    Machine.reply (p.without d) id question = Machine.reply p id question := by
  have hlifecycle := lifecycle_without h
  have hsession := session?_without h
  cases question with
  | isDefault =>
    have hid : id ≠ d := fun he => hodd ⟨he, rfl⟩
    simp only [Machine.reply, isDefault_without hid]
  | domainId => simp only [Machine.reply, domainId, hsession]
  | arguments => simp only [Machine.reply, arguments, hsession]
  | ok => simp only [Machine.reply, isInitialized, hsession]
  | status => simp only [Machine.reply, status, phase_without h]
  | id => rfl
  | lifecycle | display | waitForShutdown => simp only [Machine.reply, hlifecycle]

/-! ## Small changes -/

theorem emit_without (event : Event) : (p.without d).emit event = (p.emit event).without d := rfl

theorem filter_modifyFirst (hid : id ≠ d) {change : Context κ → Context κ}
    (hc : ∀ c, (change c).id = c.id) (xs : List (Context κ)) :
    modifyFirst id change (xs.filter (·.id ≠ d))
      = (modifyFirst id change xs).filter (·.id ≠ d) := by
  induction xs with
  | nil => rfl
  | cons c rest ih =>
    by_cases hd : c.id = d
    · -- the context that is left out is not the one that is changed
      have hother : c.id ≠ id := fun he => hid (he.symm.trans hd)
      rw [List.filter_cons_of_neg (by simp [hd]), modifyFirst, if_neg hother,
        List.filter_cons_of_neg (by simp [hd]), ih]
    · rw [List.filter_cons_of_pos (by simpa using hd), modifyFirst, modifyFirst]
      split
      · rw [List.filter_cons_of_pos (by simpa [hc] using hd)]
      · rw [List.filter_cons_of_pos (by simpa using hd), ih]

theorem modify_without (hid : id ≠ d) (change : Context κ → Context κ)
    (hc : ∀ c, (change c).id = c.id) :
    (p.without d).modify id change = (p.modify id change).without d :=
  congrArg (fun contexts => { p.without d with contexts }) (filter_modifyFirst hid hc p.contexts)

theorem setPhase_without (hid : id ≠ d) (x : Phase) :
    (p.without d).setPhase id x = (p.setPhase id x).without d :=
  modify_without hid _ fun _ => rfl

theorem register_without (h : d ∉ p.liveContexts) :
    (p.without d).register id = (p.register id).without d := by
  rw [register, liveContexts_without h]
  rfl

theorem unregister_without (h : d ∉ p.liveContexts) :
    (p.without d).unregister id = (p.unregister id).without d := by
  rw [unregister, liveContexts_without h]
  rfl

@[simp] theorem table_without (p : Hub κ) (d : Nat) : (p.without d).table = p.table := rfl

@[simp] theorem watching_without (p : Hub κ) (d : Nat) :
    (p.without d).watching = p.watching := rfl

@[simp] theorem dispositions_without (p : Hub κ) (d : Nat) :
    (p.without d).dispositions = p.dispositions := rfl

theorem watch_without (p : Hub κ) (d : Nat) : (p.without d).watch = p.watch.without d := by
  unfold watch
  rw [watching_without]
  split <;> rfl

theorem install_without (p : Hub κ) (d id : Nat) (options : HandlerOptions) :
    (p.without d).install id options
      = ((p.install id options).1, (p.install id options).2.without d) := by
  unfold install
  by_cases ho : options = .no
  · rw [if_pos ho, if_pos ho]
  · rw [if_neg ho, if_neg ho, watch_without]
    dsimp only [table_without]
    cases p.watch.table <;> rfl

theorem uninstall_without (p : Hub κ) (d id : Nat) :
    (p.without d).uninstall id = (p.uninstall id).without d := by
  unfold uninstall
  rw [table_without]
  cases p.table with
  | none => rfl
  | some current =>
    dsimp only
    split <;> rfl

theorem release_without (p : Hub κ) (d id : Nat) (s : Session) :
    (p.without d).release id s = (p.release id s).without d := by
  unfold release
  split
  · exact uninstall_without p d id
  · rfl

theorem deliver_without (p : Hub κ) (d : Nat) (signal : Signal) :
    (p.without d).deliver signal = (p.deliver signal).without d := by
  unfold deliver
  rw [dispositions_without]
  split <;> rfl

/-! ## Operations -/

theorem filter_fresh (h : d < p.nextId) :
    List.filter (·.id ≠ d) (p.contexts ++ [{ id := p.nextId }])
      = p.contexts.filter (·.id ≠ d) ++ [{ id := p.nextId }] := by
  have hne : p.nextId ≠ d := Nat.ne_of_gt h
  have hlast : List.filter (·.id ≠ d) [({ id := p.nextId } : Context κ)] = [{ id := p.nextId }] :=
    List.filter_cons_of_pos (by simpa using hne)
  rw [List.filter_append, hlast]

theorem create_without (h : d < p.nextId) :
    (p.without d).create = (p.create.1, p.create.2.without d) := by
  simp only [create, without, filter_fresh h]
  rfl

theorem defaultContext_without (h : Retired d p) :
    (p.without d).defaultContext = (p.defaultContext.1, p.defaultContext.2.without d) := by
  have hne : p.nextId ≠ d := Nat.ne_of_gt h.given
  rcases defaultContext_cases p with ⟨id, hslot, hlife, heq⟩ | ⟨hnone, heq⟩ <;>
    rcases defaultContext_cases (p.without d) with ⟨id', hslot', hlife', heq'⟩ | ⟨hnone', heq'⟩
  · rw [heq, heq']
    obtain rfl := Option.some.inj (hslot.symm.trans (slot_without_eq_some_iff.1 hslot').1)
    rfl
  -- the next two cases, in which only one of the hubs has a default context, do not happen
  · have hid : id ≠ d := h.ne_of_phase fun hphase => hlife (by rw [lifecycle, hphase]; rfl)
    have hshut := hnone' id (slot_without_eq_some_iff.2 ⟨hslot, hid⟩)
    exact absurd hshut (lifecycle_without h.shut id ▸ hlife)
  · have hshut := hnone id' (slot_without_eq_some_iff.1 hslot').1
    exact absurd hshut (lifecycle_without h.shut id' ▸ hlife')
  · rw [heq, heq']
    simp only [without, filter_fresh h.given, Option.some.injEq, if_neg hne]

theorem prepare_without (h : p.phase d = .shutdown) (o : InitOptions) :
    (p.without d).prepare id o = p.prepare id o := by
  unfold prepare
  rw [phase_without h]

theorem requestedHandlers_without (hid : id ≠ d) (o : InitOptions) :
    (p.without d).requestedHandlers id o = p.requestedHandlers id o := by
  simp only [requestedHandlers, isDefault_without hid]

theorem liveContexts_install (p : Hub κ) (id : Nat) (options : HandlerOptions) :
    (p.install id options).2.liveContexts = p.liveContexts := by
  rcases install_cases p id options with ⟨_, _, -, heq, -⟩ | ⟨_, _, -, -, heq, -⟩ <;>
    exact congrArg (fun installed => installed.2.liveContexts) heq

theorem openSession_without (h : Retired d p) (hid : id ≠ d) (options : HandlerOptions)
    (arguments : Arguments) (domainId : UInt64) :
    (p.without d).openSession id options arguments domainId
      = (p.openSession id options arguments domainId).without d := by
  have hlive : ∀ x, d ∉ ((p.install id options).2.setPhase id x).liveContexts := fun x => by
    rw [liveContexts_setPhase, liveContexts_install]
    exact h.not_mem_liveContexts
  unfold openSession
  rw [install_without]
  dsimp only
  rw [setPhase_without hid, register_without (hlive _), emit_without]
  rfl

/-- An initialization is refused in the context that is left out, and else it opens the same
    session. -/
theorem init_without (h : Retired d p) (id : Nat) (o : InitOptions) :
    (p.without d).init id o = (p.init id o).map (without d) := by
  unfold init
  rw [prepare_without h.shut]
  cases hprepare : p.prepare id o with
  | error e => rfl
  | ok found =>
    obtain ⟨hphase, -, -⟩ := prepare_eq_ok hprepare
    have hid : id ≠ d := h.ne_of_phase (by rw [hphase]; simp)
    simp only [Except.map]
    rw [requestedHandlers_without hid, openSession_without h hid]

theorem liveContexts_release (p : Hub κ) (id : Nat) (s : Session) :
    (p.release id s).liveContexts = p.liveContexts := by
  rcases release_cases p id s with ⟨-, heq⟩ | ⟨t, -, -, -, heq⟩
  · rw [heq]
  · rw [heq]
    rfl

theorem beginShutdown_without (h : Retired d p) (id : Nat) :
    (p.without d).beginShutdown id
      = (p.beginShutdown id).map fun started => (started.1, started.2.without d) := by
  cases hs : p.session? id with
  | none =>
    have hs' : (p.without d).session? id = none := by rw [session?_without h.shut, hs]
    simp only [beginShutdown, hs, hs', Except.map]
  | some s =>
    have hs' : (p.without d).session? id = some s := by rw [session?_without h.shut, hs]
    obtain ⟨c, hc, hphase⟩ := session?_eq_some_iff.1 hs
    have hid : id ≠ d := h.ne_of_phase (by rw [phase_of_some hc, hphase]; simp)
    have hlive : d ∉ ((p.release id s).setPhase id .shutdown).liveContexts := by
      rw [liveContexts_setPhase, liveContexts_release]
      exact h.not_mem_liveContexts
    rw [beginShutdown_of_session hs, beginShutdown_of_session hs']
    dsimp only [Except.map]
    rw [release_without, setPhase_without hid, unregister_without hlive, find?_without_of_ne hid,
      modify_without hid (fun c => { c with callbacks := [] }) fun _ => rfl]
    rfl

theorem closing?_without (h : Retired d p) (target : Option Nat) :
    (p.without d).closing? target
      = (p.closing? target).map fun closed => (closed.1, closed.2.1, closed.2.2.without d) := by
  have hclose : ∀ id, (p.without d).closing? (some id)
      = (p.closing? (some id)).map fun closed => (closed.1, closed.2.1, closed.2.2.without d) := by
    intro id
    simp only [closing?, Option.some_or, Option.bind_some, beginShutdown_without h]
    cases p.beginShutdown id <;> rfl
  cases target with
  | some id => exact hclose id
  | none =>
    by_cases hslot : p.slot = some d
    · -- the context that is left out cannot be shut down again
      have hrefused : p.beginShutdown d = .error .notInitialized := by
        have hs : p.session? d = none := by rw [session?, h.shut]; rfl
        simp only [beginShutdown, hs]
      simp only [closing?, Option.none_or, slot_without_self hslot, hslot, Option.bind_none,
        Option.bind_some, hrefused, Option.map_none]
    · have hsame := slot_without_of_ne hslot
      cases hp : p.slot with
      | none => simp only [closing?, Option.none_or, hsame, hp, Option.bind_none, Option.map_none]
      | some id =>
        have hcase := hclose id
        simp only [closing?, Option.some_or] at hcase
        simp only [closing?, Option.none_or, hsame, hp]
        exact hcase

theorem onShutdown_without (h : Retired d p) (id : Nat) (callback : κ) :
    (p.without d).onShutdown id callback
      = ((p.onShutdown id callback).1, (p.onShutdown id callback).2.without d) := by
  unfold onShutdown
  rw [phase_without h.shut]
  cases hphase : p.phase id with
  | shutdown => rfl
  | uninitialized | initialized =>
    have hid : id ≠ d := h.ne_of_phase (by rw [hphase]; simp)
    have hpush := modify_without (p := p) hid (pushed callback) fun _ => rfl
    exact congrArg (Prod.mk none) hpush

theorem createNode_without (h : Retired d p) (id : Nat) (name ns : String) :
    (p.without d).createNode id name ns
      = (p.createNode id name ns).map fun made => (made.1, made.2.without d) := by
  have harguments : (p.without d).arguments id = p.arguments id := by
    simp only [arguments, session?_without h.shut]
  unfold createNode
  rw [harguments]
  cases p.arguments id with
  | error e => rfl
  | ok arguments =>
    simp only [Except.bind]
    cases Node.make id arguments name ns <;> rfl

theorem releaseDefault_without (p : Hub κ) (d id : Nat) :
    (p.without d).releaseDefault id = (p.releaseDefault id).without d := by
  by_cases hslot : p.slot = some id
  · have hreleased : p.releaseDefault id = { p with slot := none } := if_pos hslot
    rw [hreleased, releaseDefault]
    by_cases hid : id = d
    · obtain rfl := hid
      rw [if_neg (by simp [slot_without_self hslot])]
      simp [without, hslot]
    · rw [if_pos (slot_without_eq_some_iff.2 ⟨hslot, hid⟩)]
      simp [without]
  · have hkept : p.releaseDefault id = p := if_neg hslot
    have hother : (p.without d).slot ≠ some id := fun h => hslot (slot_without_eq_some_iff.1 h).1
    rw [hkept, releaseDefault, if_neg hother]

/-! ## Collections -/

/-- Leaving a context out and freeing others can be done in any order; that the context itself is
    freed makes no difference. -/
theorem free_without (h : p.phase d = .shutdown) (id : Nat) :
    (p.without d).free id = (p.free id).without d := by
  have drop : ∀ q : Hub κ,
      { q.without d with contexts := (q.without d).contexts.filter (·.id ≠ id) }
        = ({ q with contexts := q.contexts.filter (·.id ≠ id) } : Hub κ).without d := fun q => by
    have hcomm : (q.without d).contexts.filter (·.id ≠ id)
        = (q.contexts.filter (·.id ≠ id)).filter (·.id ≠ d) := List.filter_comm ..
    rw [hcomm]
    rfl
  unfold free
  rw [session?_without h]
  cases p.session? id with
  | none => exact drop p
  | some s =>
    dsimp only
    rw [emit_without]
    split
    · rw [uninstall_without]
      exact drop _
    · exact drop _

/-- Freeing a context that is shut down takes it away, and does nothing else. -/
theorem free_of_shutdown (h : p.phase d = .shutdown) :
    p.free d = { p with contexts := p.contexts.filter (·.id ≠ d) } := by
  have hs : p.session? d = none := by rw [session?, h]; rfl
  simp only [free, hs]

theorem without_free_self (h : p.phase d = .shutdown) : (p.free d).without d = p.without d := by
  have htwice : (p.contexts.filter (·.id ≠ d)).filter (·.id ≠ d)
      = p.contexts.filter (·.id ≠ d) := by simp [List.filter_filter]
  rw [free_of_shutdown h]
  simp only [without, htwice]

theorem without_releaseDefault_self (p : Hub κ) (d : Nat) :
    (p.releaseDefault d).without d = p.without d := by
  have hother : (p.without d).slot ≠ some d := fun h => (slot_without_eq_some_iff.1 h).2 rfl
  rw [← releaseDefault_without, releaseDefault, if_neg hother]

theorem foldl_free_without (h : Retired d p) (ids : List Nat) :
    (ids.filter (· ≠ d)).foldl free (p.without d) = (ids.foldl free p).without d := by
  induction ids generalizing p with
  | nil => rfl
  | cons id rest ih =>
    have hretired := h.move (.free id)
    by_cases hid : id = d
    · rw [List.filter_cons_of_neg (by simpa using hid), List.foldl_cons, ← ih hretired, hid,
        without_free_self h.shut]
    · rw [List.filter_cons_of_pos (by simpa using hid), List.foldl_cons, List.foldl_cons,
        free_without h.shut, ih hretired]

end Hub
end RobotClient
