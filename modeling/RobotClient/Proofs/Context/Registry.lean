import RobotClient.Proofs.Context.Lifetime

set_option autoImplicit false

/-! # The registry of live contexts

The registry is kept up by hand: an initialization adds to it, a shutdown takes out of it, and both
forget what is freed. The log tells the same story without any upkeep: `Hub.initializedIds` are the
contexts that are initialized now, in the order of their initialization. `Registered` says that the
two agree, so whoever walks through the registry meets every initialized context, in that order. -/

namespace RobotClient

/-- The context that an event initializes. -/
def Event.initializes? : Event → Option Nat
  | .initialized id _ => some id
  | _ => none

theorem Event.initializes?_of_marksLife {e : Event} (h : e.marksLife = false) :
    e.initializes? = none := by
  cases e <;> first | rfl | exact absurd h (by simp [marksLife])

namespace Hub

variable {κ : Type} {p q : Hub κ} {id : Nat}

/-! ## What the log says -/

/-- The contexts that were ever initialized, in this order. -/
def everInitialized (p : Hub κ) : List Nat := p.log.filterMap Event.initializes?

/-- The contexts that are initialized, in the order of their initialization. -/
def initializedIds (p : Hub κ) : List Nat := p.everInitialized.filter p.isInitialized

theorem everInitialized_of_log {events : List Event} (hlog : q.log = p.log ++ events)
    (hquiet : ∀ e ∈ events, e.initializes? = none) : q.everInitialized = p.everInitialized := by
  rw [everInitialized, hlog, List.filterMap_append, List.filterMap_eq_nil_iff.2 hquiet,
    List.append_nil]
  rfl

theorem everInitialized_of_init {events : List Event} {s : Session}
    (hlog : q.log = p.log ++ (events ++ [.initialized id s]))
    (hquiet : ∀ e ∈ events, e.marksLife = false) :
    q.everInitialized = p.everInitialized ++ [id] := by
  have hevents : events.filterMap Event.initializes? = [] :=
    List.filterMap_eq_nil_iff.2 fun e he => Event.initializes?_of_marksLife (hquiet e he)
  rw [everInitialized, hlog, List.filterMap_append, List.filterMap_append, hevents]
  rfl

theorem initializedIds_congr (hever : q.everInitialized = p.everInitialized)
    (hs : ∀ j, q.session? j = p.session? j) : q.initializedIds = p.initializedIds := by
  have hinit : q.isInitialized = p.isInitialized := by
    funext j
    rw [isInitialized, hs, isInitialized]
  rw [initializedIds, hever, hinit, initializedIds]

/-! ## The registry after an operation -/

theorem filter_liveContexts (p : Hub κ) :
    p.liveContexts.filter (fun j => (p.find? j).isSome) = p.liveContexts := by
  rw [liveContexts, List.filter_filter]
  simp only [Bool.and_self]

theorem liveContexts_of_fresh (hn : p.Numbered)
    (hq : q.contexts = p.contexts ++ [{ id := p.nextId }]) (hlive : q.live = p.live)
    (hlt : ∀ id ∈ p.live, id < p.nextId) : q.liveContexts = p.liveContexts := by
  rw [liveContexts, hlive, liveContexts]
  refine List.filter_congr fun j hj => ?_
  rw [find?_of_fresh hn hq, if_neg (Nat.ne_of_lt (hlt j hj))]

theorem liveContexts_of_opened {s : Session} {c : Context κ} (hc : p.find? id = some c)
    (hq : q.contexts = modifyFirst id (opened s) p.contexts)
    (hlive : q.live = p.liveContexts ++ [id]) : q.liveContexts = p.liveContexts ++ [id] := by
  have hfind : ∀ j, (q.find? j).isSome = (p.find? j).isSome := fun j => by
    rw [find?_of_modified (opened s) hq (fun _ => rfl) hc]
    split
    · next hj => rw [hj, hc]; rfl
    · rfl
  have hid : ([id].filter fun j => (p.find? j).isSome) = [id] := by simp [hc]
  rw [liveContexts, hlive, List.filter_append]
  simp only [hfind, hid, filter_liveContexts]

theorem liveContexts_of_closed (hq : q.contexts = modifyFirst id closed p.contexts)
    (hlive : q.live = p.liveContexts.filter (· ≠ id)) :
    q.liveContexts = p.liveContexts.filter (· ≠ id) := by
  have hids : q.contexts.map (·.id) = p.contexts.map (·.id) := by
    rw [hq, map_id_modifyFirst id closed fun _ => rfl]
  have hfind : ∀ j, (q.find? j).isSome = (p.find? j).isSome := fun j =>
    Bool.eq_iff_iff.2 (by rw [find?_isSome_iff, find?_isSome_iff, hids])
  rw [liveContexts, hlive, List.filter_comm]
  simp only [hfind, filter_liveContexts]

theorem liveContexts_of_filtered (hq : q.contexts = p.contexts.filter (·.id ≠ id))
    (hlive : q.live = p.live) : q.liveContexts = p.liveContexts.filter (· ≠ id) := by
  rw [liveContexts, hlive, liveContexts, List.filter_filter]
  refine List.filter_congr fun j _ => ?_
  rw [find?_of_filtered hq]
  by_cases hj : j = id <;> simp [hj]

/-- Taking a context away takes it out of the contexts that are initialized. -/
theorem initializedIds_of_closed (hever : q.everInitialized = p.everInitialized)
    (hs : ∀ j, q.session? j = if j = id then none else p.session? j) :
    q.initializedIds = p.initializedIds.filter (· ≠ id) := by
  rw [initializedIds, hever, initializedIds, List.filter_filter]
  refine List.filter_congr fun j _ => ?_
  rw [isInitialized, hs]
  by_cases hj : j = id
  · simp [hj]
  · simp [hj, isInitialized]

/-! ## The invariant -/

/-- The registry lists the initialized contexts in the order of their initialization. -/
structure Registered (p : Hub κ) : Prop where
  live : p.liveContexts = p.initializedIds
  known : ∀ id ∈ p.live, id ∈ p.everInitialized
  begun : ∀ id ∈ p.everInitialized, id < p.nextId ∧ p.phase id ≠ .uninitialized
  nodup : p.everInitialized.Nodup
  complete : ∀ id, p.isInitialized id = true → id ∈ p.everInitialized

theorem mem_everInitialized_of_live (h : p.Registered) {j : Nat} (hj : j ∈ p.liveContexts) :
    j ∈ p.everInitialized :=
  h.known j (List.mem_of_mem_filter hj)

/-- A change that initializes nothing. -/
theorem Registered.step (h : p.Registered) (hn : p.Numbered) (hm : Move p q)
    (hever : q.everInitialized = p.everInitialized)
    (hsession : ∀ j s, q.session? j = some s → p.session? j = some s)
    (hlive : q.liveContexts = q.initializedIds) (hknown : ∀ j ∈ q.live, j ∈ p.live) :
    q.Registered := by
  refine ⟨hlive, fun j hj => ?_, fun j hj => ?_, hever ▸ h.nodup, fun j hj => ?_⟩
  · rw [hever]
    exact h.known j (hknown j hj)
  · rw [hever] at hj
    obtain ⟨hlt, hphase⟩ := h.begun j hj
    exact ⟨Nat.lt_of_lt_of_le hlt hm.nextId_le,
      (hm.leads hn hlt).ne_uninitialized hphase⟩
  · rw [hever]
    obtain ⟨s, hs⟩ := Option.isSome_iff_exists.1 hj
    exact h.complete j (by rw [isInitialized, hsession j s hs]; rfl)

/-- A change that leaves all sessions as they are. -/
theorem Registered.congr (h : p.Registered) (hn : p.Numbered) (hm : Move p q)
    (hever : q.everInitialized = p.everInitialized) (hs : ∀ j, q.session? j = p.session? j)
    (hlive : q.live = p.live) (hcontexts : q.liveContexts = p.liveContexts) : q.Registered :=
  h.step hn hm hever (fun j s hj => (hs j).symm.trans hj)
    (by rw [hcontexts, initializedIds_congr hever hs, h.live]) fun j hj => hlive ▸ hj

theorem Registered.fresh (h : p.Registered) (hn : p.Numbered) (hm : Move p q)
    (hq : q.contexts = p.contexts ++ [{ id := p.nextId }]) (hlive : q.live = p.live)
    (hever : q.everInitialized = p.everInitialized) : q.Registered :=
  h.congr hn hm hever (session?_of_fresh hn hq) hlive
    (liveContexts_of_fresh hn hq hlive fun j hj => (h.begun j (h.known j hj)).1)

/-- The context that is initialized comes last, since it was never initialized before. -/
theorem Registered.opened (h : p.Registered) (hn : p.Numbered) (hm : Move p q) {s : Session}
    {c : Context κ} (hc : p.find? id = some c) (hph : c.phase = .uninitialized)
    (hq : q.contexts = modifyFirst id (opened s) p.contexts)
    (hlive : q.live = p.liveContexts ++ [id])
    (hever : q.everInitialized = p.everInitialized ++ [id]) : q.Registered := by
  have hsession := session?_of_opened hq hc
  have hphase : p.phase id = .uninitialized := by rw [phase_of_some hc, hph]
  have hnew : id ∉ p.everInitialized := fun hid => (h.begun id hid).2 hphase
  have hself : q.isInitialized id = true := by rw [isInitialized, hsession, if_pos rfl]; rfl
  have hother : ∀ j ∈ p.everInitialized, q.isInitialized j = p.isInitialized j := fun j hj => by
    have hne : j ≠ id := fun he => hnew (he ▸ hj)
    rw [isInitialized, hsession, if_neg hne, isInitialized]
  refine ⟨?_, fun j hj => ?_, fun j hj => ?_, ?_, fun j hj => ?_⟩
  · have hlast : ([id].filter q.isInitialized) = [id] := by simp [hself]
    rw [liveContexts_of_opened hc hq hlive, h.live, initializedIds, initializedIds, hever,
      List.filter_append, hlast, List.filter_congr hother]
  · rw [hever]
    rw [hlive, List.mem_append] at hj
    exact List.mem_append.2 (hj.imp_left (mem_everInitialized_of_live h))
  · rw [hever, List.mem_append, List.mem_singleton] at hj
    rcases hj with hj | rfl
    · obtain ⟨hlt, hphase⟩ := h.begun j hj
      exact ⟨Nat.lt_of_lt_of_le hlt hm.nextId_le,
        (hm.leads hn hlt).ne_uninitialized hphase⟩
    · refine ⟨Nat.lt_of_lt_of_le (lt_nextId_of_find? hn hc) hm.nextId_le, ?_⟩
      rw [phase_of_opened hq hc, if_pos rfl]
      simp
  · rw [hever, List.nodup_append]
    refine ⟨h.nodup, List.nodup_singleton id, fun a ha b hb => ?_⟩
    rw [List.mem_singleton] at hb
    exact fun he => hnew (hb ▸ he ▸ ha)
  · rw [hever, List.mem_append, List.mem_singleton]
    by_cases he : j = id
    · exact .inr he
    · rw [isInitialized, hsession, if_neg he] at hj
      exact .inl (h.complete j hj)

theorem Registered.closed (h : p.Registered) (hn : p.Numbered) (hm : Move p q)
    (hs : ∀ j, q.session? j = if j = id then none else p.session? j)
    (hever : q.everInitialized = p.everInitialized)
    (hcontexts : q.liveContexts = p.liveContexts.filter (· ≠ id))
    (hknown : ∀ j ∈ q.live, j ∈ p.live) : q.Registered := by
  refine h.step hn hm hever (fun j s hj => ?_) ?_ hknown
  · rw [hs] at hj
    split at hj
    · exact absurd hj (by simp)
    · exact hj
  · rw [hcontexts, h.live, initializedIds_of_closed hever hs]

theorem Registered.act (h : p.Registered) (hn : p.Numbered) (ha : Act p q) : q.Registered := by
  have hm := Move.act ha
  cases ha with
  | create => exact h.fresh hn hm rfl rfl rfl
  | useDefault =>
    rcases defaultContext_cases p with ⟨id, -, -, heq⟩ | ⟨-, heq⟩ <;> rw [heq] at hm ⊢
    · exact h
    · exact h.fresh hn hm rfl rfl (everInitialized_of_log rfl (by simp [Event.initializes?]))
  | init hi =>
    obtain ⟨c, s, watching, events, hc, hph, hquiet, ⟨-, -, rfl⟩ | ⟨-, -, -, rfl⟩⟩ :=
      init_cases hi <;>
      exact h.opened hn hm hc hph rfl rfl (everInitialized_of_init rfl hquiet)
  | releaseDefault id =>
    unfold Hub.releaseDefault at hm ⊢
    split at hm
    · next hslot => rw [if_pos hslot]; exact h.congr hn hm rfl (fun _ => rfl) rfl rfl
    · next hslot => rw [if_neg hslot]; exact h
  | onShutdown id callback =>
    rcases onShutdown_cases p id callback with ⟨-, heq⟩ | ⟨-, heq⟩ <;> rw [heq] at hm ⊢
    · exact h
    · refine h.congr hn hm rfl (session?_of_pushed rfl) rfl (liveContexts_of_ids ?_ rfl)
      exact map_id_modifyFirst id (pushed callback) (fun _ => rfl) p.contexts
  | createNode hc =>
    obtain ⟨arguments, -, -, rfl⟩ := createNode_eq_ok hc
    exact h.congr hn hm (everInitialized_of_log rfl (by simp [Event.initializes?]))
      (fun _ => rfl) rfl rfl

/-- Freeing a context leaves its entry in the registry. -/
theorem live_free (p : Hub κ) (id : Nat) :
    (p.free id).live = p.live ∧ (p.free id).everInitialized = p.everInitialized := by
  rcases free_cases p id with ⟨-, heq⟩ | ⟨s, -, -, heq⟩ | ⟨s, t, -, -, -, -, heq⟩ <;> rw [heq]
  · exact ⟨rfl, rfl⟩
  · exact ⟨rfl, everInitialized_of_log rfl (by simp [Event.initializes?])⟩
  · exact ⟨rfl, everInitialized_of_log rfl (by simp [Event.initializes?])⟩

theorem Registered.free (h : p.Registered) (hn : p.Numbered) (id : Nat) :
    (p.free id).Registered := by
  have hcontexts := contexts_free p id
  obtain ⟨hlive, hever⟩ := live_free p id
  exact h.closed hn (.free id) (session?_of_filtered hcontexts) hever
    (liveContexts_of_filtered hcontexts hlive) fun j hj => hlive ▸ hj

theorem Registered.move (h : p.Registered) (hn : p.Numbered) (hm : Move p q) :
    q.Registered := by
  have quiet : q.contexts = p.contexts → q.live = p.live →
      q.everInitialized = p.everInitialized → q.Registered := fun hc hl hever =>
    h.congr hn hm hever (fun j => by rw [session?, phase_congr (find?_of_contexts hc j), session?])
      hl (liveContexts_of_ids (by rw [hc]) hl)
  cases hm with
  | act ha => exact h.act hn ha
  | beginShutdown hb =>
    obtain ⟨c, s, hc, -, -, ⟨-, rfl⟩ | ⟨t, -, -, -, rfl⟩⟩ := beginShutdown_cases hb
    all_goals
      exact h.closed hn (.beginShutdown hb) (session?_of_closed rfl hc)
        (everInitialized_of_log rfl (by simp [Event.initializes?]))
        (liveContexts_of_closed rfl rfl)
        fun j hj => List.mem_of_mem_filter (List.mem_of_mem_filter hj)
  | finishShutdown id =>
    exact quiet rfl rfl (everInitialized_of_log rfl (by simp [Event.initializes?]))
  | free id => exact h.free hn id
  | takePending => exact quiet rfl rfl rfl
  | deliver signal =>
    rcases deliver_cases p signal with ⟨-, heq⟩ | ⟨label, -, heq⟩ <;> rw [heq] at quiet ⊢ <;>
      exact quiet rfl rfl rfl
  | report he =>
    refine quiet rfl rfl (everInitialized_of_log rfl ?_)
    simp [Event.initializes?_of_marksLife (Event.marksLife_of_tellsDispatch he)]
  | noteDelivered signal => exact quiet rfl rfl rfl
  | tick clock => exact quiet rfl rfl rfl
  | handle signal label htable => exact quiet rfl rfl rfl

theorem Registered.moves (h : p.Registered) (hn : p.Numbered)
    (moves : Relation.ReflTransGen Move p q) : q.Registered := by
  have both : q.Numbered ∧ q.Registered :=
    keeps_of_moves (P := fun p => p.Numbered ∧ p.Registered) moves
      (fun ⟨hn, hr⟩ hm => ⟨hn.move hm, hr.move hn hm⟩) ⟨hn, h⟩
  exact both.2

theorem Registered.mem_initializedIds_iff (h : p.Registered) {j : Nat} :
    j ∈ p.initializedIds ↔ p.isInitialized j = true := by
  rw [initializedIds, List.mem_filter]
  exact ⟨fun hj => hj.2, fun hj => ⟨h.complete j hj, hj⟩⟩

end Hub

namespace Machine

theorem Reachable.registered {m : Machine} (h : m.Reachable) : m.hub.Registered := by
  have both : m.hub.Numbered ∧ m.hub.Registered := by
    refine h.invariant (P := fun p => p.Numbered ∧ p.Registered) (fun _ _ _ _ _ => ?_)
      fun ⟨hn, hr⟩ hm => ⟨hn.move hm, hr.move hn hm⟩
    refine ⟨⟨List.nodup_nil, fun _ h => absurd h List.not_mem_nil⟩, ⟨rfl, ?_, ?_, ?_, ?_⟩⟩
    · exact fun _ h => absurd h List.not_mem_nil
    · exact fun _ h => absurd h List.not_mem_nil
    · exact List.nodup_nil
    · exact fun id hid => absurd hid
        (by simp [fresh, Hub.isInitialized, Hub.session?, Hub.phase, Hub.find?, Phase.session?])
  exact both.2

/-- The registry lists exactly the contexts that are initialized. -/
theorem Reachable.mem_liveContexts_iff {m : Machine} (h : m.Reachable) {id : Nat} :
    id ∈ m.hub.liveContexts ↔ m.hub.isInitialized id = true := by
  rw [h.registered.live]
  exact h.registered.mem_initializedIds_iff

end Machine
end RobotClient
