import RobotClient.Proofs.Context.Lifetime

set_option autoImplicit false

/-! # Who owns the signal handlers

The table of signal handlers and the flag of a session say the same thing twice. `Owned` ties them
together: the owner in the table is an initialized context whose session has the flag, and a session
with the flag belongs to the owner. An initialization sets both at once or neither, and whatever
ends a context takes both away, so every `Move` keeps it. -/

namespace RobotClient

open Relation (ReflTransGen)

namespace Hub

variable {κ : Type} {p q : Hub κ} {id : Nat}

/-! ## The invariant -/

/-- The table and the sessions agree on the owner of the handlers. -/
structure Owned (p : Hub κ) : Prop where
  session : ∀ t, p.table = some t → t.options ≠ .no ∧
    ∃ s, p.session? t.owner = some s ∧ s.ownsHandlers = true ∧ s.handlers = t.options
  table : ∀ id s, p.session? id = some s → s.ownsHandlers = true →
    ∃ t, p.table = some t ∧ t.owner = id

theorem Owned.congr (h : p.Owned) (hs : ∀ j, q.session? j = p.session? j)
    (ht : q.table = p.table) : q.Owned := by
  refine ⟨fun t htable => ?_, fun id s hsession hflag => ?_⟩
  · rw [hs]
    exact h.session t (ht ▸ htable)
  · rw [ht]
    exact h.table id s (hs id ▸ hsession) hflag

/-- A context is bound to a session that does not own the handlers. -/
theorem Owned.opened_without (h : p.Owned) {s : Session} (hnone : p.session? id = none)
    (hflag : s.ownsHandlers = false)
    (hs : ∀ j, q.session? j = if j = id then some s else p.session? j)
    (ht : q.table = p.table) : q.Owned := by
  refine ⟨fun t htable => ?_, fun j s' hsession hflag' => ?_⟩
  · obtain ⟨hno, s', hsession, hrest⟩ := h.session t (ht ▸ htable)
    have hne : t.owner ≠ id := fun he => by simp [he, hnone] at hsession
    exact ⟨hno, s', by rw [hs, if_neg hne, hsession], hrest⟩
  · rw [hs] at hsession
    split at hsession
    · obtain rfl := Option.some.inj hsession
      rw [hflag] at hflag'
      exact absurd hflag' (by decide)
    · rw [ht]
      exact h.table j s' hsession hflag'

/-- A context is bound to a session for which the handlers were installed. -/
theorem Owned.opened_with (h : p.Owned) {s : Session} {t : HandlerTable}
    (hfree : p.table = none) (hflag : s.ownsHandlers = true) (hno : s.handlers ≠ .no)
    (hs : ∀ j, q.session? j = if j = id then some s else p.session? j)
    (ht : q.table = some t) (howner : t.owner = id) (hoptions : t.options = s.handlers) :
    q.Owned := by
  refine ⟨fun t' htable => ?_, fun j s' hsession hflag' => ?_⟩
  · obtain rfl : t = t' := Option.some.inj (ht.symm.trans htable)
    exact ⟨hoptions ▸ hno, s, by rw [hs, if_pos howner], hflag, hoptions.symm⟩
  · rw [hs] at hsession
    split at hsession
    · next hj => exact ⟨t, ht, howner.trans hj.symm⟩
    · obtain ⟨t', htable, -⟩ := h.table j s' hsession hflag'
      rw [hfree] at htable
      exact absurd htable (by simp)

/-- A context that does not own the handlers ends. -/
theorem Owned.closed_without (h : p.Owned) {s : Session} (hsession : p.session? id = some s)
    (hwhy : s.ownsHandlers = false ∨ p.owner? ≠ some id)
    (hs : ∀ j, q.session? j = if j = id then none else p.session? j)
    (ht : q.table = p.table) : q.Owned := by
  refine ⟨fun t htable => ?_, fun j s' hsession' hflag => ?_⟩
  · rw [ht] at htable
    obtain ⟨hno, s', hsession', hflag, hoptions⟩ := h.session t htable
    have hne : t.owner ≠ id := by
      rintro rfl
      obtain rfl : s = s' := Option.some.inj (hsession.symm.trans hsession')
      rcases hwhy with hwhy | hwhy
      · simp [hwhy] at hflag
      · simp [owner?, htable] at hwhy
    exact ⟨hno, s', by rw [hs, if_neg hne, hsession'], hflag, hoptions⟩
  · rw [hs] at hsession'
    split at hsession'
    · exact absurd hsession' (by simp)
    · rw [ht]
      exact h.table j s' hsession' hflag

/-- The owner ends, and the handlers are taken out. -/
theorem Owned.closed_with (h : p.Owned) {t : HandlerTable} (htable : p.table = some t)
    (howner : t.owner = id) (hs : ∀ j, q.session? j = if j = id then none else p.session? j)
    (ht : q.table = none) : q.Owned := by
  refine ⟨fun t' htable' => by simp [ht] at htable', fun j s hsession hflag => ?_⟩
  rw [hs] at hsession
  split at hsession
  · exact absurd hsession (by simp)
  · next hj =>
    obtain ⟨t', htable', howner'⟩ := h.table j s hsession hflag
    obtain rfl : t = t' := Option.some.inj (htable.symm.trans htable')
    exact absurd (howner'.symm.trans howner) hj

theorem Owned.act (h : p.Owned) (hn : p.Numbered) (ha : Act p q) : q.Owned := by
  cases ha with
  | create => exact h.congr (session?_of_fresh hn rfl) rfl
  | useDefault =>
    rcases defaultContext_cases p with ⟨id, -, -, heq⟩ | ⟨-, heq⟩ <;> rw [heq]
    · exact h
    · exact h.congr (session?_of_fresh hn rfl) rfl
  | init hi =>
    obtain ⟨c, s, watching, events, hc, hph, -, hcase⟩ := init_cases hi
    have hnone := session?_of_some hc
    rw [hph] at hnone
    rcases hcase with ⟨hflag, -, rfl⟩ | ⟨hflag, hno, hfree, rfl⟩
    · exact h.opened_without hnone hflag
        (session?_of_opened rfl hc) rfl
    · exact h.opened_with hfree hflag hno
        (session?_of_opened rfl hc) rfl rfl rfl
  | releaseDefault id =>
    unfold releaseDefault
    split <;> exact h.congr (fun _ => rfl) rfl
  | onShutdown id callback =>
    rcases onShutdown_cases p id callback with ⟨-, heq⟩ | ⟨-, heq⟩ <;> rw [heq]
    · exact h
    · exact h.congr (session?_of_pushed rfl) rfl
  | createNode hc =>
    obtain ⟨arguments, -, -, rfl⟩ := createNode_eq_ok hc
    exact h.congr (fun _ => rfl) rfl

theorem Owned.beginShutdown (h : p.Owned) {callbacks : List κ}
    (hb : p.beginShutdown id = .ok (callbacks, q)) : q.Owned := by
  obtain ⟨c, s, hc, hph, -, hcase⟩ := beginShutdown_cases hb
  have hsession : p.session? id = some s := session?_eq_some_iff.2 ⟨c, hc, hph⟩
  rcases hcase with ⟨hwhy, rfl⟩ | ⟨t, -, htable, howner, rfl⟩
  · exact h.closed_without hsession hwhy
      (session?_of_closed rfl hc) rfl
  · exact h.closed_with htable howner
      (session?_of_closed rfl hc) rfl

theorem Owned.free (h : p.Owned) (id : Nat) : (p.free id).Owned := by
  have hs := session?_of_filtered (contexts_free p id)
  rcases free_cases p id with ⟨hnone, heq⟩ | ⟨s, hsession, hwhy, heq⟩ |
    ⟨s, t, -, -, htable, howner, heq⟩
  · refine h.congr (fun j => ?_) (by rw [heq])
    rw [hs]
    split
    · next hj => rw [hj, hnone]
    · rfl
  · exact h.closed_without hsession hwhy hs (by rw [heq])
  · exact h.closed_with htable howner hs (by rw [heq])

theorem Owned.move (h : p.Owned) (hn : p.Numbered) (hm : Move p q) : q.Owned := by
  cases hm with
  | act ha => exact h.act hn ha
  | beginShutdown hb => exact h.beginShutdown hb
  | finishShutdown id => exact h.congr (fun _ => rfl) rfl
  | free id => exact h.free id
  | takePending => exact h.congr (fun _ => rfl) rfl
  | deliver signal =>
    rcases deliver_cases p signal with ⟨-, heq⟩ | ⟨label, -, heq⟩ <;> rw [heq] <;>
      exact h.congr (fun _ => rfl) rfl
  | report _ => exact h.congr (fun _ => rfl) rfl
  | noteDelivered signal => exact h.congr (fun _ => rfl) rfl
  | tick clock => exact h.congr (fun _ => rfl) rfl
  | handle signal label ht => exact h.congr (fun _ => rfl) rfl

/-! ## What the invariant says -/

theorem Owned.owner?_eq_some_iff (h : p.Owned) :
    p.owner? = some id ↔ ∃ s, p.session? id = some s ∧ s.ownsHandlers = true := by
  constructor
  · intro howner
    obtain ⟨t, htable, rfl⟩ := Option.map_eq_some_iff.1 howner
    obtain ⟨-, s, hsession, hflag, -⟩ := h.session t htable
    exact ⟨s, hsession, hflag⟩
  · rintro ⟨s, hsession, hflag⟩
    obtain ⟨t, htable, howner⟩ := h.table id s hsession hflag
    rw [owner?, htable, Option.map_some, howner]

theorem Owned.handlers_eq (h : p.Owned) {s : Session} (hsession : p.session? id = some s)
    (hflag : s.ownsHandlers = true) : p.handlers = s.handlers ∧ s.handlers ≠ .no := by
  obtain ⟨t, htable, rfl⟩ := h.table id s hsession hflag
  obtain ⟨hno, s', hsession', -, hoptions⟩ := h.session t htable
  obtain rfl : s = s' := Option.some.inj (hsession.symm.trans hsession')
  exact ⟨by simp [handlers, htable, hoptions], hoptions ▸ hno⟩

theorem Owned.handlers_eq_no_iff (h : p.Owned) : p.handlers = .no ↔ p.owner? = none := by
  cases htable : p.table with
  | none => simp [handlers, owner?, htable]
  | some t => simpa [handlers, owner?, htable] using (h.session t htable).1

/-- The owner and the handlers last as long as the owner is initialized. -/
theorem Owned.lasts (h : p.Owned) (hq : q.Owned) (hn : p.Numbered)
    (moves : ReflTransGen Move p q) (howner : p.owner? = some id)
    (hlives : q.isInitialized id = true) : q.owner? = p.owner? ∧ q.handlers = p.handlers := by
  obtain ⟨s, hsession, hflag⟩ := h.owner?_eq_some_iff.1 howner
  have hsession' := session?_of_moves moves hn hsession hlives
  refine ⟨?_, ?_⟩
  · rw [howner]
    exact hq.owner?_eq_some_iff.2 ⟨s, hsession', hflag⟩
  · rw [(hq.handlers_eq hsession' hflag).1, (h.handlers_eq hsession hflag).1]

/-! ## A shutdown that is not the owner's -/

theorem table_beginShutdown (hne : p.owner? ≠ some id) {callbacks : List κ}
    (hb : p.beginShutdown id = .ok (callbacks, q)) : q.table = p.table := by
  obtain ⟨c, s, -, -, -, ⟨-, rfl⟩ | ⟨t, -, htable, howner, -⟩⟩ := beginShutdown_cases hb
  · rfl
  · exact absurd (by simp [owner?, htable, howner]) hne

theorem table_free (hne : p.owner? ≠ some id) : (p.free id).table = p.table := by
  rcases free_cases p id with ⟨-, heq⟩ | ⟨s, -, -, heq⟩ | ⟨s, t, -, -, htable, howner, -⟩
  · rw [heq]
  · rw [heq]
  · exact absurd (by simp [owner?, htable, howner]) hne

end Hub

/-- Whether a context is initialized with a session that owns the signal handlers. -/
def Context.Owns {κ : Type} (c : Context κ) (s : Session) : Prop :=
  c.phase = .initialized s ∧ s.ownsHandlers = true

namespace Machine

/-! ## Reachable machines -/

theorem Reachable.owned {m : Machine} (h : m.Reachable) : m.hub.Owned := by
  have both : m.hub.Numbered ∧ m.hub.Owned := by
    refine h.invariant (P := fun p => p.Numbered ∧ p.Owned) (fun _ _ _ _ _ => ?_)
      fun ⟨hn, ho⟩ hm => ⟨hn.move hm, ho.move hn hm⟩
    refine ⟨⟨List.nodup_nil, fun _ h => absurd h List.not_mem_nil⟩, ⟨?_, ?_⟩⟩
    · intro t htable
      exact absurd htable (by simp [fresh])
    · intro id s hsession
      exact absurd hsession (by simp [fresh, Hub.session?, Hub.phase, Hub.find?, Phase.session?])
  exact both.2

theorem Reachable.session?_eq_some_iff {m : Machine} (h : m.Reachable) {id : Nat} {s : Session} :
    m.hub.session? id = some s ↔
      ∃ c ∈ m.hub.contexts, c.id = id ∧ c.phase = .initialized s := by
  simp only [Hub.session?_eq_some_iff, Hub.find?_eq_some_iff h.numbered, and_assoc]

/-- **Ownership of the signal handlers.** At every moment of every run: the owner is the one context
that is not freed, which somebody holds, and which is initialized with a session that owns the
handlers; the installed handlers are those of that session, and there are none exactly when there is
no owner. The end of another context changes neither, and they last until the owner's own end. -/
theorem Reachable.handler_ownership {m : Machine} (h : m.Reachable) :
    (∀ id, m.hub.owner? = some id ↔
      ∃ c ∈ m.hub.contexts, c.id = id ∧ m.held id = true ∧ ∃ s, c.Owns s) ∧
    (∀ c ∈ m.hub.contexts, ∀ c' ∈ m.hub.contexts, ∀ s s', c.Owns s → c'.Owns s' → c = c') ∧
    (∀ c ∈ m.hub.contexts, ∀ s, c.Owns s → m.hub.handlers = s.handlers ∧ s.handlers ≠ .no) ∧
    (m.hub.handlers = .no ↔ m.hub.owner? = none) ∧
    (∀ id, m.hub.owner? ≠ some id →
      (∀ callbacks q, m.hub.beginShutdown id = .ok (callbacks, q) →
        q.owner? = m.hub.owner? ∧ q.handlers = m.hub.handlers) ∧
      (m.hub.free id).owner? = m.hub.owner? ∧ (m.hub.free id).handlers = m.hub.handlers) ∧
    (∀ m' id, Next m m' → m.hub.owner? = some id → m'.hub.isInitialized id = true →
      m'.hub.owner? = m.hub.owner? ∧ m'.hub.handlers = m.hub.handlers) := by
  have owned := h.owned
  have session_of : ∀ c ∈ m.hub.contexts, ∀ s, c.Owns s → m.hub.session? c.id = some s :=
    fun c hmem s hc => h.session?_eq_some_iff.2 ⟨c, hmem, rfl, hc.1⟩
  have owner_of : ∀ c ∈ m.hub.contexts, ∀ s, c.Owns s → m.hub.owner? = some c.id :=
    fun c hmem s hc => owned.owner?_eq_some_iff.2 ⟨s, session_of c hmem s hc, hc.2⟩
  refine ⟨fun id => ⟨fun howner => ?_, ?_⟩, ?_, ?_, owned.handlers_eq_no_iff, ?_, ?_⟩
  · obtain ⟨s, hsession, hflag⟩ := owned.owner?_eq_some_iff.1 howner
    obtain ⟨c, hmem, rfl, hph⟩ := h.session?_eq_some_iff.1 hsession
    exact ⟨c, hmem, rfl, h.held_of_mem hmem, s, hph, hflag⟩
  · rintro ⟨c, hmem, rfl, -, s, hc⟩
    exact owner_of c hmem s hc
  · intro c hmem c' hmem' s s' hc hc'
    have hid : c.id = c'.id :=
      Option.some.inj ((owner_of c hmem s hc).symm.trans (owner_of c' hmem' s' hc'))
    exact List.inj_on_of_nodup_map h.numbered.nodup hmem hmem' hid
  · intro c hmem s hc
    exact owned.handlers_eq (session_of c hmem s hc) hc.2
  · -- the table stays, and the answers to both questions with it
    intro id hne
    refine ⟨fun callbacks q hb => ?_, ?_⟩
    · simp only [Hub.owner?, Hub.handlers, Hub.table_beginShutdown hne hb, and_self]
    · simp only [Hub.owner?, Hub.handlers, Hub.table_free hne, and_self]
  · intro m' id hnext howner hlives
    exact owned.lasts (h.next hnext).owned h.numbered hnext.moves howner hlives

/-- Two contexts ask for all handlers, and the second one is shut down while it has a callback. -/
def shutdownOfSecond : List Op :=
  [.create "a", .create "b", .init (some "a") none { handlers := some .all },
    .init (some "b") none { handlers := some .all }, .onShutdown "b" "last words" [.owner],
    .shutdown (some "b") false]

/-- The moment at which the callback of `shutdownOfSecond` starts. -/
def secondShuttingDown : Machine :=
  ({ fresh "" 1 false 0 0 with frames := [.script none shutdownOfSecond []] } : Machine).after 7

theorem reachable_secondShuttingDown : secondShuttingDown.Reachable := by
  have called := (Reachable.start "" 1 false 0 0).next (.call shutdownOfSecond)
  exact called.after 7

theorem handler_ownership_secondShuttingDown :
    secondShuttingDown.Reachable ∧ secondShuttingDown.inCallback = true ∧
      secondShuttingDown.hub.owner? = some 1 ∧ secondShuttingDown.hub.handlers = .all := by
  obtain ⟨owner, -, handlers, -⟩ := reachable_secondShuttingDown.handler_ownership
  have first : (⟨1, .initialized ⟨0, {}, .all, true, ""⟩, []⟩ : Context Callback)
      ∈ secondShuttingDown.hub.contexts := List.mem_cons_self
  exact ⟨reachable_secondShuttingDown, rfl,
    (owner 1).2 ⟨_, first, rfl, rfl, _, rfl, rfl⟩, (handlers _ first _ ⟨rfl, rfl⟩).1⟩

end Machine
end RobotClient
