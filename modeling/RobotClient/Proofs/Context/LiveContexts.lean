import RobotClient.Proofs.Context.Callbacks

set_option autoImplicit false

/-! # Which contexts are live

The registry holds no context alive. The entry of a context that is freed stays until the next
initialization or shutdown happens to clear it away, and until then whoever reads the registry has
to step over it. What such a reader finds is told here without the registry: `Machine.inits` is the
context that a step initializes, so a run initializes `along (onStep inits)`, each context once, and
those of them that are still initialized are the live ones, in this order. Entries that only wait to
be cleared away belong to contexts that were initialized once and never shut down. Main statement:
`live_contexts`. -/

namespace RobotClient

open Relation (ReflTransGen)

namespace Hub

variable {κ : Type} {p q r : Hub κ} {id : Nat}

/-! ## Enrolment -/

/-- What a change does to the registry and the initializations on record: it adds nothing, or it
    adds a context that was uninitialized. -/
inductive Enrolled (p q : Hub κ) : Prop where
  | none (hlive : ∀ j ∈ q.live, j ∈ p.live) (hever : q.everInitialized = p.everInitialized)
  | one (id : Nat) (hphase : p.phase id = .uninitialized)
      (hlive : ∀ j ∈ q.live, j ∈ p.live ∨ j = id)
      (hever : q.everInitialized = p.everInitialized ++ [id])

/-- A change that leaves the registry alone. -/
theorem Enrolled.same (hlive : q.live = p.live) {events : List Event}
    (hlog : q.log = p.log ++ events) (hquiet : ∀ e ∈ events, e.initializes? = .none) :
    Enrolled p q :=
  .none (fun _ hj => hlive ▸ hj) (everInitialized_of_log hlog hquiet)

theorem Act.enrolled (h : Act p q) : Enrolled p q := by
  cases h with
  | create => exact .none (fun _ hj => hj) rfl
  | useDefault =>
    rcases defaultContext_cases p with ⟨id, -, -, heq⟩ | ⟨-, heq⟩ <;> rw [heq]
    · exact .none (fun _ hj => hj) rfl
    · exact .same rfl rfl (by simp [Event.initializes?])
  | @init id o q hi =>
    obtain ⟨c, s, watching, events, hc, hph, hquiet, hcase⟩ := init_cases hi
    have hphase : p.phase id = .uninitialized := by rw [phase_of_some hc, hph]
    have hlive : ∀ j ∈ p.liveContexts ++ [id], j ∈ p.live ∨ j = id := by
      intro j hj
      rw [List.mem_append, List.mem_singleton] at hj
      exact hj.imp_left List.mem_of_mem_filter
    rcases hcase with ⟨-, -, rfl⟩ | ⟨-, -, -, rfl⟩
    · exact .one id hphase hlive (everInitialized_of_init rfl hquiet)
    · exact .one id hphase hlive (everInitialized_of_init rfl hquiet)
  | releaseDefault id =>
    unfold Hub.releaseDefault
    split <;> exact .none (fun _ hj => hj) rfl
  | onShutdown id callback =>
    rcases onShutdown_cases p id callback with ⟨-, heq⟩ | ⟨-, heq⟩ <;> rw [heq] <;>
      exact .none (fun _ hj => hj) rfl
  | createNode hc =>
    obtain ⟨arguments, -, -, rfl⟩ := createNode_eq_ok hc
    exact .same rfl rfl (by simp [Event.initializes?])

theorem Move.enrolled (h : Move p q) : Enrolled p q := by
  cases h with
  | act ha => exact ha.enrolled
  | beginShutdown hb =>
    obtain ⟨c, s, -, -, -, ⟨-, rfl⟩ | ⟨t, -, -, -, rfl⟩⟩ := beginShutdown_cases hb
    all_goals
      refine .none (fun j hj => ?_) (everInitialized_of_log rfl (by simp [Event.initializes?]))
      exact List.mem_of_mem_filter (List.mem_of_mem_filter hj)
  | finishShutdown id => exact .same rfl rfl (by simp [Event.initializes?])
  | free id => exact .none (fun _ hj => (live_free p id).1 ▸ hj) (live_free p id).2
  | takePending => exact .none (fun _ hj => hj) rfl
  | deliver signal =>
    rcases deliver_cases p signal with ⟨-, heq⟩ | ⟨label, -, heq⟩ <;> rw [heq] <;>
      exact .none (fun _ hj => hj) rfl
  | report he =>
    refine .same rfl rfl ?_
    simpa using Event.initializes?_of_marksLife (Event.marksLife_of_tellsDispatch he)
  | noteDelivered signal => exact .none (fun _ hj => hj) rfl
  | tick clock => exact .none (fun _ hj => hj) rfl
  | handle signal label htable => exact .none (fun _ hj => hj) rfl

/-- A context that has begun is never enrolled again. -/
theorem Enrolled.of_begun (h : Enrolled p q) (hid : p.Begun id) :
    (id ∈ q.live → id ∈ p.live) ∧ (id ∈ q.everInitialized → id ∈ p.everInitialized) := by
  cases h with
  | none hlive hever => exact ⟨hlive id, fun h => hever ▸ h⟩
  | one j hphase hlive hever =>
    have hne : id ≠ j := fun he => hid.2 (he ▸ hphase)
    rw [hever, List.mem_append, List.mem_singleton]
    exact ⟨fun h => (hlive id h).resolve_right hne, fun h => h.resolve_right hne⟩

theorem of_begun_moves (moves : ReflTransGen Move p q) (hn : p.Numbered) (hid : p.Begun id) :
    (id ∈ q.live → id ∈ p.live) ∧ (id ∈ q.everInitialized → id ∈ p.everInitialized) := by
  induction moves with
  | refl => exact ⟨fun h => h, fun h => h⟩
  | @tail q r moves hm ih =>
    obtain ⟨hlive, hever⟩ := hm.enrolled.of_begun (hid.moves moves hn)
    exact ⟨fun h => ih.1 (hlive h), fun h => ih.2 (hever h)⟩

theorem everInitialized_prefix (moves : ReflTransGen Move p q) :
    p.everInitialized <+: q.everInitialized := by
  induction moves with
  | refl => exact List.prefix_rfl
  | tail _ hm ih => exact ih.trans (hm.log_prefix.filterMap _)

theorem everInitialized_foldl_free (ids : List Nat) (p : Hub κ) :
    (ids.foldl Hub.free p).everInitialized = p.everInitialized := by
  induction ids generalizing p with
  | nil => rfl
  | cons id rest ih => rw [List.foldl_cons, ih, (live_free p id).2]

/-- A context that has begun is not initialized a second time. -/
theorem Begun.isInitialized_of_moves (h : p.Begun id) (moves : ReflTransGen Move p q)
    (hn : p.Numbered) (hq : q.isInitialized id = true) : p.isInitialized id = true := by
  cases hp : p.isInitialized id with
  | true => rfl
  | false =>
    have hphase := shutdown_of_moves moves hn h.1 (h.phase_eq_shutdown hp)
    rw [isInitialized_of_shutdown hphase] at hq
    exact absurd hq (by decide)

/-- A context that has not begun is at its first stage, and the other way round. -/
theorem stage_eq_uninitialized_iff : p.stage id = .uninitialized ↔ ¬ p.Begun id := by
  rw [stage, Begun]
  by_cases hlt : id < p.nextId
  · simp [hlt]
  · simp [hlt]

/-- Where a demand leads away from the start, it is an initialization that may go on. -/
theorem exists_offer_of_stageAfter {demand? : Option (Nat × Demand)}
    (hbefore : p.stage id = .uninitialized) (hafter : p.stageAfter demand? id ≠ .uninitialized) :
    ∃ s, demand? = some (id, .init (.ok s)) := by
  unfold stageAfter at hafter
  split at hafter
  · next j d =>
    split at hafter
    · next hj =>
      subst hj
      rw [hbefore] at hafter
      cases d with
      | init offer =>
        cases offer with
        | ok s => exact ⟨s, rfl⟩
        | error e => exact absurd rfl hafter
      | _ => exact absurd rfl hafter
    · exact absurd hbefore hafter
  · exact absurd hbefore hafter

end Hub

namespace Machine

variable {m : Machine} {id : Nat}

/-! ## The initialization of a step -/

/-- The context that the next step initializes, if it does. -/
def inits (m : Machine) : List Nat :=
  match m.call? with
  | some (.init target _ o) =>
    match (m.hub.about target).2.init (m.hub.about target).1 o with
    | .ok _ => [(m.hub.about target).1]
    | .error _ => []
  | _ => []

theorem inits_of_call {target : Option Nat} {keepAs : Option String} {o : InitOptions}
    {hub : Hub Callback} (hcall : m.call? = some (.init target keepAs o))
    (h : (m.hub.about target).2.init (m.hub.about target).1 o = .ok hub) :
    m.inits = [(m.hub.about target).1] := by
  simp only [inits, hcall, h]

theorem call_of_mem_inits (h : id ∈ m.inits) :
    ∃ target keepAs o hub, m.call? = some (.init target keepAs o) ∧
      (m.hub.about target).1 = id ∧ (m.hub.about target).2.init id o = .ok hub ∧
      m.inits = [id] := by
  unfold inits at h
  split at h
  · next target keepAs o hcall =>
    split at h
    · next hub hinit =>
      obtain rfl := List.mem_singleton.1 h
      exact ⟨target, keepAs, o, hub, hcall, rfl, hinit, inits_of_call hcall hinit⟩
    · exact absurd h List.not_mem_nil
  · exact absurd h List.not_mem_nil

/-- The context that a call initializes was given out. -/
theorem Reachable.about_numbered (h : m.Reachable) {target : Option Nat} {keepAs : Option String}
    {o : InitOptions} (hcall : m.call? = some (.init target keepAs o)) :
    (m.hub.about target).2.Numbered ∧
      (m.hub.about target).1 < (m.hub.about target).2.nextId :=
  Hub.about_numbered h.numbered target fun j hj => h.target_lt hcall (by rw [Call.target?, hj])

/-- A context that is initialized had not begun, and then it is on record. -/
theorem Reachable.of_mem_inits (h : m.Reachable) (hid : id ∈ m.inits) :
    ¬ m.hub.Begun id ∧ id ∈ m.step.hub.everInitialized := by
  obtain ⟨target, keepAs, o, hub, hcall, rfl, hinit, -⟩ := call_of_mem_inits hid
  obtain ⟨hn, -⟩ := h.about_numbered hcall
  obtain ⟨c, s, watching, events, hc, hph, hquiet, hcase⟩ := Hub.init_cases hinit
  constructor
  · rw [← Hub.stage_eq_uninitialized_iff, ← Hub.stage_about h.numbered target,
      Hub.stage_of_some hn hc, hph]
  · have hserve : (m.caller.serve (.init target keepAs o)).hub = hub := by
      simp only [serve, initContext, contextFor_about, hub_caller, hinit, hub_answer]
    rw [step_of_call hcall, collect, Hub.everInitialized_foldl_free, hserve]
    have hever : hub.everInitialized
        = (m.hub.about target).2.everInitialized ++ [(m.hub.about target).1] := by
      rcases hcase with ⟨-, -, rfl⟩ | ⟨-, -, -, rfl⟩
      · exact Hub.everInitialized_of_init rfl hquiet
      · exact Hub.everInitialized_of_init rfl hquiet
    rw [hever]
    simp

/-- An initialization is demanded by a call. -/
theorem demand?_eq_init {s : Session} (h : m.demand? = some (id, .init (.ok s))) :
    ∃ target keepAs o, m.call? = some (.init target keepAs o) ∧ (m.hub.about target).1 = id ∧
      (m.hub.about target).2.offer id o = .ok s := by
  unfold demand? at h
  split at h
  · next call hcall =>
    cases call with
    | init target keepAs o =>
      obtain ⟨rfl, hoffer⟩ := Prod.mk.inj (Option.some.inj h)
      exact ⟨target, keepAs, o, hcall, rfl, Demand.init.inj hoffer⟩
    | ask j question =>
      cases question <;> exact absurd h (by simp [Call.demand?, Demand.ofQuestion?])
    | _ => exact absurd h (by simp [Call.demand?])
  · simp at h
  · exact absurd h (by simp)

/-- A context that comes on record is the one that the step initializes. -/
theorem Reachable.inits_of_new (h : m.Reachable) (hnew : id ∈ m.step.hub.everInitialized)
    (hold : id ∉ m.hub.everInitialized) : m.inits = [id] := by
  have hwork : m.frames ≠ [] := by
    intro hnil
    have hstep : m.step = m := by rw [Machine.step, hnil]
    exact hold (hstep ▸ hnew)
  obtain ⟨r, hr, moves, hstage⟩ := h.step_staged hwork
  have hbefore : ¬ m.hub.Begun id := fun hbegun =>
    hold ((Hub.of_begun_moves (moves_step m) h.numbered hbegun).2 hnew)
  -- a context that was freed at once is on record, too
  have hafter : r.hub.Begun id := by
    rw [hr, collect, Hub.everInitialized_foldl_free] at hnew
    exact (h.registered.moves h.numbered moves).begun id hnew
  rw [← Hub.stage_eq_uninitialized_iff] at hbefore
  have hleft : m.hub.stageAfter m.demand? id ≠ .uninitialized := by
    rw [← hstage, Ne, Hub.stage_eq_uninitialized_iff]
    exact not_not_intro hafter
  obtain ⟨s, hdemand⟩ := Hub.exists_offer_of_stageAfter hbefore hleft
  obtain ⟨target, keepAs, o, hcall, rfl, hoffer⟩ := demand?_eq_init hdemand
  obtain ⟨-, hlt⟩ := h.about_numbered hcall
  rw [← Hub.stage_about h.numbered target, Hub.stage_of_lt hlt] at hbefore
  obtain ⟨hub, hinit, -⟩ := Hub.init_of_offer_ok hbefore hoffer
  exact inits_of_call hcall hinit

/-- **What a step puts on record** is what it initializes. -/
theorem Reachable.everInitialized_step (h : m.Reachable) :
    m.step.hub.everInitialized = m.hub.everInitialized ++ m.inits := by
  obtain ⟨new, hnew⟩ := Hub.everInitialized_prefix (moves_step m)
  have hnodup := h.step.registered.nodup
  rw [← hnew, List.nodup_append] at hnodup
  obtain ⟨-, hnodup, hdisjoint⟩ := hnodup
  have hmem : ∀ j, j ∈ new → m.inits = [j] := by
    intro j hj
    refine h.inits_of_new (hnew ▸ List.mem_append_right _ hj) ?_
    exact fun hold => hdisjoint j hold j hj rfl
  have hconv : ∀ j, j ∈ m.inits → j ∈ new := by
    intro j hj
    obtain ⟨hbefore, hafter⟩ := h.of_mem_inits hj
    rw [← hnew, List.mem_append] at hafter
    exact hafter.resolve_left fun hold => hbefore (h.registered.begun j hold)
  rw [← hnew]
  cases new with
  | nil =>
    have hnone : m.inits = [] := List.eq_nil_iff_forall_not_mem.2 fun j hj =>
      absurd (hconv j hj) List.not_mem_nil
    rw [hnone]
  | cons j rest =>
    -- all that is new is the same context, and there it stands but once
    have hfirst := hmem j List.mem_cons_self
    have hrest : rest = [] := by
      refine List.eq_nil_iff_forall_not_mem.2 fun k hk => ?_
      have hsame := hfirst.symm.trans (hmem k (List.mem_cons_of_mem j hk))
      obtain rfl : j = k := by simpa using hsame
      exact (List.nodup_cons.1 hnodup).1 hk
    rw [hfirst, hrest]

/-! ## Runs -/

theorem Reachable.everInitialized_run (h : m.Reachable) (happenings : List Happening) :
    (m.run happenings).hub.everInitialized
      = m.hub.everInitialized ++ along (onStep inits) m happenings := by
  induction happenings generalizing m with
  | nil => exact (List.append_nil _).symm
  | cons happening rest ih =>
    have hfirst : (m.happen happening).hub.everInitialized
        = m.hub.everInitialized ++ onStep inits m happening := by
      cases happening with
      | work => exact h.everInitialized_step
      | arrive signal => simp [Machine.happen, onStep, Hub.everInitialized, Hub.log_deliver]
      | call | tick => exact (List.append_nil _).symm
      | handle signal label =>
        rw [Machine.happen]
        split <;> exact (List.append_nil _).symm
    have hrun : m.run (happening :: rest) = (m.happen happening).run rest := rfl
    rw [hrun, ih (h.happen happening), hfirst, along, List.append_assoc]

/-- Contexts that are live stay so, in the same order, as long as they are initialized. -/
theorem Reachable.liveContexts_later (h : m.Reachable) (later : List Happening) :
    m.hub.liveContexts.filter (m.run later).hub.isInitialized
      <+: (m.run later).hub.liveContexts := by
  have hsame : m.hub.everInitialized.filter (fun j => (m.run later).hub.isInitialized j
      && m.hub.isInitialized j) = m.hub.everInitialized.filter (m.run later).hub.isInitialized := by
    refine List.filter_congr fun j hj => ?_
    have hbegun : m.hub.Begun j := h.registered.begun j hj
    cases hlater : (m.run later).hub.isInitialized j with
    | false => rfl
    | true => exact hbegun.isInitialized_of_moves (moves_run m later) h.numbered hlater
  rw [(h.run later).registered.live, h.registered.live, Hub.initializedIds, Hub.initializedIds,
    h.everInitialized_run later, List.filter_append, List.filter_filter, hsame]
  exact List.prefix_append ..

/-- An entry of the registry is not one of a context that was ever shut down. -/
theorem Reachable.not_everShut_of_live (h : m.Reachable) (hlive : m.hub.live = [])
    {happenings : List Happening} (hid : id ∈ (m.run happenings).hub.live) :
    ¬ m.EverShut happenings id := by
  induction happenings using List.reverseRecOn with
  | nil =>
    change id ∈ m.hub.live at hid
    rw [hlive] at hid
    exact absurd hid List.not_mem_nil
  | append_singleton front last ih =>
    have hm := h.run front
    intro hever
    rw [everShut_concat] at hever
    rcases hever with hever | hshut
    · -- the entry was there before, for the context cannot be enrolled again
      obtain ⟨hlt, hphase⟩ := h.everShut_run hever
      have hbegun : (m.run front).hub.Begun id := ⟨hlt, by simp [hphase]⟩
      rw [run_concat] at hid
      exact ih ((Hub.of_begun_moves (moves_happen _ last) hm.numbered hbegun).1 hid) hever
    · obtain ⟨hsome, hphase⟩ := shut_iff.1 hshut
      have hmem : id ∈ (m.run (front ++ [last])).hub.liveContexts :=
        List.mem_filter.2 ⟨hid, hsome⟩
      have hinit := (h.run (front ++ [last])).mem_liveContexts_iff.1 hmem
      rw [Hub.isInitialized_of_shutdown hphase] at hinit
      exact absurd hinit (by decide)

/-- **Live contexts.** After any run from the start, the entries of the registry that still lead to a
context are the contexts that the run initialized and that are initialized now, in the order of their
initializations, each of them once; these are the contexts that are there, which somebody holds, and
that are initialized. Whatever else is listed was initialized once and never shut down, so it is
freed. Such entries do no harm: whatever happens later, the contexts listed now that are initialized
then are still listed, in the same order and before all that are initialized in between. -/
theorem live_contexts (clock : String) (nextId : Nat) (watching : Bool)
    (interrupt terminate : Nat) (happenings : List Happening) :
    let start := fresh clock nextId watching interrupt terminate
    let m := start.run happenings
    let initialized := along (onStep inits) start happenings
    initialized.Nodup ∧ m.hub.liveContexts.Nodup ∧
    m.hub.liveContexts = initialized.filter m.hub.isInitialized ∧
    (∀ id, id ∈ m.hub.liveContexts ↔
      ∃ c ∈ m.hub.contexts, c.id = id ∧ m.held id = true ∧ ∃ s, c.phase = .initialized s) ∧
    (∀ id ∈ m.hub.live, id ∈ initialized ∧ ¬ start.EverShut happenings id ∧
      (id ∈ m.hub.liveContexts ∨ m.hub.find? id = none)) ∧
    (∀ later, m.hub.liveContexts.filter (m.run later).hub.isInitialized
      <+: (m.run later).hub.liveContexts) := by
  intro start m initialized
  have hstart : start.Reachable := .start clock nextId watching interrupt terminate
  have hm : m.Reachable := hstart.run happenings
  have hever : m.hub.everInitialized = initialized := hstart.everInitialized_run happenings
  have hlive : m.hub.liveContexts = initialized.filter m.hub.isInitialized := by
    rw [hm.registered.live, Hub.initializedIds, hever]
  have hnodup : initialized.Nodup := hever ▸ hm.registered.nodup
  refine ⟨hnodup, hlive ▸ hnodup.filter _, hlive, fun id => ?_, fun id hid => ⟨?_, ?_, ?_⟩,
    fun later => ?_⟩
  · rw [hm.mem_liveContexts_iff]
    constructor
    · intro hinit
      obtain ⟨s, hs⟩ := Option.isSome_iff_exists.1 hinit
      obtain ⟨c, hc, rfl, hph⟩ := hm.session?_eq_some_iff.1 hs
      exact ⟨c, hc, rfl, hm.held_of_mem hc, s, hph⟩
    · rintro ⟨c, hc, rfl, -, s, hph⟩
      rw [Hub.isInitialized, hm.session?_eq_some_iff.2 ⟨c, hc, rfl, hph⟩]
      rfl
  · exact hever ▸ hm.registered.known id hid
  · exact hstart.not_everShut_of_live rfl hid
  · cases hfind : m.hub.find? id with
    | none => exact .inr rfl
    | some c => exact .inl (List.mem_filter.2 ⟨hid, by rw [hfind]; rfl⟩)
  · exact hm.liveContexts_later later

/-- The entry of a context that was dropped stays, and the next initialization clears it away. -/
example :
    let dropped := (fresh "" 1 false 0 0).run (.call [.create "a", .init (some "a") none {},
      .create "b", .init (some "b") none {}, .drop "a"] :: List.replicate 5 .work)
    let later := dropped.run (.call [.init none none {}] :: List.replicate 2 .work)
    dropped.hub.live = [1, 2] ∧ dropped.hub.liveContexts = [2] ∧ later.hub.live = [2, 3] := by
  exact ⟨rfl, rfl, rfl⟩

end Machine
end RobotClient
