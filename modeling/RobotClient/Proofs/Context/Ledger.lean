import RobotClient.Proofs.Context.Calls
import RobotClient.Proofs.Context.Stages

set_option autoImplicit false

/-! # Where callbacks wait

A callback that is registered before its context is shut down waits with the context, until the
shutdown takes all of them into its frame; from there they start, the oldest first. So none is lost
and none runs twice: what has started and what waits is what was registered, in this order. Main
statements: `waiting_happen`, this balance for one thing that happens, and `Spent.move`, that
nothing waits with a context that is shut down. -/

namespace RobotClient

open Relation (ReflTransGen)

/-- The callback of a context among those of all contexts. -/
def callbackOf (id : Nat) : Option (Nat × Callback) → List Callback
  | some (id', callback) => if id' = id then [callback] else []
  | none => []

/-- The callback that a call registers, with its context. -/
def Call.registers? : Call → Option (Nat × Callback)
  | .onShutdown id callback => some (id, callback)
  | _ => none

/-! ## With the context -/

namespace Hub

variable {κ : Type} {p q : Hub κ} {id j : Nat}

/-- The callbacks that wait with a context. -/
def stored (p : Hub κ) (id : Nat) : List κ := ((p.find? id).map (·.callbacks)).getD []

theorem stored_of_some {c : Context κ} (h : p.find? id = some c) : p.stored id = c.callbacks := by
  simp [stored, h]

theorem stored_of_none (h : p.find? id = none) : p.stored id = [] := by
  simp [stored, h]

theorem stored_congr (h : q.find? id = p.find? id) : q.stored id = p.stored id := by
  rw [stored, h, stored]

theorem stored_of_contexts (h : q.contexts = p.contexts) (id : Nat) : q.stored id = p.stored id :=
  stored_congr (find?_of_contexts h id)

theorem stored_of_update {c' : Context κ}
    (h : ∀ j, q.find? j = if j = id then some c' else p.find? j) (j : Nat) :
    q.stored j = if j = id then c'.callbacks else p.stored j := by
  by_cases hj : j = id
  · rw [if_pos hj]
    exact stored_of_some (by rw [h, if_pos hj])
  · rw [if_neg hj]
    exact stored_congr (by rw [h, if_neg hj])

/-- Nothing waits with a fresh context. -/
theorem stored_of_fresh (hn : p.Numbered) (hq : q.contexts = p.contexts ++ [{ id := p.nextId }])
    (j : Nat) : q.stored j = p.stored j := by
  rw [stored_of_update (find?_of_fresh hn hq)]
  split
  · next hj => rw [hj, stored_of_none (find?_of_nextId_le hn (Nat.le_refl _))]
  · rfl

theorem stored_of_modified (change : Context κ → Context κ) (hc : ∀ c, (change c).id = c.id)
    {c : Context κ} (hf : p.find? id = some c)
    (hq : q.contexts = modifyFirst id change p.contexts) (j : Nat) :
    q.stored j = if j = id then (change c).callbacks else p.stored j :=
  stored_of_update (find?_of_modified change hq hc hf) j

theorem stored_of_filtered (hq : q.contexts = p.contexts.filter (·.id ≠ id)) (j : Nat) :
    q.stored j = if j = id then [] else p.stored j := by
  have hfind := find?_of_filtered hq j
  by_cases hj : j = id
  · rw [if_pos hj] at hfind ⊢
    exact stored_of_none hfind
  · rw [if_neg hj] at hfind ⊢
    exact stored_congr hfind

theorem stored_init {o : InitOptions} (h : p.init id o = .ok q) (j : Nat) :
    q.stored j = p.stored j := by
  obtain ⟨c, s, watching, events, hc, -, -, hcase⟩ := init_cases h
  have hcontexts : q.contexts = modifyFirst id (opened s) p.contexts := by
    rcases hcase with ⟨-, -, rfl⟩ | ⟨-, -, -, rfl⟩ <;> rfl
  rw [stored_of_modified (opened s) (fun _ => rfl) hc hcontexts]
  split
  · next hj => rw [hj, stored_of_some hc]; rfl
  · rfl

theorem stored_about (hn : p.Numbered) (target : Option Nat) (j : Nat) :
    (p.about target).2.stored j = p.stored j := by
  cases target with
  | some id => rfl
  | none =>
    rw [about]
    rcases defaultContext_cases p with ⟨id, -, -, heq⟩ | ⟨-, heq⟩ <;> rw [heq]
    exact stored_of_fresh hn rfl j

/-- A shutdown takes all callbacks of its context away. -/
theorem stored_beginShutdown {callbacks : List κ} (h : p.beginShutdown id = .ok (callbacks, q)) :
    callbacks = p.stored id ∧ ∀ j, q.stored j = if j = id then [] else p.stored j := by
  obtain ⟨c, hc, hcallbacks, hcontexts, -⟩ := beginShutdown_closed h
  exact ⟨by rw [hcallbacks, stored_of_some hc],
    stored_of_modified closed (fun _ => rfl) hc hcontexts⟩

theorem stored_onShutdown (h : p.phase id ≠ .shutdown) (callback : κ) (j : Nat) :
    (p.onShutdown id callback).2.stored j
      = if j = id then p.stored id ++ [callback] else p.stored j := by
  rcases onShutdown_cases p id callback with ⟨hph, -⟩ | ⟨-, heq⟩
  · exact absurd hph h
  · rw [heq]
    obtain ⟨c, hc⟩ := exists_find?_of_phase h
    rw [stored_of_modified (pushed callback) (fun _ => rfl) hc rfl, stored_of_some hc]
    rfl

/-- Whether nothing waits with contexts that are shut down. -/
def Spent (p : Hub κ) : Prop := ∀ id, p.phase id = .shutdown → p.stored id = []

theorem Spent.congr (h : p.Spent) (hphase : ∀ j, q.phase j = p.phase j)
    (hstored : ∀ j, q.stored j = p.stored j) : q.Spent := fun j hj => by
  rw [hstored]
  exact h j (hphase j ▸ hj)

theorem Spent.of_contexts (h : p.Spent) (hq : q.contexts = p.contexts) : q.Spent :=
  h.congr (fun j => phase_congr (find?_of_contexts hq j)) (stored_of_contexts hq)

/-- A context that ends up shut down, with nothing that waits. -/
theorem Spent.ended (h : p.Spent)
    (hphase : ∀ j, q.phase j = if j = id then .shutdown else p.phase j)
    (hstored : ∀ j, q.stored j = if j = id then [] else p.stored j) : q.Spent := by
  intro j hj
  rw [hstored]
  by_cases hid : j = id
  · rw [if_pos hid]
  · rw [hphase, if_neg hid] at hj
    rw [if_neg hid]
    exact h j hj

theorem Spent.fresh (h : p.Spent) (hn : p.Numbered)
    (hq : q.contexts = p.contexts ++ [{ id := p.nextId }]) : q.Spent := by
  intro j hj
  rw [stored_of_fresh hn hq]
  rw [phase_of_fresh hn hq] at hj
  split at hj
  · exact absurd hj (by simp)
  · exact h j hj

theorem Spent.act (h : p.Spent) (hn : p.Numbered) (ha : Act p q) : q.Spent := by
  cases ha with
  | create => exact h.fresh hn rfl
  | useDefault =>
    rcases defaultContext_cases p with ⟨id, -, -, heq⟩ | ⟨-, heq⟩ <;> rw [heq]
    · exact h
    · exact h.fresh hn rfl
  | @init id o q hi =>
    obtain ⟨c, s, watching, events, hc, -, -, hcase⟩ := init_cases hi
    have hcontexts : q.contexts = modifyFirst id (opened s) p.contexts := by
      rcases hcase with ⟨-, -, rfl⟩ | ⟨-, -, -, rfl⟩ <;> rfl
    intro j hj
    rw [phase_of_opened hcontexts hc] at hj
    split at hj
    · exact absurd hj (by simp)
    · rw [stored_init hi]
      exact h j hj
  | releaseDefault id => exact h.of_contexts (contexts_releaseDefault p id)
  | onShutdown id callback =>
    rcases onShutdown_cases p id callback with ⟨-, heq⟩ | ⟨hph, heq⟩
    · rw [heq]
      exact h
    · have hstored := stored_onShutdown hph callback
      rw [heq] at hstored ⊢
      intro j hj
      rw [phase_of_pushed rfl] at hj
      have hne : j ≠ id := by
        rintro rfl
        exact hph hj
      rw [hstored, if_neg hne]
      exact h j hj
  | createNode hc =>
    obtain ⟨arguments, -, -, rfl⟩ := createNode_eq_ok hc
    exact h.of_contexts rfl

/-- **Nothing waits with a context that is shut down**, whatever happens. -/
theorem Spent.move (h : p.Spent) (hn : p.Numbered) (hm : Move p q) : q.Spent := by
  cases hm with
  | act ha => exact h.act hn ha
  | beginShutdown hb =>
    obtain ⟨c, hc, -, hcontexts, -⟩ := beginShutdown_closed hb
    exact h.ended (phase_of_closed hcontexts hc) (stored_beginShutdown hb).2
  | finishShutdown id => exact h.of_contexts rfl
  | free id =>
    exact h.ended (phase_of_filtered (contexts_free p id)) (stored_of_filtered (contexts_free p id))
  | takePending => exact h.of_contexts rfl
  | deliver signal => exact h.of_contexts (contexts_deliver p signal)
  | report he => exact h.of_contexts (contexts_emit p _)
  | noteDelivered signal => exact h.of_contexts (contexts_noteDelivered p signal)
  | tick clock => exact h.of_contexts rfl
  | handle signal label htable => exact h.of_contexts rfl

theorem Spent.moves (h : p.Spent) (hn : p.Numbered) (moves : ReflTransGen Move p q) : q.Spent := by
  have both : q.Numbered ∧ q.Spent :=
    keeps_of_moves moves (P := fun p => p.Numbered ∧ p.Spent)
      (fun ⟨hn, h⟩ hm => ⟨hn.move hm, h.move hn hm⟩) ⟨hn, h⟩
  exact both.2

end Hub

namespace Machine

variable {m r : Machine} {id : Nat}

theorem Reachable.spent (h : m.Reachable) : m.hub.Spent := by
  have both : m.hub.Numbered ∧ m.hub.Spent := by
    refine h.invariant (P := fun p => p.Numbered ∧ p.Spent) (fun _ _ _ _ _ => ?_)
      fun ⟨hn, hs⟩ hm => ⟨hn.move hm, hs.move hn hm⟩
    exact ⟨⟨List.nodup_nil, fun _ h => absurd h List.not_mem_nil⟩, fun _ _ => rfl⟩
  exact both.2

/-! ## In the frame of the shutdown -/

/-- The callbacks of a context that a frame will start. -/
def Frame.queued (id : Nat) : Frame → List Callback
  | .shutting id' callbacks => if id' = id then callbacks else []
  | _ => []

/-- The callbacks of a context that the frames will start, the next one first. -/
def queued (id : Nat) (frames : List Frame) : List Callback := frames.flatMap (Frame.queued id)

@[simp] theorem queued_nil (id : Nat) : queued id [] = [] := rfl

@[simp] theorem queued_cons (id : Nat) (f : Frame) (frames : List Frame) :
    queued id (f :: frames) = Frame.queued id f ++ queued id frames := rfl

@[simp] theorem queued_append (id : Nat) (above below : List Frame) :
    queued id (above ++ below) = queued id above ++ queued id below := List.flatMap_append

@[simp] theorem queued_answered (id : Nat) (reply : Reply) (frames : List Frame) :
    queued id (answered reply frames) = queued id frames := by
  cases frames with
  | nil => rfl
  | cons f below => cases f <;> rfl

@[simp] theorem queued_answer (id : Nat) (m : Machine) (reply : Reply) :
    queued id (m.answer reply).frames = queued id m.frames := by
  rw [answer_eq]
  exact queued_answered ..

@[simp] theorem queued_caller (id : Nat) (m : Machine) :
    queued id m.caller.frames = queued id m.frames := by
  unfold caller
  split
  · next hframes => rw [hframes]; rfl
  · next hframes => rw [hframes]; rfl
  · rfl

/-- Only a context that is shut down has callbacks in a frame. -/
theorem queued_eq_nil {p : Hub Callback} {frames : List Frame}
    (h : ∀ f ∈ frames, f.Grounded p) (hid : p.phase id ≠ .shutdown) : queued id frames = [] := by
  refine List.flatMap_eq_nil_iff.2 fun f hf => ?_
  cases f with
  | shutting id' callbacks =>
    refine if_neg fun he : id' = id => hid ?_
    exact he ▸ (h _ hf).2
  | _ => rfl

/-! ## The balance -/

/-- All callbacks of a context that wait, in the order in which they will start. -/
def waiting (m : Machine) (id : Nat) : List Callback := queued id m.frames ++ m.hub.stored id

/-- The callback that the next step takes from a shutdown and starts, with its context. -/
def begins? (m : Machine) : Option (Nat × Callback) :=
  match m.frames with
  | .shutting id (callback :: _) :: _ => some (id, callback)
  | _ => none

/-- The callback that the next step registers, with its context. -/
def registers? (m : Machine) : Option (Nat × Callback) := m.call?.bind Call.registers?

/-- The callback of a context that the next step starts, out of those that waited. -/
def begun (id : Nat) (m : Machine) : List Callback := callbackOf id m.begins?

/-- The callback that the next step puts with those that wait for the shutdown of a context. -/
def kept (id : Nat) (m : Machine) : List Callback :=
  if m.hub.phase id = .shutdown then [] else callbackOf id m.registers?

/-- The callback that the next step starts because its context is shut down when it registers it. -/
def atOnce (id : Nat) (m : Machine) : List Callback :=
  if m.hub.phase id = .shutdown then callbackOf id m.registers? else []

/-- A shutdown that starts moves its callbacks from the context to the frame. -/
theorem queued_shutting {p q : Hub Callback} {frames : List Frame} {j : Nat}
    {callbacks : List Callback} (hframes : ∀ f ∈ frames, f.Grounded p)
    (h : p.beginShutdown j = .ok (callbacks, q)) (id : Nat) :
    queued id (.shutting j callbacks :: frames) ++ q.stored id
      = queued id frames ++ p.stored id := by
  obtain ⟨rfl, hstored⟩ := Hub.stored_beginShutdown h
  rw [hstored, queued_cons, Frame.queued]
  by_cases hid : id = j
  · -- the context is initialized, so none of its callbacks is in a frame yet
    obtain ⟨c, s, hc, hph, -⟩ := Hub.beginShutdown_cases h
    have hnone : queued id frames = [] := queued_eq_nil hframes (by
      rw [hid, Hub.phase_of_some hc, hph]
      simp)
    rw [if_pos hid.symm, if_pos hid, hnone, hid, List.append_nil, List.append_nil, List.nil_append]
  · rw [if_neg (Ne.symm hid), if_neg hid, List.nil_append]

theorem waiting_answer {hub : Hub Callback} (handles : List (String × Nat))
    (nodes : List (String × Node)) (reply : Reply) (hstored : hub.stored id = m.hub.stored id) :
    ({ m with hub, handles, nodes }.answer reply).waiting id = m.waiting id := by
  rw [waiting, queued_answer, hub_answer, hstored, waiting]

theorem waiting_initContext (hn : m.hub.Numbered) (target : Option Nat) (keepAs : Option String)
    (o : InitOptions) (id : Nat) :
    (m.initContext target keepAs o).waiting id = m.waiting id := by
  have habout := Hub.stored_about hn target id
  simp only [initContext, contextFor_about]
  split
  · exact waiting_answer m.handles m.nodes _ habout
  · next hub hi => exact waiting_answer _ m.nodes _ ((Hub.stored_init hi id).trans habout)

theorem waiting_createNode (hn : m.hub.Numbered) (target : Option Nat) (name ns : String)
    (keepAs : Option String) (id : Nat) :
    (m.createNode target name ns keepAs).waiting id = m.waiting id := by
  have habout := Hub.stored_about hn target id
  simp only [createNode, contextFor_about]
  split
  · exact waiting_answer m.handles m.nodes _ habout
  · next node hub hc =>
    obtain ⟨arguments, -, -, rfl⟩ := Hub.createNode_eq_ok hc
    exact waiting_answer m.handles _ _ habout

theorem waiting_startShutdown (hg : m.Grounded) (target : Option Nat) (tolerant : Bool)
    (receipt : Reply) (id : Nat) :
    (m.startShutdown target tolerant receipt).waiting id = m.waiting id := by
  unfold startShutdown
  split
  · exact waiting_answer m.handles m.nodes _ rfl
  · next j _ =>
    split
    · exact waiting_answer m.handles m.nodes _ rfl
    · next callbacks hub hb =>
      have moved := queued_shutting hg.frames hb id
      have hreleasing : queued id (if target.isNone then [.releasing j] else []) = [] := by
        split <;> rfl
      simp only [waiting, List.cons_append, queued_cons, queued_append, hreleasing, Frame.queued,
        List.nil_append, List.append_assoc] at moved ⊢
      exact moved

/-- A callback is kept with the others of its context, unless it runs at once. -/
theorem waiting_onShutdown (j : Nat) (callback : Callback) (id : Nat) :
    (m.serve (.onShutdown j callback)).waiting id = m.waiting id
      ++ if m.hub.phase id = .shutdown then [] else if j = id then [callback] else [] := by
  rw [serve]
  rcases Hub.onShutdown_cases m.hub j callback with ⟨hph, heq⟩ | ⟨hph, heq⟩
  · -- the callback runs at once, so nothing is kept for any context
    rw [heq]
    have hnone : (if m.hub.phase id = .shutdown then [] else if j = id then [callback] else [])
        = ([] : List Callback) := by
      by_cases hid : j = id
      · rw [if_pos (hid ▸ hph)]
      · rw [if_neg hid, ite_self]
    rw [hnone, List.append_nil]
    rfl
  · have hstored := Hub.stored_onShutdown hph callback id
    rw [heq] at hstored ⊢
    by_cases hid : id = j
    · subst hid
      rw [if_pos rfl] at hstored
      rw [if_neg hph, if_pos rfl]
      simp only [waiting, queued_answer, hub_answer, hstored, List.append_assoc]
    · rw [if_neg hid] at hstored
      rw [if_neg (Ne.symm hid), ite_self, List.append_nil]
      exact waiting_answer m.handles m.nodes _ hstored

/-- A call keeps the callback that it registers, unless that runs at once. -/
theorem waiting_serve (hn : m.hub.Numbered) (hg : m.Grounded) (call : Call) (id : Nat) :
    (m.serve call).waiting id = m.waiting id
      ++ if m.hub.phase id = .shutdown then [] else callbackOf id call.registers? := by
  have still : ∀ {r : Machine}, call.registers? = none → r.waiting id = m.waiting id →
      r.waiting id = m.waiting id
        ++ if m.hub.phase id = .shutdown then [] else callbackOf id call.registers? :=
    fun hcall h => by rw [h, hcall, callbackOf, ite_self, List.append_nil]
  cases call with
  | init target keepAs o => exact still rfl (waiting_initContext hn target keepAs o id)
  | shutdown target tolerant receipt =>
    exact still rfl (waiting_startShutdown hg target tolerant receipt id)
  | onShutdown j callback => exact waiting_onShutdown j callback id
  | createNode target name ns keepAs =>
    exact still rfl (waiting_createNode hn target name ns keepAs id)
  | ask j question => exact still rfl (waiting_answer m.handles m.nodes _ rfl)
  | defaultOk => exact still rfl (waiting_answer m.handles m.nodes _ rfl)

theorem waiting_idle {r : Machine} (hn : m.hub.Numbered) (h : Idle m r) (id : Nat) :
    r.waiting id = m.waiting id := by
  have hqueued : queued id r.frames = queued id m.frames := by
    rcases h.frames with
      ⟨reply, heq⟩ | ⟨target, call, count, heq⟩ | ⟨signal, line, before, heq⟩ <;>
      rw [heq]
    · exact queued_answered ..
    · rfl
    · rfl
  have hstored : r.hub.stored id = m.hub.stored id := by
    rcases h.hub with ⟨hcontexts, -⟩ | ⟨hcontexts, -⟩
    · exact Hub.stored_of_contexts hcontexts id
    · exact Hub.stored_of_fresh hn hcontexts id
  rw [waiting, hqueued, hstored, waiting]

/-- The callback that a frame starts next, with its context. -/
def Frame.begins? : Frame → Option (Nat × Callback)
  | .shutting id (callback :: _) => some (id, callback)
  | _ => none

theorem begins?_of_frames {f : Frame} {below : List Frame} (hframes : m.frames = f :: below) :
    m.begins? = Frame.begins? f := by
  rw [begins?, hframes]
  cases f with
  | shutting j callbacks => cases callbacks <;> rfl
  | _ => rfl

theorem begun_eq (id : Nat) {f : Frame} {below : List Frame} (hframes : m.frames = f :: below) :
    begun id m = callbackOf id (Frame.begins? f) := by
  rw [begun, begins?_of_frames hframes]

/-- A callback that starts comes off its frame, and other frames that ask for nothing have none. -/
theorem queued_advance {f : Frame} (hasks : f.asks = false) (id : Nat) :
    callbackOf id (Frame.begins? f) ++ queued id (m.advance f).frames
      = queued id (f :: m.frames) := by
  fun_cases advance m f with
  | case1 | case8 | case9 | case12 => exact absurd hasks (by simp [Frame.asks])
  | case4 j callback rest =>
    simp only [queued_cons, Frame.queued, Frame.begins?, callbackOf]
    split <;> rfl
  | case11 next signal before =>
    rcases (concluded_conclude m signal before next).frames with ⟨later, heq⟩ | ⟨reply, heq⟩ <;>
      rw [heq]
    · rfl
    · exact queued_answered ..
  | _ => simp [Frame.queued, Frame.begins?, callbackOf]

theorem begins?_of_call {call : Call} (hcall : m.call? = some call) : m.begins? = none := by
  obtain ⟨f, below, hframes, hasks⟩ := exists_asks_of_call hcall
  rw [begins?_of_frames hframes]
  cases f with
  | shutting => exact absurd hasks (by simp [Frame.asks])
  | _ => rfl

theorem waiting_caller (m : Machine) (id : Nat) : m.caller.waiting id = m.waiting id := by
  simp [waiting]

/-- **The balance of a step**, before contexts are freed: what starts and what waits afterwards is
    what waited and what is registered, in this order. -/
theorem Reachable.exists_balanced (h : m.Reachable) (hwork : m.frames ≠ []) (id : Nat) :
    ∃ r : Machine, m.step = r.collect ∧ ReflTransGen Hub.Move m.hub r.hub ∧
      begun id m ++ r.waiting id = m.waiting id ++ kept id m := by
  obtain ⟨r, hr, stepped, moves⟩ := exists_stepped hwork
  refine ⟨r, hr, moves, ?_⟩
  have hn : m.caller.hub.Numbered := by simpa using h.numbered
  have quiet : m.call? = none → kept id m = [] := fun hcall => by
    rw [kept, registers?, hcall, Option.bind_none, callbackOf, ite_self]
  cases stepped with
  | @call call hcall =>
    have served := waiting_serve hn (grounded_caller h.grounded) call id
    rw [waiting_caller, hub_caller] at served
    have hbegun : begun id m = [] := by rw [begun, begins?_of_call hcall]; rfl
    rw [hbegun, List.nil_append, served, kept, registers?, hcall, Option.bind_some]
  | idle hcall hidle hframes =>
    obtain ⟨label, op, rest, replies, below, hframes⟩ := hframes
    have hbegun : begun id m = [] := begun_eq id hframes
    rw [hbegun, quiet hcall, List.append_nil, List.nil_append, waiting_idle hn hidle, waiting_caller]
  | @skip signal j count line before below hframes he =>
    have hcall : m.call? = none := by rw [call?, hframes]
    have hbegun : begun id m = [] := begun_eq id hframes
    rw [hbegun, quiet hcall, List.append_nil, waiting, waiting, hframes]
    rfl
  | @shut signal j count line before below callbacks hub hframes hb =>
    have hcall : m.call? = none := by rw [call?, hframes]
    have hbelow := (List.forall_mem_cons.1 (hframes ▸ h.grounded.frames)).2
    have moved := queued_shutting hbelow hb id
    have hbegun : begun id m = [] := begun_eq id hframes
    rw [hbegun, quiet hcall, List.append_nil, waiting, waiting, hframes]
    simpa [Frame.queued] using moved
  | @pass f below hframes hasks =>
    have hcall := call?_of_pass hframes hasks
    obtain ⟨hcontexts, -⟩ := contexts_advance { m with frames := below } hasks
    have hstored := Hub.stored_of_contexts hcontexts id
    have hqueued := queued_advance (m := { m with frames := below }) hasks id
    rw [quiet hcall, List.append_nil, waiting, hstored, waiting, ← List.append_assoc, hframes,
      begun_eq id hframes, hqueued]

/-- **The balance of one thing that happens**, for a context that is there afterwards or was shut
    down: what starts and what waits afterwards is what waited and what is registered. -/
theorem Reachable.waiting_happen (h : m.Reachable) (happening : Happening)
    (hid : ((m.happen happening).hub.find? id).isSome = true ∨
      id < m.hub.nextId ∧ m.hub.phase id = .shutdown) :
    onStep (begun id) m happening ++ (m.happen happening).waiting id
      = m.waiting id ++ onStep (kept id) m happening := by
  cases happening with
  | work =>
    change begun id m ++ m.step.waiting id = m.waiting id ++ kept id m
    by_cases hwork : m.frames = []
    · have hstep : m.step = m := by rw [Machine.step, hwork]
      rw [hstep, begun, begins?, kept, registers?, call?, hwork]
      simp [callbackOf]
    · obtain ⟨r, hr, moves, balanced⟩ := h.exists_balanced hwork id
      have hstored : m.step.hub.stored id = r.hub.stored id := by
        rcases hid with hsome | ⟨hlt, hphase⟩
        · refine Hub.stored_congr ?_
          change (m.step.hub.find? id).isSome = true at hsome
          rw [hr, find?_collect] at hsome ⊢
          split at hsome
          · next hheld => rw [if_pos hheld]
          · exact absurd hsome (by simp)
        · -- nothing waits with a context that is shut down, whether or not it is freed
          have hnow := Hub.shutdown_of_moves moves h.numbered hlt hphase
          have hlater := Hub.shutdown_of_moves (moves_step m) h.numbered hlt hphase
          rw [h.spent.moves h.numbered moves id hnow, h.step.spent id hlater]
      rw [← balanced, waiting, hstored, hr]
      rfl
  | call program => exact (List.append_nil _).symm
  | arrive signal =>
    have hstored := Hub.stored_of_contexts (Hub.contexts_deliver m.hub signal) id
    change queued id m.frames ++ (m.hub.deliver signal).stored id = m.waiting id ++ []
    rw [hstored, List.append_nil, waiting]
  | tick clock => exact (List.append_nil _).symm
  | handle signal label =>
    simp only [Machine.happen]
    split <;> exact (List.append_nil _).symm

end Machine
end RobotClient
