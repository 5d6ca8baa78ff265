import RobotClient.Proofs.Context.Step

set_option autoImplicit false

/-! # Reachable machines

A run starts before anything happened. Then, in any order and any number of times, a machine does a
step of the work that is going on, somebody calls the library with further operations (another
thread may do so in the middle of the work), a signal arrives, time passes, or the host puts in a
handler of its own while the library's handlers are out. `Machine.Reachable` therefore holds at
every moment between two steps, those inside a callback included. Main statements:
`Reachable.invariant`, by which a property of hubs holds if every `Hub.Move` keeps it, and
`Reachable.unheld_eq_nil`, that a context lives only as long as somebody holds it. -/

namespace RobotClient

open Relation (ReflTransGen)

namespace Hub

variable {κ : Type}

theorem contexts_free (p : Hub κ) (id : Nat) :
    (p.free id).contexts = p.contexts.filter (·.id ≠ id) := by
  rcases free_cases p id with ⟨-, heq⟩ | ⟨s, -, -, heq⟩ | ⟨s, t, -, -, -, -, heq⟩ <;> rw [heq]

theorem slot_free (p : Hub κ) (id : Nat) : (p.free id).slot = p.slot := by
  rcases free_cases p id with ⟨-, heq⟩ | ⟨s, -, -, heq⟩ | ⟨s, t, -, -, -, -, heq⟩ <;> rw [heq]

theorem contexts_foldl_free (ids : List Nat) (p : Hub κ) :
    (ids.foldl free p).contexts = p.contexts.filter (·.id ∉ ids) := by
  induction ids generalizing p with
  | nil => simp
  | cons id rest ih =>
    rw [List.foldl_cons, ih, contexts_free, List.filter_filter]
    refine List.filter_congr fun c _ => ?_
    simp only [List.mem_cons, not_or, Bool.decide_and, Bool.and_comm]

theorem slot_foldl_free (ids : List Nat) (p : Hub κ) : (ids.foldl free p).slot = p.slot := by
  induction ids generalizing p with
  | nil => rfl
  | cons id rest ih => rw [List.foldl_cons, ih, slot_free]

/-! ## Numbering -/

theorem Numbered.fresh {p q : Hub κ} (h : p.Numbered)
    (hq : q.contexts = p.contexts ++ [{ id := p.nextId }]) (hn : q.nextId = p.nextId + 1) :
    q.Numbered := by
  refine ⟨?_, fun c hmem => ?_⟩
  · rw [hq, List.map_append, List.nodup_append]
    refine ⟨h.nodup, by simp, fun a ha b hb => ?_⟩
    obtain ⟨c, hc, rfl⟩ := List.mem_map.1 ha
    have := h.lt_nextId c hc
    simp only [List.map_cons, List.map_nil, List.mem_singleton] at hb
    omega
  · rw [hq, List.mem_append, List.mem_singleton] at hmem
    rcases hmem with hmem | rfl
    · have := h.lt_nextId c hmem
      omega
    · exact hn ▸ Nat.lt_succ_self _

theorem Numbered.modified {p q : Hub κ} (h : p.Numbered) {id : Nat}
    (change : Context κ → Context κ) (hq : q.contexts = modifyFirst id change p.contexts)
    (hc : ∀ c, (change c).id = c.id) (hn : q.nextId = p.nextId) :
    q.Numbered :=
  h.of_ids (by rw [hq, map_id_modifyFirst id change hc]) (Nat.le_of_eq hn.symm)

theorem Numbered.act {p q : Hub κ} (h : p.Numbered) (ha : Act p q) : q.Numbered := by
  cases ha with
  | create => exact h.fresh rfl rfl
  | useDefault =>
    rcases defaultContext_cases p with ⟨id, -, -, heq⟩ | ⟨-, heq⟩ <;> rw [heq]
    · exact h
    · exact h.fresh rfl rfl
  | init hi =>
    obtain ⟨c, s, watching, events, -, -, -, ⟨-, -, rfl⟩ | ⟨-, -, -, rfl⟩⟩ := init_cases hi <;>
      exact h.modified (opened s) rfl (fun _ => rfl) rfl
  | releaseDefault id =>
    unfold releaseDefault
    split <;> exact ⟨h.nodup, h.lt_nextId⟩
  | onShutdown id callback =>
    rcases onShutdown_cases p id callback with ⟨-, heq⟩ | ⟨-, heq⟩ <;> rw [heq]
    · exact h
    · exact h.modified (pushed callback) rfl (fun _ => rfl) rfl
  | createNode hc =>
    obtain ⟨arguments, -, -, rfl⟩ := createNode_eq_ok hc
    exact ⟨h.nodup, h.lt_nextId⟩

theorem Numbered.free {p : Hub κ} (h : p.Numbered) (id : Nat) : (p.free id).Numbered := by
  have hn : (p.free id).nextId = p.nextId := by
    rcases free_cases p id with ⟨-, heq⟩ | ⟨s, -, -, heq⟩ | ⟨s, t, -, -, -, -, heq⟩ <;> rw [heq]
  refine ⟨?_, fun c hmem => ?_⟩
  · rw [contexts_free]
    exact h.nodup.sublist (List.filter_sublist.map _)
  · rw [contexts_free] at hmem
    rw [hn]
    exact h.lt_nextId c (List.mem_of_mem_filter hmem)

theorem Numbered.move {p q : Hub κ} (h : p.Numbered) (hm : Move p q) : q.Numbered := by
  cases hm with
  | act ha => exact h.act ha
  | beginShutdown hb =>
    obtain ⟨c, s, -, -, -, ⟨-, rfl⟩ | ⟨t, -, -, -, rfl⟩⟩ := beginShutdown_cases hb <;>
      exact h.modified closed rfl (fun _ => rfl) rfl
  | finishShutdown id => exact ⟨h.nodup, h.lt_nextId⟩
  | free id => exact h.free id
  | takePending => exact ⟨h.nodup, h.lt_nextId⟩
  | deliver signal =>
    rcases deliver_cases p signal with ⟨-, heq⟩ | ⟨label, -, heq⟩ <;> rw [heq] <;>
      exact ⟨h.nodup, h.lt_nextId⟩
  | report _ => exact ⟨h.nodup, h.lt_nextId⟩
  | noteDelivered signal => exact ⟨h.nodup, h.lt_nextId⟩
  | tick clock => exact ⟨h.nodup, h.lt_nextId⟩
  | handle signal label ht => exact ⟨h.nodup, h.lt_nextId⟩

/-- What every change keeps, all of them keep. -/
theorem keeps_of_moves {P : Hub κ → Prop} {p q : Hub κ}
    (moves : ReflTransGen Move p q) (move : ∀ {p q}, P p → Move p q → P q) (h : P p) :
    P q := by
  induction moves with
  | refl => exact h
  | tail _ hm ih => exact move ih hm

theorem Numbered.moves {p q : Hub κ} (h : p.Numbered) (moves : ReflTransGen Move p q) :
    q.Numbered :=
  keeps_of_moves moves (fun h hm => h.move hm) h

end Hub

namespace Machine

/-! ## Runs -/

/-- A machine before anything happened. -/
def fresh (clock : String) (nextId : Nat) (watching : Bool) (interrupt terminate : Nat) : Machine :=
  { hub := { clock, nextId, watching, dispositions := ⟨.host interrupt, .host terminate⟩ } }

/-- What can happen next to a machine. -/
inductive Next (m : Machine) : Machine → Prop where
  | work : Next m m.step
  /-- Somebody calls the library, and reads the replies afterwards. -/
  | call (program : List Op) :
      Next m { m with frames := .script none program [] :: m.frames, finished := [], replies := [] }
  | arrive (signal : Signal) : Next m { m with hub := m.hub.deliver signal }
  | tick (clock : String) : Next m { m with hub := { m.hub with clock } }
  | handle (signal : Signal) (label : Nat) (h : m.hub.table = none) :
      Next m { m with hub :=
        { m.hub with dispositions := m.hub.dispositions.set signal (.host label) } }

/-- A machine that a run can come to. -/
inductive Reachable : Machine → Prop where
  | start (clock : String) (nextId : Nat) (watching : Bool) (interrupt terminate : Nat) :
      Reachable (fresh clock nextId watching interrupt terminate)
  | next {m m' : Machine} (h : Reachable m) (hn : Next m m') : Reachable m'

theorem Reachable.step {m : Machine} (h : m.Reachable) : m.step.Reachable := h.next .work

theorem Reachable.after {m : Machine} (h : m.Reachable) (n : Nat) : (m.after n).Reachable := by
  induction n generalizing m with
  | zero => exact h
  | succ n ih => exact ih h.step

theorem Next.moves {m m' : Machine} (h : Next m m') : ReflTransGen Hub.Move m.hub m'.hub := by
  cases h with
  | work => exact moves_step m
  | call program => exact .refl
  | arrive signal => exact .single (.deliver signal)
  | tick clock => exact .single (.tick clock)
  | handle signal label h => exact .single (.handle signal label h)

/-- A property of hubs holds of every reachable machine if it holds at the start and every change of
    a hub keeps it. -/
theorem Reachable.invariant {P : Hub Callback → Prop} {m : Machine} (h : m.Reachable)
    (start : ∀ clock nextId watching interrupt terminate,
      P (fresh clock nextId watching interrupt terminate).hub)
    (move : ∀ {p q}, P p → Hub.Move p q → P q) : P m.hub := by
  induction h with
  | start => exact start ..
  | next h hn ih => exact Hub.keeps_of_moves hn.moves move ih

theorem Reachable.numbered {m : Machine} (h : m.Reachable) : m.hub.Numbered :=
  h.invariant (fun _ _ _ _ _ => ⟨List.nodup_nil, fun _ h => absurd h List.not_mem_nil⟩)
    fun h hm => h.move hm

/-! ## Holding -/

theorem held_collect (m : Machine) (id : Nat) : m.collect.held id = m.held id := by
  simp only [held, collect, Hub.slot_foldl_free]

/-- What is left after a collection is held. -/
theorem unheld_collect (m : Machine) : m.collect.unheld = [] := by
  refine List.filter_eq_nil_iff.2 fun id hmem => ?_
  rw [held_collect]
  simp only [collect, Hub.contexts_foldl_free, List.mem_map, List.mem_filter,
    decide_eq_true_eq] at hmem
  obtain ⟨c, ⟨hc, hheld⟩, rfl⟩ := hmem
  simp only [unheld, List.mem_filter, List.mem_map, not_and] at hheld
  simpa using hheld ⟨c, hc, rfl⟩

theorem collect_eq_self {m : Machine} (h : m.unheld = []) : m.collect = m := by
  simp [collect, h]

theorem unheld_step {m : Machine} (h : m.unheld = []) : m.step.unheld = [] := by
  unfold step
  split
  · exact h
  · exact unheld_collect _

/-- Between two steps every context is held: by a name, a node, the slot, or work that is going
    on. -/
theorem Reachable.unheld_eq_nil {m : Machine} (h : m.Reachable) : m.unheld = [] := by
  induction h with
  | start => rfl
  | @next m m' _ hn ih =>
    cases hn with
    | work => exact unheld_step ih
    | call program => exact ih
    | arrive signal =>
      have hs : (m.hub.deliver signal).slot = m.hub.slot := by
        rcases Hub.deliver_cases m.hub signal with ⟨-, heq⟩ | ⟨label, -, heq⟩ <;> rw [heq]
      have hheld : ({ m with hub := m.hub.deliver signal } : Machine).held = m.held := by
        funext id
        simp only [held, hs]
      simpa only [unheld, Hub.contexts_deliver, hheld] using ih
    | tick clock => exact ih
    | handle signal label h => exact ih

theorem Reachable.held_of_mem {m : Machine} (h : m.Reachable) {c : Context Callback}
    (hc : c ∈ m.hub.contexts) : m.held c.id = true := by
  by_contra hheld
  have hmem : c.id ∈ m.unheld :=
    List.mem_filter.2 ⟨List.mem_map_of_mem hc, by simpa using hheld⟩
  rw [h.unheld_eq_nil] at hmem
  exact absurd hmem List.not_mem_nil

theorem unheld_eq_nil_iff {m : Machine} :
    m.unheld = [] ↔ ∀ c ∈ m.hub.contexts, m.held c.id = true := by
  simp [unheld, List.filter_eq_nil_iff]

/-- A machine in which as much is held and no context is new frees nothing. -/
theorem Reachable.collect_eq_self {m r : Machine} (h : m.Reachable)
    (hcontexts : r.hub.contexts = m.hub.contexts)
    (hheld : ∀ id, m.held id = true → r.held id = true) : r.collect = r := by
  refine Machine.collect_eq_self (unheld_eq_nil_iff.2 fun c hc => ?_)
  exact hheld c.id (h.held_of_mem (hcontexts ▸ hc))

/-- A step that lets go of nothing is what its frame does. -/
theorem Reachable.step_eq {m r : Machine} {f : Frame} {below : List Frame} (h : m.Reachable)
    (hframes : m.frames = f :: below)
    (hadvance : ({ m with frames := below } : Machine).advance f = r)
    (hcontexts : r.hub.contexts = m.hub.contexts)
    (hheld : ∀ id, m.held id = true → r.held id = true) : m.step = r :=
  (step_of_advance hframes hadvance).trans (h.collect_eq_self hcontexts hheld)

end Machine
end RobotClient
