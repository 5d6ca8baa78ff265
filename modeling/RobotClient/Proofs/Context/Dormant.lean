import RobotClient.Proofs.Context.Ownership

set_option autoImplicit false

/-! # Nothing is initialized by itself

As long as nothing is initialized, only an initialization changes that. So work in which no
initialization waits (`Op.opens`), neither in what is left of a program nor in a callback that it
registers, ends as it began. Main statement: `dormant_settle`. -/

namespace RobotClient

/-! ## Initializations that wait -/

mutual

/-- Whether an operation initializes a context, or a callback does that it registers. -/
def Op.opens : Op → Bool
  | .init .. => true
  | .race _ (.init _) _ => true
  | .onShutdown _ _ body => Op.opensAny body
  | _ => false

/-- Whether an operation of a program initializes a context. -/
def Op.opensAny : List Op → Bool
  | [] => false
  | op :: rest => op.opens || Op.opensAny rest

end

/-- Whether a callback initializes a context. -/
def Callback.opens (callback : Callback) : Bool := Op.opensAny callback.body

/-- Whether what is left of a frame initializes a context. -/
def Frame.opens : Frame → Bool
  | .script _ rest _ => Op.opensAny rest
  | .shutting _ callbacks => callbacks.any Callback.opens
  | .racing _ (.init _) _ _ => true
  | _ => false

namespace Hub

variable {κ : Type} {p q : Hub κ}

/-- Whether no context is initialized. -/
def Dormant (p : Hub κ) : Prop := ∀ id, p.session? id = none

theorem dormant_iff : p.Dormant ↔ ∀ id, p.isInitialized id = false := by
  simp only [Dormant, isInitialized, Option.isSome_eq_false_iff, Option.isNone_iff_eq_none]

theorem Dormant.congr (h : p.Dormant) (hs : ∀ id, q.session? id = p.session? id) : q.Dormant :=
  fun id => (hs id).trans (h id)

theorem session?_of_contexts (h : q.contexts = p.contexts) (id : Nat) :
    q.session? id = p.session? id := by
  rw [session?, phase_congr (find?_of_contexts h id), session?]

theorem Dormant.free (h : p.Dormant) (id : Nat) : (p.free id).Dormant := by
  intro j
  rw [session?_of_filtered (contexts_free p id)]
  split
  · rfl
  · exact h j

theorem Dormant.foldl_free (h : p.Dormant) (ids : List Nat) : (ids.foldl Hub.free p).Dormant := by
  induction ids generalizing p with
  | nil => exact h
  | cons id rest ih => exact ih (h.free id)

theorem Dormant.beginShutdown_eq (h : p.Dormant) (id : Nat) :
    p.beginShutdown id = .error .notInitialized := by
  rw [beginShutdown, h id]

/-- If nothing is initialized, nobody owns the handlers. -/
theorem Dormant.table_eq_none (h : p.Dormant) (ho : p.Owned) : p.table = none := by
  cases htable : p.table with
  | none => rfl
  | some t =>
    obtain ⟨-, s, hsession, -⟩ := ho.session t htable
    exact absurd ((h t.owner).symm.trans hsession) (by simp)

end Hub

namespace Machine

variable {m : Machine}

/-- Whether nothing is initialized, and no initialization waits in the work that is going on. -/
structure Asleep (m : Machine) : Prop where
  numbered : m.hub.Numbered
  hub : m.hub.Dormant
  frames : ∀ f ∈ m.frames, f.opens = false

/-! ## What an operation does -/

/-- A change of the hub that leaves the sessions alone. -/
theorem Asleep.change (h : m.Asleep) {q : Hub Callback} (hn : q.Numbered)
    (hs : ∀ id, q.session? id = m.hub.session? id) (handles : List (String × Nat))
    (nodes : List (String × Node)) : Asleep { m with hub := q, handles, nodes } :=
  ⟨hn, h.hub.congr hs, h.frames⟩

/-- A change of the hub that leaves the contexts alone. -/
theorem Asleep.keep (h : m.Asleep) {q : Hub Callback} (hcontexts : q.contexts = m.hub.contexts)
    (hnext : q.nextId = m.hub.nextId) (handles : List (String × Nat))
    (nodes : List (String × Node)) : Asleep { m with hub := q, handles, nodes } :=
  h.change (h.numbered.of_ids (by rw [hcontexts]) (Nat.le_of_eq hnext.symm))
    (Hub.session?_of_contexts hcontexts) handles nodes

theorem Asleep.push (h : m.Asleep) {f : Frame} (hf : f.opens = false) :
    Asleep { m with frames := f :: m.frames } :=
  ⟨h.numbered, h.hub, List.forall_mem_cons.2 ⟨hf, h.frames⟩⟩

theorem Asleep.answer (h : m.Asleep) (reply : Reply) : (m.answer reply).Asleep := by
  rw [answer_eq]
  refine ⟨h.numbered, h.hub, ?_⟩
  intro f hf
  change f ∈ answered reply m.frames at hf
  cases hframes : m.frames with
  | nil => exact absurd (hframes ▸ hf) List.not_mem_nil
  | cons g below =>
    obtain ⟨hg, hbelow⟩ := List.forall_mem_cons.1 (hframes ▸ h.frames)
    rw [hframes] at hf
    cases g with
    | script label rest replies =>
      rcases List.mem_cons.1 hf with rfl | hf
      · exact hg
      · exact hbelow f hf
    | racing target call rest replies =>
      rcases List.mem_cons.1 hf with rfl | hf
      · cases call <;> exact hg
      · exact hbelow f hf
    | _ => exact h.frames f (hframes ▸ hf)

theorem Asleep.withHandle (h : m.Asleep) (handle : String) {act : Nat → Machine}
    (hact : ∀ id, (act id).Asleep) : (m.withHandle handle act).Asleep := by
  unfold Machine.withHandle
  split
  · exact hact _
  · exact h.answer _

theorem Asleep.withTarget (h : m.Asleep) (target : Option String) {act : Option Nat → Machine}
    (hact : ∀ id, (act id).Asleep) : (m.withTarget target act).Asleep := by
  unfold Machine.withTarget
  split
  · exact h.withHandle _ fun id => hact _
  · exact hact _

/-- The default context that is made if need be is not initialized. -/
theorem Asleep.about (h : m.Asleep) (target : Option Nat) :
    Asleep { m with hub := (m.hub.about target).2 } := by
  cases target with
  | some id => exact h
  | none =>
    change Asleep { m with hub := m.hub.defaultContext.2 }
    rcases Hub.defaultContext_cases m.hub with ⟨id, -, -, heq⟩ | ⟨-, heq⟩ <;> rw [heq]
    · exact h
    · exact h.change (h.numbered.fresh rfl rfl) (Hub.session?_of_fresh h.numbered rfl) _ _

theorem Asleep.startShutdown (h : m.Asleep) (target : Option Nat) (tolerant : Bool)
    (reply : Reply) : (m.startShutdown target tolerant reply).Asleep := by
  unfold Machine.startShutdown
  split
  · exact h.answer _
  · next id _ =>
    rw [h.hub.beginShutdown_eq id]
    exact h.answer _

theorem Asleep.createNode (h : m.Asleep) (target : Option Nat) (name ns : String)
    (keepAs : Option String) : (m.createNode target name ns keepAs).Asleep := by
  have habout := h.about target
  rw [Machine.createNode, contextFor_about]
  have harguments : (m.hub.about target).2.arguments (m.hub.about target).1
      = .error .notInitialized := by
    rw [Hub.arguments, habout.hub (m.hub.about target).1]
  simp only [Hub.createNode, harguments]
  exact habout.answer _

/-- A callback that is registered too late runs at once. -/
theorem Asleep.onShutdown (h : m.Asleep) (id : Nat) {callback : Callback}
    (hcallback : callback.opens = false) :
    Asleep (match m.hub.onShutdown id callback with
      | (none, hub) => { m with hub }.answer (.ok .done)
      | (some callback, hub) =>
        { m with
          hub
          frames := .script (some callback.label) callback.body [] :: .returning (.ok .done)
            :: m.frames }) := by
  rcases Hub.onShutdown_cases m.hub id callback with ⟨-, heq⟩ | ⟨-, heq⟩ <;> rw [heq]
  · exact (h.push (f := .returning (.ok .done)) rfl).push hcallback
  · let pushed : Hub Callback :=
      { m.hub with contexts := Hub.modifyFirst id (Hub.pushed callback) m.hub.contexts }
    have hnumbered : pushed.Numbered :=
      h.numbered.modified (Hub.pushed callback) rfl (fun _ => rfl) rfl
    have hsession : ∀ j, pushed.session? j = m.hub.session? j := Hub.session?_of_pushed rfl
    exact (h.change hnumbered hsession m.handles m.nodes).answer _

theorem Asleep.startDispatch (h : m.Asleep) (before : Option Nat) :
    (m.startDispatch before).Asleep := by
  unfold Machine.startDispatch
  split
  · exact h.answer _
  · next signal _ =>
    exact Asleep.push (f := .dispatching signal _ 0 before)
      (h.keep (q := { m.hub with pending := none }) rfl rfl m.handles m.nodes) rfl

theorem Asleep.raise (h : m.Asleep) (signal : Signal) : (m.raise signal).Asleep := by
  have hdelivered : Asleep { m with hub := m.hub.deliver signal } :=
    h.keep (Hub.contexts_deliver m.hub signal) (Hub.nextId_deliver m.hub signal) m.handles m.nodes
  unfold Machine.raise
  split
  · exact h.answer _
  · split
    · exact hdelivered.answer _
    · split
      · exact h.answer _
      · exact hdelivered.startDispatch _

/-- **An operation that initializes nothing** leaves nothing initialized. -/
theorem Asleep.execute (h : m.Asleep) {op : Op} (hop : op.opens = false) :
    (m.execute op).Asleep := by
  cases op with
  | create handle =>
    exact Asleep.answer
      (h.change (h.numbered.fresh rfl rfl) (Hub.session?_of_fresh h.numbered rfl) _ _) _
  | clone source handle =>
    exact h.withHandle _ fun id => Asleep.answer (h.keep rfl rfl _ m.nodes) _
  | drop handle => exact Asleep.answer (h.keep rfl rfl _ m.nodes) _
  | useDefault handle =>
    simp only [Machine.execute, contextFor_about]
    exact Asleep.answer ((h.about none).keep rfl rfl _ m.nodes) _
  | ask question handle => exact h.withHandle _ fun id => h.answer _
  | init target keepAs o => exact absurd hop (by simp [Op.opens])
  | shutdown target tolerant => exact h.withTarget _ fun id => h.startShutdown id tolerant _
  | shutdownAwaited handle =>
    refine h.withHandle _ fun id => ?_
    split
    · exact h.startShutdown ..
    · exact h.answer _
  | race target call count =>
    cases call with
    | init o => exact absurd hop (by simp [Op.opens])
    | shutdown => exact h.withTarget _ fun id => h.push (f := .racing id .shutdown count []) rfl
  | onShutdown handle label body =>
    have hbody : (Callback.mk label body).opens = false := hop
    exact h.withHandle _ fun id => h.onShutdown id hbody
  | createNode target name ns keepAs => exact h.withTarget _ fun id => h.createNode id name ns keepAs
  | nodeInfo node =>
    simp only [Machine.execute]
    split <;> exact h.answer _
  | dropNode node => exact Asleep.answer (h.keep rfl rfl m.handles _) _
  | raise signal => exact h.raise signal
  | takePending =>
    exact Asleep.answer (h.keep (q := { m.hub with pending := none }) rfl rfl m.handles m.nodes) _
  | dispatch => exact h.startDispatch none
  | _ => exact h.answer _

theorem Concluded.asleep {signal : Signal} {before : Option Nat} {r : Machine}
    (hc : Concluded m signal before r) (h : m.Asleep) : r.Asleep := by
  cases hc with
  | @report event next he =>
    exact Asleep.push (f := .concluding next signal before)
      (h.keep (q := m.hub.emit event) rfl rfl m.handles m.nodes) rfl
  | raise =>
    have hdelivered : Asleep { m with hub := m.hub.deliver signal } :=
      h.keep (Hub.contexts_deliver m.hub signal) (Hub.nextId_deliver m.hub signal) m.handles m.nodes
    exact hdelivered.push (f := .concluding .record signal before) rfl
  | record reply =>
    exact Asleep.answer (h.keep (q := m.hub.noteDelivered signal) rfl rfl m.handles m.nodes) reply

/-! ## Steps and runs -/

theorem Asleep.advance (h : m.Asleep) {f : Frame} (hf : f.opens = false) :
    (m.advance f).Asleep := by
  fun_cases Machine.advance m f with
  | case1 label op rest replies =>
    obtain ⟨hop, hrest⟩ := Bool.or_eq_false_iff.1 hf
    exact (h.push (f := .script label rest replies) hrest).execute hop
  | case2 label replies => exact ⟨h.numbered, h.hub, h.frames⟩
  | case3 replies => exact ⟨h.numbered, h.hub, h.frames⟩
  | case4 id callback rest =>
    obtain ⟨hcallback, hrest⟩ := Bool.or_eq_false_iff.1 hf
    exact (h.push (f := .shutting id rest) hrest).push hcallback
  | case5 id => exact h.keep (q := m.hub.finishShutdown id) rfl rfl m.handles m.nodes
  | case6 id =>
    refine h.keep (Hub.contexts_releaseDefault m.hub id) ?_ m.handles m.nodes
    unfold Hub.releaseDefault
    split <;> rfl
  | case7 reply => exact h.answer _
  | case8 signal id rest count before e hb => exact h.push rfl
  | case9 signal id rest count before callbacks hub hb =>
    exact absurd ((h.hub.beginShutdown_eq id).symm.trans hb) (by simp)
  | case10 signal count before => exact (concluded_line m signal count before).asleep h
  | case11 next signal before => exact (concluded_conclude m signal before next).asleep h
  | case12 target call rest replies =>
    cases call with
    | init o => exact absurd hf (by simp [Frame.opens])
    | shutdown => exact (h.push (f := .racing target .shutdown rest replies) rfl).startShutdown ..
  | case13 target call replies => exact h.answer _

theorem Asleep.step (h : m.Asleep) : m.step.Asleep := by
  unfold Machine.step
  split
  · exact h
  · next f below hframes =>
    obtain ⟨hf, hbelow⟩ := List.forall_mem_cons.1 (hframes ▸ h.frames)
    have hrest : Asleep { m with frames := below } := ⟨h.numbered, h.hub, hbelow⟩
    have hadvanced := hrest.advance hf
    exact ⟨hadvanced.numbered.moves (moves_foldl_free ..), hadvanced.hub.foldl_free _,
      hadvanced.frames⟩

/-- **Work in which no initialization waits** leaves nothing initialized. -/
theorem dormant_settle (h : m.Asleep) : m.settle.hub.Dormant := by
  fun_induction settle m with
  | case1 m hdone => exact h.hub
  | case2 m hwork ih => exact ih h.step

end Machine
end RobotClient
