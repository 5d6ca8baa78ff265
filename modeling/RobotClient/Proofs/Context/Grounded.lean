import RobotClient.Proofs.Context.Moment

set_option autoImplicit false

/-! # What a machine names exists

A name, a node or the slot holds its context, and so does the work that goes on with it. So whatever
a machine holds is there (`Grounded`), not only the other way round. Besides, a shutdown whose
callbacks run is one that has happened: its context is shut down, and so is the one that is about to
leave the slot. Main statement: `Reachable.grounded`. -/

namespace RobotClient

open Relation (ReflTransGen)

/-! ## Nothing goes away -/

namespace Hub

variable {κ : Type} {p q : Hub κ} {id : Nat}

/-- What every change but freeing has in common: contexts that exist stay, and what comes into the
    slot exists. -/
structure Extends (p q : Hub κ) : Prop where
  stay : ∀ id, (p.find? id).isSome = true → (q.find? id).isSome = true
  slot : ∀ id, q.slot = some id → p.slot = some id ∨ (q.find? id).isSome = true

theorem Extends.refl (p : Hub κ) : Extends p p := ⟨fun _ h => h, fun _ h => .inl h⟩

theorem Extends.trans {r : Hub κ} (h : Extends p q) (h' : Extends q r) : Extends p r := by
  refine ⟨fun id hid => h'.stay id (h.stay id hid), fun id hid => ?_⟩
  rcases h'.slot id hid with hid | hid
  · exact (h.slot id hid).imp_right (h'.stay id)
  · exact .inr hid

/-- The ids of the contexts tell what exists. -/
theorem Extends.of_ids (hids : ∀ id ∈ p.contexts.map (·.id), id ∈ q.contexts.map (·.id))
    (hslot : ∀ id, q.slot = some id → p.slot = some id ∨ id ∈ q.contexts.map (·.id)) :
    Extends p q :=
  ⟨fun id hid => find?_isSome_iff.2 (hids id (find?_isSome_iff.1 hid)),
    fun id hid => (hslot id hid).imp_right find?_isSome_iff.2⟩

theorem Extends.of_modified (change : Context κ → Context κ) (hc : ∀ c, (change c).id = c.id)
    (hq : q.contexts = modifyFirst id change p.contexts) (hslot : q.slot = p.slot) :
    Extends p q := by
  refine .of_ids (fun j hj => ?_) fun _ hj => .inl (hslot ▸ hj)
  rwa [hq, map_id_modifyFirst id change hc]

theorem Extends.of_contexts (hcontexts : q.contexts = p.contexts) (hslot : q.slot = p.slot) :
    Extends p q :=
  .of_ids (fun _ hj => hcontexts ▸ hj) fun _ hj => .inl (hslot ▸ hj)

theorem Extends.act (h : Act p q) : Extends p q := by
  cases h with
  | create => exact .of_ids (fun j hj => by simp [create, hj]) fun j hj => .inl hj
  | useDefault =>
    rcases defaultContext_cases p with ⟨id, -, -, heq⟩ | ⟨-, heq⟩ <;> rw [heq]
    · exact .refl p
    · refine .of_ids (fun j hj => by simp [hj]) fun j hj => .inr ?_
      obtain rfl : p.nextId = j := Option.some.inj hj
      simp
  | @init id o q hi =>
    obtain ⟨c, s, watching, events, -, -, -, ⟨-, -, rfl⟩ | ⟨-, -, -, rfl⟩⟩ := init_cases hi <;>
      exact .of_modified (opened s) (fun _ => rfl) rfl rfl
  | releaseDefault id =>
    unfold Hub.releaseDefault
    split
    · exact ⟨fun _ h => h, fun j hj => absurd hj (by simp)⟩
    · exact .refl p
  | onShutdown id callback =>
    rcases onShutdown_cases p id callback with ⟨-, heq⟩ | ⟨-, heq⟩ <;> rw [heq]
    · exact .refl p
    · exact .of_modified (pushed callback) (fun _ => rfl) rfl rfl
  | createNode hc =>
    obtain ⟨arguments, -, -, rfl⟩ := createNode_eq_ok hc
    exact .of_contexts rfl rfl

theorem Extends.acts (h : ReflTransGen Act p q) : Extends p q := by
  induction h with
  | refl => exact .refl p
  | tail _ ha ih => exact ih.trans (.act ha)

theorem Extends.beginShutdown {callbacks : List κ} (h : p.beginShutdown id = .ok (callbacks, q)) :
    Extends p q := by
  obtain ⟨c, -, -, hcontexts, hslot, -⟩ := beginShutdown_closed h
  exact .of_modified closed (fun _ => rfl) hcontexts hslot

theorem slot_deliver (p : Hub κ) (signal : Signal) : (p.deliver signal).slot = p.slot := by
  rcases deliver_cases p signal with ⟨-, heq⟩ | ⟨label, -, heq⟩ <;> rw [heq]

theorem Extends.deliver (p : Hub κ) (signal : Signal) : Extends p (p.deliver signal) :=
  .of_contexts (contexts_deliver p signal) (slot_deliver p signal)

/-! ## Nothing comes back -/

theorem isSome_of_ids (hids : ∀ id ∈ q.contexts.map (·.id), id ∈ p.contexts.map (·.id))
    (h : (q.find? id).isSome = true) : (p.find? id).isSome = true :=
  find?_isSome_iff.2 (hids id (find?_isSome_iff.1 h))

theorem isSome_of_modified (change : Context κ → Context κ) {j : Nat}
    (hq : q.contexts = modifyFirst j change p.contexts) (hc : ∀ c, (change c).id = c.id)
    (h : (q.find? id).isSome = true) : (p.find? id).isSome = true := by
  refine isSome_of_ids (fun i hi => ?_) h
  rwa [hq, map_id_modifyFirst j change hc] at hi

theorem isSome_of_fresh (hq : q.contexts = p.contexts ++ [{ id := p.nextId }])
    (h : (q.find? id).isSome = true) : (p.find? id).isSome = true ∨ p.nextId ≤ id := by
  rw [find?_isSome_iff, hq, List.map_append, List.mem_append, ← find?_isSome_iff] at h
  refine h.imp_right fun hid => ?_
  rw [List.map_singleton, List.mem_singleton] at hid
  exact Nat.le_of_eq hid.symm

theorem Act.isSome (ha : Act p q) (h : (q.find? id).isSome = true) :
    (p.find? id).isSome = true ∨ p.nextId ≤ id := by
  cases ha with
  | create => exact isSome_of_fresh rfl h
  | useDefault =>
    rcases defaultContext_cases p with ⟨j, -, -, heq⟩ | ⟨-, heq⟩ <;> rw [heq] at h
    · exact .inl h
    · exact isSome_of_fresh rfl h
  | init hi =>
    obtain ⟨c, s, watching, events, -, -, -, ⟨-, -, rfl⟩ | ⟨-, -, -, rfl⟩⟩ := init_cases hi <;>
      exact .inl (isSome_of_modified (opened s) rfl (fun _ => rfl) h)
  | releaseDefault j =>
    unfold Hub.releaseDefault at h
    split at h <;> exact .inl h
  | onShutdown j callback =>
    rcases onShutdown_cases p j callback with ⟨-, heq⟩ | ⟨-, heq⟩ <;> rw [heq] at h
    · exact .inl h
    · exact .inl (isSome_of_modified (pushed callback) rfl (fun _ => rfl) h)
  | createNode hc =>
    obtain ⟨arguments, -, -, rfl⟩ := createNode_eq_ok hc
    exact .inl h

/-- A context that exists existed before or is new. -/
theorem Move.isSome (hm : Move p q) (h : (q.find? id).isSome = true) :
    (p.find? id).isSome = true ∨ p.nextId ≤ id := by
  cases hm with
  | act ha => exact ha.isSome h
  | beginShutdown hb =>
    obtain ⟨c, -, -, hcontexts, -⟩ := beginShutdown_closed hb
    exact .inl (isSome_of_modified closed hcontexts (fun _ => rfl) h)
  | free j =>
    rw [find?_of_filtered (contexts_free p j)] at h
    split at h
    · exact absurd h (by simp)
    · exact .inl h
  | deliver signal => exact .inl (by rwa [find?_of_contexts (contexts_deliver p signal)] at h)
  | report _ => exact .inl h
  | noteDelivered signal => exact .inl h
  | finishShutdown j => exact .inl h
  | takePending => exact .inl h
  | tick clock => exact .inl h
  | handle signal label htable => exact .inl h

theorem isSome_of_moves (moves : ReflTransGen Move p q) (h : (q.find? id).isSome = true) :
    (p.find? id).isSome = true ∨ p.nextId ≤ id := by
  induction moves with
  | refl => exact .inl h
  | tail moves hm ih =>
    rcases hm.isSome h with h | hnew
    · exact ih h
    · exact .inr (Nat.le_trans (nextId_le_of_moves moves) hnew)

end Hub

/-! ## Frames -/

/-- Whether the contexts that a frame names are there, and shut down if their shutdown goes on. -/
def Frame.Grounded (p : Hub Callback) : Frame → Prop
  | .shutting id _ => (p.find? id).isSome = true ∧ p.phase id = .shutdown
  | .releasing id => id < p.nextId ∧ p.phase id = .shutdown
  | .dispatching _ line _ _ => ∀ id ∈ line, (p.find? id).isSome = true
  | .racing target _ _ _ => ∀ id, target = some id → id < p.nextId
  | .script .. | .returning _ | .concluding .. => True

namespace Hub

theorem lt_nextId_of_isSome {κ : Type} {p : Hub κ} {id : Nat} (hn : p.Numbered)
    (h : (p.find? id).isSome = true) : id < p.nextId := by
  obtain ⟨c, hc⟩ := Option.isSome_iff_exists.1 h
  exact lt_nextId_of_find? hn hc

end Hub

/-- A frame stays grounded as long as the contexts that it holds stay. -/
theorem Frame.Grounded.moves {p q : Hub Callback} {f : Frame} (h : f.Grounded p)
    (hn : p.Numbered) (moves : ReflTransGen Hub.Move p q)
    (stay : ∀ id, Machine.Frame.holds id f = true → (p.find? id).isSome = true →
      (q.find? id).isSome = true) :
    f.Grounded q := by
  cases f with
  | script label rest replies => trivial
  | shutting id callbacks =>
    obtain ⟨hid, hphase⟩ := h
    exact ⟨stay id (by simp [Machine.Frame.holds]) hid,
      Hub.shutdown_of_moves moves hn (Hub.lt_nextId_of_isSome hn hid) hphase⟩
  | releasing id =>
    exact ⟨Nat.lt_of_lt_of_le h.1 (Hub.nextId_le_of_moves moves),
      Hub.shutdown_of_moves moves hn h.1 h.2⟩
  | returning reply => trivial
  | concluding next signal before => trivial
  | dispatching signal line count before =>
    exact fun id hid => stay id (by simpa [Machine.Frame.holds] using hid) (h id hid)
  | racing target call rest replies =>
    exact fun id hid => Nat.lt_of_lt_of_le (h id hid) (Hub.nextId_le_of_moves moves)

namespace Machine

variable {m r : Machine}

/-- Whatever a machine names is there. -/
structure Grounded (m : Machine) : Prop where
  handles : ∀ entry ∈ m.handles, (m.hub.find? entry.2).isSome = true
  nodes : ∀ entry ∈ m.nodes, (m.hub.find? entry.2.context).isSome = true
  slot : ∀ id, m.hub.slot = some id → (m.hub.find? id).isSome = true
  frames : ∀ f ∈ m.frames, f.Grounded m.hub

theorem grounded_answered {p : Hub Callback} {frames : List Frame}
    (h : ∀ f ∈ frames, f.Grounded p) (reply : Reply) :
    ∀ f ∈ answered reply frames, f.Grounded p := by
  cases frames with
  | nil => exact h
  | cons g below =>
    obtain ⟨hg, hbelow⟩ := List.forall_mem_cons.1 h
    cases g with
    | script label rest replies => exact List.forall_mem_cons.2 ⟨trivial, hbelow⟩
    | racing target call rest replies => exact List.forall_mem_cons.2 ⟨hg, hbelow⟩
    | _ => exact h

/-- Changes of the hub that let nothing go away, with names that are known and more frames. -/
theorem Grounded.extend (h : m.Grounded) (hn : m.hub.Numbered) {hub : Hub Callback}
    {handles : List (String × Nat)} {nodes : List (String × Node)}
    (moves : ReflTransGen Hub.Move m.hub hub) (extends' : Hub.Extends m.hub hub)
    (known : Known m hub handles nodes) (new : List Frame) (hnew : ∀ f ∈ new, f.Grounded hub) :
    Grounded { m with hub, handles, nodes, frames := new ++ m.frames } where
  handles entry hentry := by
    rcases known.handles entry hentry with ⟨name, hname⟩ | hid
    · exact extends'.stay entry.2 (h.handles (name, entry.2) hname)
    · exact hid
  nodes entry hentry := by
    rcases known.nodes entry hentry with hold | hid
    · exact extends'.stay _ (h.nodes entry hold)
    · exact hid
  slot id hid := by
    rcases extends'.slot id hid with hold | hnew
    · exact extends'.stay id (h.slot id hold)
    · exact hnew
  frames f hf := by
    rcases List.mem_append.1 hf with hf | hf
    · exact hnew f hf
    · exact (h.frames f hf).moves hn moves fun id _ => extends'.stay id

theorem Grounded.answer (h : m.Grounded) (reply : Reply) : (m.answer reply).Grounded := by
  rw [answer_eq]
  exact ⟨h.handles, h.nodes, h.slot, grounded_answered h.frames reply⟩

/-- An answer after changes of the hub that let nothing go away. -/
theorem Grounded.extend_answer (h : m.Grounded) (hn : m.hub.Numbered) {hub : Hub Callback}
    {handles : List (String × Nat)} {nodes : List (String × Node)}
    (moves : ReflTransGen Hub.Move m.hub hub) (extends' : Hub.Extends m.hub hub)
    (known : Known m hub handles nodes) (reply : Reply) :
    ({ m with hub, handles, nodes }.answer reply).Grounded :=
  Grounded.answer (h.extend hn moves extends' known [] fun _ hf => absurd hf List.not_mem_nil) reply

theorem grounded_shutting {p q : Hub Callback} {id : Nat} {callbacks : List Callback}
    (h : p.beginShutdown id = .ok (callbacks, q)) : (Frame.shutting id callbacks).Grounded q := by
  obtain ⟨c, hc, -, hcontexts, -⟩ := Hub.beginShutdown_closed h
  refine ⟨(Hub.Extends.beginShutdown h).stay id (by rw [hc]; rfl), ?_⟩
  rw [Hub.phase_of_closed hcontexts hc, if_pos rfl]

theorem Called.grounded (hcalled : Called m r) (h : m.Grounded) (hn : m.hub.Numbered) :
    r.Grounded := by
  cases hcalled with
  | answer handles nodes reply acts known =>
    exact h.extend_answer hn (Hub.acts_moves acts) (.acts acts) known reply
  | @shut id callbacks hub releasing reply hb hr =>
    have hshutting := grounded_shutting hb
    have hlt := Hub.lt_nextId_of_isSome (hn.move (.beginShutdown hb)) hshutting.1
    have extended := h.extend hn (.single (.beginShutdown hb)) (.beginShutdown hb)
      (.same m hub) (.shutting id callbacks :: (releasing ++ [.returning reply])) ?_
    · simpa using extended
    · refine List.forall_mem_cons.2 ⟨hshutting, fun f hf => ?_⟩
      rcases List.mem_append.1 hf with hf | hf
      · rw [hr f hf]
        exact ⟨hlt, hshutting.2⟩
      · rw [List.mem_singleton.1 hf]
        trivial

theorem grounded_line (p : Hub Callback) (signal : Signal) (before : Option Nat) :
    (Frame.dispatching signal p.liveContexts 0 before).Grounded { p with pending := none } :=
  fun id (hid : id ∈ p.liveContexts) => (List.mem_filter.1 hid).2

theorem Outcome.grounded {op : Op} (houtcome : Outcome m op r) (h : m.Grounded)
    (hn : m.hub.Numbered) :
    r.Grounded := by
  cases houtcome with
  | called hcalled => exact hcalled.grounded h hn
  | call callback => exact h.extend hn .refl (.refl _) (.same m _) [_, _] (by simp [Frame.Grounded])
  | race target call count known =>
    refine h.extend hn .refl (.refl _) (.same m _) [_] (List.forall_mem_singleton.2 ?_)
    intro id hid
    obtain ⟨name, hname⟩ := known id hid
    exact Hub.lt_nextId_of_isSome hn (h.handles _ hname)
  | takePending reply =>
    exact h.extend_answer hn (.single .takePending) (.of_contexts rfl rfl) (.same m _) reply
  | dispatch hp =>
    exact h.extend hn (.single .takePending) (.of_contexts rfl rfl) (.same m _) [_]
      (List.forall_mem_singleton.2 (grounded_line m.hub _ _))
  | host signal reply hc hd =>
    exact h.extend_answer hn (.single (.deliver signal)) (.deliver m.hub signal) (.same m _) reply
  | caught hd hc =>
    exact h.extend hn (.single .takePending) (.of_contexts rfl rfl) (.same m _) [_]
      (List.forall_mem_singleton.2 (grounded_line m.hub _ _))

theorem Concluded.grounded {signal : Signal} {before : Option Nat}
    (hc : Concluded m signal before r) (h : m.Grounded) (hn : m.hub.Numbered) : r.Grounded := by
  cases hc with
  | report next he =>
    exact h.extend hn (.single (.report he)) (.of_contexts rfl rfl) (.same m _) [_]
      (List.forall_mem_singleton.2 trivial)
  | raise =>
    exact h.extend hn (.single (.deliver signal)) (.deliver m.hub signal) (.same m _) [_]
      (List.forall_mem_singleton.2 trivial)
  | record reply =>
    exact h.extend_answer hn (.single (.noteDelivered signal)) (.of_contexts rfl rfl) (.same m _)
      reply

/-! ## Steps -/

theorem Grounded.advance (h : m.Grounded) (hn : m.hub.Numbered) {f : Frame}
    (hf : f.Grounded m.hub) : (m.advance f).Grounded := by
  have onto : ∀ {g : Frame}, g.Grounded m.hub → Grounded { m with frames := g :: m.frames } :=
    fun hg => ⟨h.handles, h.nodes, h.slot, List.forall_mem_cons.2 ⟨hg, h.frames⟩⟩
  fun_cases Machine.advance m f with
  | case1 label op rest replies =>
    exact (outcome_execute _ op).grounded (onto (g := .script label rest replies) trivial) hn
  | case2 label replies => exact ⟨h.handles, h.nodes, h.slot, h.frames⟩
  | case3 replies => exact ⟨h.handles, h.nodes, h.slot, h.frames⟩
  | case4 id callback rest =>
    exact h.extend hn .refl (.refl _) (.same m _) [_, _]
      (List.forall_mem_cons.2 ⟨trivial, List.forall_mem_singleton.2 hf⟩)
  | case5 id =>
    exact h.extend hn (.single (.finishShutdown id)) (.of_contexts rfl rfl) (.same m _) []
      fun g hg => absurd hg List.not_mem_nil
  | case6 id =>
    have act := Hub.Act.releaseDefault (p := m.hub) id
    exact h.extend hn (.single (.act act)) (.act act) (.same m _) []
      fun g hg => absurd hg List.not_mem_nil
  | case7 reply => exact h.answer reply
  | case8 signal id rest count before e he =>
    exact onto fun j hj => hf j (List.mem_cons_of_mem _ hj)
  | case9 signal id rest count before callbacks hub hb =>
    refine h.extend hn (.single (.beginShutdown hb)) (.beginShutdown hb) (.same m _) [_, _] ?_
    refine List.forall_mem_cons.2 ⟨grounded_shutting hb, List.forall_mem_singleton.2 ?_⟩
    exact fun j hj => (Hub.Extends.beginShutdown hb).stay j (hf j (List.mem_cons_of_mem _ hj))
  | case10 signal count before => exact (concluded_line m signal count before).grounded h hn
  | case11 next signal before => exact (concluded_conclude m signal before next).grounded h hn
  | case12 target call rest replies =>
    exact (called_makeCall _ target call).grounded
      (onto (g := .racing target call rest replies) hf) hn
  | case13 target call replies => exact h.answer _

/-- What a machine holds outlasts a collection. -/
theorem Grounded.collect (h : m.Grounded) (hn : m.hub.Numbered) : m.collect.Grounded := by
  -- a collection frees only what nobody holds
  have stay : ∀ id, m.held id = true → (m.hub.find? id).isSome = true →
      (m.collect.hub.find? id).isSome = true := fun id hheld hid => by
    rw [find?_collect, if_pos hheld]
    exact hid
  refine ⟨fun entry hentry => ?_, fun entry hentry => ?_, fun id hid => ?_, fun f hf => ?_⟩
  · have hheld : m.held entry.2 = true := by
      have hany : m.handles.any (·.2 = entry.2) = true :=
        List.any_eq_true.2 ⟨entry, hentry, by simp⟩
      simp [held, hany]
    exact stay _ hheld (h.handles entry hentry)
  · have hheld : m.held entry.2.context = true := by
      have hany : m.nodes.any (·.2.context = entry.2.context) = true :=
        List.any_eq_true.2 ⟨entry, hentry, by simp⟩
      simp [held, hany]
    exact stay _ hheld (h.nodes entry hentry)
  · have hslot : m.hub.slot = some id := by
      rw [← hid]
      exact (Hub.slot_foldl_free ..).symm
    exact stay id (by simp [held, hslot]) (h.slot id hslot)
  · refine (h.frames f hf).moves hn (moves_foldl_free _ _) fun id hholds hid => ?_
    have hany : m.frames.any (Frame.holds id) = true := List.any_eq_true.2 ⟨f, hf, hholds⟩
    exact stay id (by simp [held, hany]) hid

theorem Grounded.step (h : m.Grounded) (hn : m.hub.Numbered) : m.step.Grounded := by
  unfold Machine.step
  split
  · exact h
  · next f below hframes =>
    obtain ⟨hf, hbelow⟩ := List.forall_mem_cons.1 (hframes ▸ h.frames)
    have grounded : Grounded { m with frames := below } := ⟨h.handles, h.nodes, h.slot, hbelow⟩
    have moves := moves_advance { m with frames := below } f
    exact (grounded.advance hn hf).collect (hn.moves moves)

/-- **What a machine names exists**, at every moment of every run. -/
theorem Reachable.grounded (h : m.Reachable) : m.Grounded := by
  induction h with
  | start =>
    exact ⟨fun _ h => absurd h List.not_mem_nil, fun _ h => absurd h List.not_mem_nil,
      fun id h => absurd h (by simp [fresh]), fun _ h => absurd h List.not_mem_nil⟩
  | @next m m' h hn ih =>
    cases hn with
    | work => exact ih.step h.numbered
    | call program =>
      exact ⟨ih.handles, ih.nodes, ih.slot, List.forall_mem_cons.2 ⟨trivial, ih.frames⟩⟩
    | arrive signal =>
      exact ih.extend h.numbered (.single (.deliver signal)) (.deliver m.hub signal) (.same m _) []
        fun g hg => absurd hg List.not_mem_nil
    | tick clock =>
      exact ih.extend h.numbered (.single (.tick clock)) (.of_contexts rfl rfl) (.same m _) []
        fun g hg => absurd hg List.not_mem_nil
    | handle signal label htable =>
      exact ih.extend h.numbered (.single (.handle signal label htable)) (.of_contexts rfl rfl)
        (.same m _) [] fun g hg => absurd hg List.not_mem_nil

end Machine
end RobotClient
