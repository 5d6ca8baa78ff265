import RobotClient.Proofs.Context.Reachable

set_option autoImplicit false

/-! # The life of a context

A context goes from uninitialized to initialized to shut down and never back, whatever happens to
the hub around it. A context that is freed counts as shut down, so it stays where it is. The one id
whose phase goes up is the next one to be given out, hence the bounds by `nextId`. -/

namespace RobotClient

open Relation (ReflTransGen)

/-- The phases that a context can come to from a phase, or stay in. -/
inductive Phase.Leads : Phase → Phase → Prop where
  | stay (x : Phase) : Leads x x
  | opened (s : Session) : Leads .uninitialized (.initialized s)
  | closed (x : Phase) : Leads x .shutdown

theorem Phase.Leads.trans {x y z : Phase} (h : x.Leads y) (h' : y.Leads z) : x.Leads z := by
  cases h with
  | stay => exact h'
  | opened s =>
    cases h' with
    | stay => exact .opened s
    | closed => exact .closed _
  | closed =>
    cases h' with
    | stay => exact .closed x
    | closed => exact .closed x

theorem Phase.Leads.ne_uninitialized {x y : Phase} (h : x.Leads y) (hx : x ≠ .uninitialized) :
    y ≠ .uninitialized := by
  cases h with
  | stay => exact hx
  | opened s => simp
  | closed => simp

namespace Hub

variable {κ : Type} {p q : Hub κ} {id : Nat}

/-! ## Phases after an operation -/

theorem phase_congr (h : q.find? id = p.find? id) : q.phase id = p.phase id := by
  simp [phase, h]

theorem isInitialized_congr (h : q.find? id = p.find? id) :
    q.isInitialized id = p.isInitialized id := by
  rw [isInitialized, session?, phase_congr h, ← session?, ← isInitialized]

theorem phase_of_update {c' : Context κ}
    (h : ∀ j, q.find? j = if j = id then some c' else p.find? j) (j : Nat) :
    q.phase j = if j = id then c'.phase else p.phase j := by
  by_cases hj : j = id
  · rw [if_pos hj]
    exact phase_of_some (by rw [h, if_pos hj])
  · rw [if_neg hj]
    exact phase_congr (by rw [h, if_neg hj])

theorem phase_of_fresh (h : p.Numbered) (hq : q.contexts = p.contexts ++ [{ id := p.nextId }])
    (j : Nat) : q.phase j = if j = p.nextId then .uninitialized else p.phase j :=
  phase_of_update (find?_of_fresh h hq) j

theorem phase_of_opened {s : Session} {c : Context κ}
    (hq : q.contexts = modifyFirst id (opened s) p.contexts) (hc : p.find? id = some c) (j : Nat) :
    q.phase j = if j = id then .initialized s else p.phase j :=
  phase_of_update (find?_of_modified (opened s) hq (fun _ => rfl) hc) j

theorem phase_of_closed {c : Context κ} (hq : q.contexts = modifyFirst id closed p.contexts)
    (hc : p.find? id = some c) (j : Nat) :
    q.phase j = if j = id then .shutdown else p.phase j :=
  phase_of_update (find?_of_modified closed hq (fun _ => rfl) hc) j

theorem phase_of_pushed {callback : κ}
    (hq : q.contexts = modifyFirst id (pushed callback) p.contexts) (j : Nat) :
    q.phase j = p.phase j := by
  have hfind : q.find? j
      = if j = id then (p.find? id).map (pushed callback) else p.find? j := by
    unfold find?
    rw [hq, find?_modifyFirst id (pushed callback) fun _ => rfl]
  by_cases hj : j = id
  · subst hj
    rw [if_pos rfl] at hfind
    cases hc : p.find? j with
    | none => rw [phase_of_none hc, phase_of_none (by rw [hfind, hc]; rfl)]
    | some c => rw [phase_of_some hc, phase_of_some (by rw [hfind, hc]; rfl)]; rfl
  · exact phase_congr (by rw [hfind, if_neg hj])

theorem phase_of_filtered (hq : q.contexts = p.contexts.filter (·.id ≠ id)) (j : Nat) :
    q.phase j = if j = id then .shutdown else p.phase j := by
  have hfind := find?_of_filtered hq j
  by_cases hj : j = id
  · rw [if_pos hj] at hfind ⊢
    exact phase_of_none hfind
  · rw [if_neg hj] at hfind ⊢
    exact phase_congr hfind

/-! ## Sessions after an operation -/

theorem session?_of_some {c : Context κ} (h : p.find? id = some c) :
    p.session? id = c.phase.session? := by
  rw [session?, phase_of_some h]

theorem session?_of_lifecycle (h : p.lifecycle id = .shutdown) : p.session? id = none := by
  rw [session?]
  rw [lifecycle] at h
  cases hphase : p.phase id with
  | initialized s => simp [hphase, Phase.lifecycle] at h
  | _ => rfl

theorem session?_of_phase {x : Phase} {j : Nat}
    (h : q.phase j = if j = id then x else p.phase j) :
    q.session? j = if j = id then x.session? else p.session? j := by
  rw [session?, h]
  split <;> rfl

theorem session?_of_opened {s : Session} {c : Context κ}
    (hq : q.contexts = modifyFirst id (opened s) p.contexts) (hc : p.find? id = some c) (j : Nat) :
    q.session? j = if j = id then some s else p.session? j :=
  session?_of_phase (phase_of_opened hq hc j)

theorem session?_of_closed {c : Context κ} (hq : q.contexts = modifyFirst id closed p.contexts)
    (hc : p.find? id = some c) (j : Nat) :
    q.session? j = if j = id then none else p.session? j :=
  session?_of_phase (phase_of_closed hq hc j)

theorem session?_of_pushed {callback : κ}
    (hq : q.contexts = modifyFirst id (pushed callback) p.contexts) (j : Nat) :
    q.session? j = p.session? j := by
  rw [session?, phase_of_pushed hq, session?]

theorem session?_of_filtered (hq : q.contexts = p.contexts.filter (·.id ≠ id)) (j : Nat) :
    q.session? j = if j = id then none else p.session? j :=
  session?_of_phase (phase_of_filtered hq j)

theorem session?_of_fresh (h : p.Numbered) (hq : q.contexts = p.contexts ++ [{ id := p.nextId }])
    (j : Nat) : q.session? j = p.session? j := by
  rw [session?_of_phase (phase_of_fresh h hq j)]
  split
  · next hj =>
    have hnone := find?_of_nextId_le h (Nat.le_refl p.nextId)
    rw [hj, session?, phase_of_none hnone]
    rfl
  · rfl

/-! ## No way back -/

theorem Act.nextId_le (h : Act p q) : p.nextId ≤ q.nextId := by
  cases h with
  | create => exact Nat.le_succ _
  | useDefault =>
    rcases defaultContext_cases p with ⟨id, -, -, heq⟩ | ⟨-, heq⟩
    · exact Nat.le_of_eq (by rw [heq])
    · rw [heq]
      exact Nat.le_succ _
  | init hi =>
    obtain ⟨c, s, watching, events, -, -, -, ⟨-, -, rfl⟩ | ⟨-, -, -, rfl⟩⟩ := init_cases hi <;>
      exact Nat.le_refl _
  | releaseDefault id => unfold Hub.releaseDefault; split <;> exact Nat.le_refl _
  | onShutdown id callback =>
    rcases onShutdown_cases p id callback with ⟨-, heq⟩ | ⟨-, heq⟩ <;>
      exact Nat.le_of_eq (by rw [heq])
  | createNode hc =>
    obtain ⟨arguments, -, -, rfl⟩ := createNode_eq_ok hc
    exact Nat.le_refl _

theorem nextId_free (p : Hub κ) (id : Nat) : (p.free id).nextId = p.nextId := by
  rcases free_cases p id with ⟨-, heq⟩ | ⟨s, -, -, heq⟩ | ⟨s, t, -, -, -, -, heq⟩ <;> rw [heq]

theorem nextId_foldl_free (ids : List Nat) (p : Hub κ) :
    (ids.foldl free p).nextId = p.nextId := by
  induction ids generalizing p with
  | nil => rfl
  | cons id rest ih => rw [List.foldl_cons, ih, nextId_free]

theorem nextId_deliver (p : Hub κ) (signal : Signal) : (p.deliver signal).nextId = p.nextId := by
  rcases deliver_cases p signal with ⟨-, heq⟩ | ⟨label, -, heq⟩ <;> rw [heq]

theorem nextId_beginShutdown {callbacks : List κ} (h : p.beginShutdown id = .ok (callbacks, q)) :
    q.nextId = p.nextId := by
  obtain ⟨c, -, -, -, -, hnextId⟩ := beginShutdown_closed h
  exact hnextId

theorem Move.nextId_le (h : Move p q) : p.nextId ≤ q.nextId := by
  cases h with
  | act h => exact h.nextId_le
  | beginShutdown hb => exact Nat.le_of_eq (nextId_beginShutdown hb).symm
  | finishShutdown id => exact Nat.le_refl _
  | free id => exact Nat.le_of_eq (nextId_free p id).symm
  | takePending => exact Nat.le_refl _
  | deliver signal => exact Nat.le_of_eq (nextId_deliver p signal).symm
  | report _ => exact Nat.le_refl _
  | noteDelivered signal => exact Nat.le_refl _
  | tick clock => exact Nat.le_refl _
  | handle signal label h => exact Nat.le_refl _

theorem leads_update {x : Phase} (hx : (p.phase id).Leads x)
    (h : ∀ j, q.phase j = if j = id then x else p.phase j) (j : Nat) :
    (p.phase j).Leads (q.phase j) := by
  rw [h]
  split
  · next hj => exact hj ▸ hx
  · exact .stay _

/-- What a program does leads every context that exists on, or leaves it where it is. -/
theorem Act.leads (h : Act p q) (hn : p.Numbered) {j : Nat} (hj : j < p.nextId) :
    (p.phase j).Leads (q.phase j) := by
  have fresh : q.contexts = p.contexts ++ [{ id := p.nextId }] →
      (p.phase j).Leads (q.phase j) := fun hq => by
    rw [phase_of_fresh hn hq, if_neg (Nat.ne_of_lt hj)]
    exact .stay _
  cases h with
  | create => exact fresh rfl
  | useDefault =>
    rcases defaultContext_cases p with ⟨id, -, -, heq⟩ | ⟨-, heq⟩ <;> rw [heq] at fresh ⊢
    · exact .stay _
    · exact fresh rfl
  | init hi =>
    obtain ⟨c, s, watching, events, hc, hph, -, hcase⟩ := init_cases hi
    refine leads_update (x := .initialized s) ?_ (phase_of_opened (s := s) ?_ hc) j
    · rw [phase_of_some hc, hph]
      exact .opened s
    · rcases hcase with ⟨-, -, rfl⟩ | ⟨-, -, -, rfl⟩ <;> rfl
  | releaseDefault id =>
    unfold Hub.releaseDefault
    split <;> exact .stay _
  | onShutdown id callback =>
    rcases onShutdown_cases p id callback with ⟨-, heq⟩ | ⟨-, heq⟩ <;> rw [heq]
    · exact .stay _
    · have hphase : Hub.phase { p with contexts := modifyFirst id (pushed callback) p.contexts } j
          = p.phase j := phase_of_pushed rfl j
      rw [hphase]
      exact .stay _
  | createNode hc =>
    obtain ⟨arguments, -, -, rfl⟩ := createNode_eq_ok hc
    exact .stay _

/-- **No way back.** Whatever happens to a hub, a context that exists stays where it is in its life
    or goes on. -/
theorem Move.leads (h : Move p q) (hn : p.Numbered) {j : Nat} (hj : j < p.nextId) :
    (p.phase j).Leads (q.phase j) := by
  cases h with
  | act h => exact h.leads hn hj
  | @beginShutdown id callbacks q hb =>
    obtain ⟨c, hc, -, hq, -⟩ := beginShutdown_closed hb
    exact leads_update (.closed _) (phase_of_closed hq hc) j
  | finishShutdown id => exact .stay _
  | free id => exact leads_update (.closed _) (phase_of_filtered (contexts_free p id)) j
  | takePending => exact .stay _
  | deliver signal =>
    rw [phase_congr (find?_of_contexts (contexts_deliver p signal) j)]
    exact .stay _
  | report _ => exact .stay _
  | noteDelivered signal => exact .stay _
  | tick clock => exact .stay _
  | handle signal label h => exact .stay _

theorem leads_of_moves (moves : ReflTransGen Move p q) (hn : p.Numbered) {j : Nat}
    (hj : j < p.nextId) : (p.phase j).Leads (q.phase j) := by
  have all : q.Numbered ∧ p.nextId ≤ q.nextId ∧ (p.phase j).Leads (q.phase j) := by
    induction moves with
    | refl => exact ⟨hn, Nat.le_refl _, .stay _⟩
    | tail _ hm ih =>
      obtain ⟨hn', hle, hleads⟩ := ih
      exact ⟨hn'.move hm, Nat.le_trans hle hm.nextId_le,
        hleads.trans (hm.leads hn' (Nat.lt_of_lt_of_le hj hle))⟩
  exact all.2.2

/-- Whether a context was given out and has left its first phase. -/
def Begun (p : Hub κ) (id : Nat) : Prop := id < p.nextId ∧ p.phase id ≠ .uninitialized

theorem nextId_le_of_moves (moves : ReflTransGen Move p q) : p.nextId ≤ q.nextId := by
  induction moves with
  | refl => exact Nat.le_refl _
  | tail _ hm ih => exact Nat.le_trans ih hm.nextId_le

theorem Begun.moves (h : p.Begun id) (moves : ReflTransGen Move p q) (hn : p.Numbered) :
    q.Begun id :=
  ⟨Nat.lt_of_lt_of_le h.1 (nextId_le_of_moves moves),
    (leads_of_moves moves hn h.1).ne_uninitialized h.2⟩

theorem Begun.phase_eq_shutdown (h : p.Begun id) (hinit : p.isInitialized id = false) :
    p.phase id = .shutdown := by
  cases hphase : p.phase id with
  | uninitialized => exact absurd hphase h.2
  | initialized s => simp [isInitialized, session?, hphase, Phase.session?] at hinit
  | shutdown => rfl

theorem isInitialized_of_shutdown (h : p.phase id = .shutdown) : p.isInitialized id = false := by
  rw [isInitialized, session?, h]
  rfl

theorem shutdown_of_moves (moves : ReflTransGen Move p q) (hn : p.Numbered)
    (hid : id < p.nextId) (h : p.phase id = .shutdown) : q.phase id = .shutdown := by
  have leads := leads_of_moves moves hn hid
  rw [h] at leads
  generalize q.phase id = x at leads
  cases leads with
  | stay => rfl
  | closed => rfl

/-- A session lasts, unchanged, as long as its context is initialized. -/
theorem session?_of_moves (moves : ReflTransGen Move p q) (hn : p.Numbered) {s : Session}
    (hs : p.session? id = some s) (hq : q.isInitialized id = true) : q.session? id = some s := by
  obtain ⟨c, hc, hph⟩ := session?_eq_some_iff.1 hs
  have leads := leads_of_moves moves hn (lt_nextId_of_find? hn hc)
  rw [phase_of_some hc, hph] at leads
  unfold isInitialized session? at hq
  unfold session?
  cases hphase : q.phase id with
  | initialized s' =>
    rw [hphase] at leads
    cases leads
    rfl
  | _ => simp [hphase, Phase.session?] at hq

end Hub
end RobotClient
