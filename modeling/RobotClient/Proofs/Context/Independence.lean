import RobotClient.Proofs.Context.Tasks

set_option autoImplicit false

/-! # Independent contexts

Contexts share the default slot, the registry of live ones and the signal handlers. Two tasks on
different contexts do not notice each other all the same, as long as at most one of them asks for
handlers or gives some back: what the one reads is nothing that the other writes. So they can be done
in either order (`Interchangeable`). Main statement: `Reachable.tasks_independent`. -/

namespace RobotClient

/-! ## Effects side by side -/

namespace Hub

variable {p : Hub Callback} {a b : Nat} {fa fb : Bool} {ta tb : Task}

/-- The hub at another time. -/
def timed (p : Hub Callback) (clock : String) : Hub Callback := { p with clock }

theorem rewires_timed (clock : String) :
    (p.timed clock).Rewires a fa ta ↔ p.Rewires a fa ta :=
  rewires_congr rfl rfl

theorem wiring_effect_timed (h : ¬ p.Rewires a fa ta) (clock : String) :
    ((p.timed clock).effect a fa ta).hub.wiring = p.wiring :=
  wiring_effect (mt (rewires_timed clock).1 h)

/-- A task on another context does not change what comes of a task. -/
theorem effect_after (hne : b ≠ a) (hw : ¬ (p.Rewires a fa ta ∧ p.Rewires b fb tb))
    (t t' t'' : String) : Effect.Same b ((p.timed t'').effect b fb tb)
      ((((p.timed t).effect a fa ta).hub.timed t').effect b fb tb) := by
  have hleaves := effect_leaves (p.timed t) a fa ta
  refine effect_congr (hleaves.find? b hne) hleaves.slot ?_
  intro hb
  exact wiring_effect_timed (fun ha => hw ⟨ha, (rewires_timed t'').1 hb⟩) t

/-- What a task makes of the wiring after one that leaves the wiring alone. -/
theorem wiring_after_first (hne : b ≠ a) (h : ¬ p.Rewires a fa ta) (t t' t'' : String) :
    ((((p.timed t).effect a fa ta).hub.timed t').effect b fb tb).hub.wiring
      = ((p.timed t'').effect b fb tb).hub.wiring := by
  have hleaves := effect_leaves (p.timed t) a fa ta
  exact wiring_effect_congr (hleaves.find? b hne) hleaves.slot (wiring_effect_timed h t)

/-- A task that leaves the wiring alone does so after another one. -/
theorem wiring_after_second (hne : b ≠ a) (h : ¬ p.Rewires b fb tb) (t t' : String) :
    ((((p.timed t).effect a fa ta).hub.timed t').effect b fb tb).hub.wiring
      = ((p.timed t).effect a fa ta).hub.wiring := by
  have hleaves := effect_leaves (p.timed t) a fa ta
  have hsame : (((p.timed t).effect a fa ta).hub.timed t').Rewires b fb tb ↔ p.Rewires b fb tb :=
    rewires_congr (hleaves.find? b hne) hleaves.slot
  exact wiring_effect (mt hsame.1 h)

/-- Effects on two contexts leave the same wiring in either order. -/
theorem wiring_commute (hne : b ≠ a) (hw : ¬ (p.Rewires a fa ta ∧ p.Rewires b fb tb))
    (t₁ t₂ t₃ t₄ : String) :
    ((((p.timed t₃).effect b fb tb).hub.timed t₄).effect a fa ta).hub.wiring
      = ((((p.timed t₁).effect a fa ta).hub.timed t₂).effect b fb tb).hub.wiring := by
  by_cases ha : p.Rewires a fa ta
  · have hb : ¬ p.Rewires b fb tb := fun hb => hw ⟨ha, hb⟩
    calc ((((p.timed t₃).effect b fb tb).hub.timed t₄).effect a fa ta).hub.wiring
        = ((p.timed t₁).effect a fa ta).hub.wiring := wiring_after_first hne.symm hb t₃ t₄ t₁
      _ = ((((p.timed t₁).effect a fa ta).hub.timed t₂).effect b fb tb).hub.wiring :=
          (wiring_after_second hne hb t₁ t₂).symm
  · calc ((((p.timed t₃).effect b fb tb).hub.timed t₄).effect a fa ta).hub.wiring
        = ((p.timed t₃).effect b fb tb).hub.wiring := wiring_after_second hne.symm ha t₃ t₄
      _ = ((((p.timed t₁).effect a fa ta).hub.timed t₂).effect b fb tb).hub.wiring :=
          (wiring_after_first hne ha t₁ t₂ t₃).symm

/-- Effects on two contexts leave the same contexts in either order, initialization times aside. -/
theorem contexts_commute (hne : b ≠ a) (hw : ¬ (p.Rewires a fa ta ∧ p.Rewires b fb tb))
    (t₁ t₂ t₃ t₄ : String) (id : Nat) :
    (((((p.timed t₃).effect b fb tb).hub.timed t₄).effect a fa ta).hub.find? id).map Context.timeless
      = (((((p.timed t₁).effect a fa ta).hub.timed t₂).effect b fb tb).hub.find? id).map
          Context.timeless := by
  have ha := effect_leaves (p.timed t₁) a fa ta
  have hab := effect_leaves (((p.timed t₁).effect a fa ta).hub.timed t₂) b fb tb
  have hb := effect_leaves (p.timed t₃) b fb tb
  have hba := effect_leaves (((p.timed t₃).effect b fb tb).hub.timed t₄) a fa ta
  by_cases hida : id = a
  · subst hida
    rw [hab.find? id hne.symm]
    exact (effect_after hne.symm (mt And.symm hw) t₃ t₄ t₁).context
  · by_cases hidb : id = b
    · subst hidb
      rw [hba.find? id hne]
      exact (effect_after hne hw t₁ t₂ t₃).context.symm
    · rw [hba.find? id hida, hab.find? id hidb]
      exact congrArg _ ((hb.find? id hidb).trans (ha.find? id hida).symm)

theorem slot_commute (t₁ t₂ t₃ t₄ : String) :
    ((((p.timed t₃).effect b fb tb).hub.timed t₄).effect a fa ta).hub.slot
      = ((((p.timed t₁).effect a fa ta).hub.timed t₂).effect b fb tb).hub.slot := by
  have ha := effect_leaves (p.timed t₁) a fa ta
  have hab := effect_leaves (((p.timed t₁).effect a fa ta).hub.timed t₂) b fb tb
  have hb := effect_leaves (p.timed t₃) b fb tb
  have hba := effect_leaves (((p.timed t₃).effect b fb tb).hub.timed t₄) a fa ta
  rw [hba.slot, hab.slot]
  exact hb.slot.trans ha.slot.symm

/-- Whether a context is initialized can be seen without the times. -/
theorem isInitialized_of_timeless {p q : Hub Callback} {id : Nat}
    (h : (q.find? id).map Context.timeless = (p.find? id).map Context.timeless) :
    q.isInitialized id = p.isInitialized id := by
  have hphase : ∀ x : Phase, x.timeless.session?.isSome = x.session?.isSome := by
    intro x
    cases x <;> rfl
  have hread : ∀ r : Hub Callback, r.isInitialized id
      = (((r.find? id).map Context.timeless).map fun c => c.phase.session?.isSome).getD false := by
    intro r
    rw [isInitialized, session?, phase]
    cases r.find? id with
    | none => rfl
    | some c => exact (hphase c.phase).symm
  rw [hread q, hread p, h]

/-- The registries of hubs with the same contexts, times aside, have the same entries. -/
theorem liveContexts_perm {q : Hub Callback} (hp : p.Registered) (hq : q.Registered)
    (h : ∀ id, (q.find? id).map Context.timeless = (p.find? id).map Context.timeless) :
    q.liveContexts.Perm p.liveContexts := by
  rw [hq.live, hp.live]
  refine (List.perm_ext_iff_of_nodup (hq.nodup.filter _) (hp.nodup.filter _)).2 ?_
  intro id
  change id ∈ q.initializedIds ↔ id ∈ p.initializedIds
  rw [hq.mem_initializedIds_iff, hp.mem_initializedIds_iff, isInitialized_of_timeless (h id)]

end Hub

/-! ## Tasks in turn -/

namespace Machine

variable {m : Machine} {ha hb : String} {a b : Nat} {ta tb : Task}

/-- The machine at another time. -/
def timed (m : Machine) (clock : String) : Machine := m.happen (.tick clock)

/-- Two calls, one after the other, each at a time of its own: what is there after each. -/
def inTurn (m : Machine) (t t' : String) (first second : Op) : Machine × Machine :=
  let between := (m.timed t).carryOut first
  (between, (between.timed t').carryOut second)

/-- Whether a program's task on a context asks for signal handlers, or gives some back. -/
def Rewires (m : Machine) (handle : String) (id : Nat) (task : Task) : Prop :=
  m.hub.Rewires id (m.lastHold handle id) task

/-- Whether it is all the same in which order two calls are made: `x` is what is there after the
    first of them and after both, and `y` after the second of them and after both. -/
structure Interchangeable (m : Machine) (x y : Machine × Machine) : Prop where
  /-- Each call comes back with one reply, which is the same in both orders. -/
  replies : ∃ reply reply', x.1.replies = [reply] ∧ y.2.replies = [reply] ∧
    y.1.replies = [reply'] ∧ x.2.replies = [reply']
  frames : x.2.frames = m.frames ∧ y.2.frames = m.frames
  /-- Each call runs the same callbacks. -/
  finished : y.2.finished = x.1.finished ∧ x.2.finished = y.1.finished
  contexts : ∀ id, (y.2.hub.find? id).map Context.timeless
    = (x.2.hub.find? id).map Context.timeless
  slot : y.2.hub.slot = x.2.hub.slot
  wiring : y.2.hub.wiring = x.2.hub.wiring
  live : y.2.hub.liveContexts.Perm x.2.hub.liveContexts

theorem Doable.timed (h : m.Doable ha a ta) (clock : String) : (m.timed clock).Doable ha a ta :=
  ⟨h.name, h.queue, h.quiet, h.fresh⟩

theorem carryOut_timed (hm : m.Reachable) (h : m.Doable ha a ta) (clock : String) :
    (m.timed clock).carryOut (ta.op ha)
      = m.completed ha ta ((m.hub.timed clock).effect a (m.lastHold ha a) ta) :=
  carryOut_task (hm.happen (.tick clock)) (h.timed clock)

theorem lookup_filter_of_ne {handles : List (String × Nat)} {name other : String}
    (h : other ≠ name) : (handles.filter (·.1 ≠ name)).lookup other = handles.lookup other := by
  induction handles with
  | nil => rfl
  | cons entry rest ih =>
    obtain ⟨entryName, id⟩ := entry
    by_cases hname : entryName = name
    · have hother : (other == entryName) = false := beq_false_of_ne (hname ▸ h)
      rw [List.filter_cons_of_neg (by simpa using hname), List.lookup_cons, hother]
      exact ih
    · rw [List.filter_cons_of_pos (by simpa using hname), List.lookup_cons, List.lookup_cons, ih]

/-! ## One task after another -/

section

variable {e : Effect}

/-- A task under another name leaves a name alone. -/
theorem lookup_completed (hida : m.handles.lookup ha = some a) (hidb : m.handles.lookup hb = some b)
    (hne : b ≠ a) : (m.completed ha ta e).handles.lookup hb = some b := by
  have hname : hb ≠ ha := by
    intro heq
    rw [heq, hida] at hidb
    exact hne (Option.some.inj hidb).symm
  cases ta with
  | drop => exact (lookup_filter_of_ne hname).trans hidb
  | _ => exact hidb

/-- A task that can be done can also be done after one on another context. -/
theorem Doable.completed (h : m.Doable hb b tb) (h' : m.Doable ha a ta) (hne : b ≠ a)
    (hkeep : ∀ name, ta.keepAs? = some name → tb.keepAs? ≠ some name)
    (he : Hub.Leaves a m.hub e.hub) : (m.completed ha ta e).Doable hb b tb := by
  refine ⟨lookup_completed h'.name h.name hne, ?_, h.quiet, ?_⟩
  · intro c hc
    exact h.queue c ((he.find? b hne).symm.trans hc)
  · intro name hname entry hentry heq
    change entry ∈ ta.nodesAfter m.nodes e.node? at hentry
    rw [h'.fresh.nodesAfter, List.mem_append] at hentry
    rcases hentry with hold | hnew
    · exact h.fresh name hname entry hold heq
    · obtain ⟨node, -, hnode⟩ := Option.bind_eq_some_iff.1 (Option.mem_toList.1 hnew)
      obtain ⟨kept, hkept, rfl⟩ := Option.map_eq_some_iff.1 hnode
      obtain rfl : kept = name := heq
      exact hkeep kept hkept hname

/-- Taking a name away takes no name of another context away. -/
theorem any_handlesAfter (ta : Task) (hm : m.Reachable) (hida : m.handles.lookup ha = some a)
    (hne : b ≠ a) (hb : String) :
    ((ta.handlesAfter ha m.handles).filter (·.1 ≠ hb)).any (·.2 = b)
      = (m.handles.filter (·.1 ≠ hb)).any (·.2 = b) := by
  cases ta with
  | drop =>
    rw [Bool.eq_iff_iff, List.any_eq_true, List.any_eq_true]
    constructor
    · rintro ⟨entry, hentry, hid⟩
      obtain ⟨hentry, hother⟩ := List.mem_filter.1 hentry
      exact ⟨entry, List.mem_filter.2 ⟨List.mem_of_mem_filter hentry, hother⟩, hid⟩
    · rintro ⟨entry, hentry, hid⟩
      obtain ⟨hentry, hother⟩ := List.mem_filter.1 hentry
      refine ⟨entry, List.mem_filter.2 ⟨List.mem_filter.2 ⟨hentry, ?_⟩, hother⟩, hid⟩
      rw [decide_eq_true_eq]
      intro hname
      obtain rfl : entry = (ha, a) :=
        List.inj_on_of_nodup_map hm.unique hentry (mem_of_lookup hida) hname
      exact hne (of_decide_eq_true hid).symm
  | _ => rfl

theorem any_nodesAfter (hfresh : m.Fresh ta) (hne : b ≠ a)
    (hnode : ∀ node, e.node? = some node → node.context = a) :
    (ta.nodesAfter m.nodes e.node?).any (·.2.context = b) = m.nodes.any (·.2.context = b) := by
  rw [hfresh.nodesAfter, List.any_append]
  cases hmade : e.node? with
  | none => simp
  | some node => cases ta.keepAs? <;> simp [hnode node hmade, Ne.symm hne]

/-- A task lets go of no context but its own, and holds no other one. -/
theorem lastHold_completed (hm : m.Reachable) (h : m.Doable ha a ta) (hne : b ≠ a)
    (he : Hub.Leaves a m.hub e.hub) (hnode : ∀ node, e.node? = some node → node.context = a)
    (hb : String) : (m.completed ha ta e).lastHold hb b = m.lastHold hb b := by
  have hhandles := any_handlesAfter ta hm h.name hne hb
  have hnodes := any_nodesAfter h.fresh hne hnode
  change (!(((ta.handlesAfter ha m.handles).filter (·.1 ≠ hb)).any (·.2 = b)
    || (ta.nodesAfter m.nodes e.node?).any (·.2.context = b)
    || decide (e.hub.slot = some b) || m.frames.any (Frame.holds b))) = _
  rw [hhandles, hnodes, he.slot]
  rfl

end

/-- The node of a task is one of the task's context. -/
theorem context_of_node? {p : Hub Callback} {freed : Bool} {node : Node}
    (h : (p.effect a freed ta).node? = some node) : node.context = a := by
  cases ta with
  | createNode name ns keepAs =>
    simp only [Hub.effect] at h
    split at h
    · exact absurd h (by simp)
    · next made q hq =>
      obtain ⟨arguments, -, hmake, -⟩ := Hub.createNode_eq_ok hq
      obtain rfl : made = node := Option.some.inj h
      exact Hub.context_of_make hmake
  | init o =>
    simp only [Hub.effect] at h
    split at h <;> exact absurd h (by simp)
  | shutdown tolerant =>
    simp only [Hub.effect] at h
    split at h <;> exact absurd h (by simp)
  | onShutdown | drop => exact absurd h (by simp [Hub.effect])

/-- What two tasks in turn come to. -/
theorem inTurn_eq (hm : m.Reachable) (h : m.Doable ha a ta) (h' : m.Doable hb b tb) (hne : b ≠ a)
    (hkeep : ∀ name, ta.keepAs? = some name → tb.keepAs? ≠ some name) (t t' : String) :
    m.inTurn t t' (ta.op ha) (tb.op hb) =
      let e := (m.hub.timed t).effect a (m.lastHold ha a) ta
      let e' := (e.hub.timed t').effect b (m.lastHold hb b) tb
      (m.completed ha ta e, (m.completed ha ta e).completed hb tb e') := by
  have hfirst := carryOut_timed hm h t
  obtain ⟨hfind, hslot, hnext⟩ := Hub.effect_leaves (m.hub.timed t) a (m.lastHold ha a) ta
  have hleaves : Hub.Leaves a m.hub ((m.hub.timed t).effect a (m.lastHold ha a) ta).hub :=
    ⟨hfind, hslot, hnext⟩
  have hreachable := (hm.happen (.tick t)).carryOut (ta.op ha)
  change ((m.timed t).carryOut (ta.op ha)).Reachable at hreachable
  rw [hfirst] at hreachable
  have hsecond := carryOut_timed hreachable (h'.completed h hne hkeep hleaves) t'
  rw [lastHold_completed hm h hne hleaves (fun node => context_of_node?) hb] at hsecond
  rw [inTurn, hfirst]
  exact congrArg _ hsecond

/-- **Tasks on different contexts are independent.** A task on a context leaves all other contexts as
they are. Two tasks on different contexts, of which at most one asks for signal handlers or gives
some back, come to the same in either order. -/
theorem Reachable.tasks_independent (hm : m.Reachable) (h : m.Doable ha a ta) :
    (∀ clock id, id ≠ a →
      ((m.timed clock).carryOut (ta.op ha)).hub.find? id = m.hub.find? id ∧
      ((m.timed clock).carryOut (ta.op ha)).hub.status id = m.hub.status id) ∧
    ∀ {hb b tb}, m.Doable hb b tb → b ≠ a →
      (∀ name, ta.keepAs? = some name → tb.keepAs? ≠ some name) →
      ¬ (m.Rewires ha a ta ∧ m.Rewires hb b tb) → ∀ t₁ t₂ t₃ t₄,
      Interchangeable m (m.inTurn t₁ t₂ (ta.op ha) (tb.op hb))
        (m.inTurn t₃ t₄ (tb.op hb) (ta.op ha)) := by
  constructor
  · intro clock id hid
    rw [carryOut_timed hm h clock]
    have hfind := (Hub.effect_leaves (m.hub.timed clock) a (m.lastHold ha a) ta).find? id hid
    refine ⟨hfind, ?_⟩
    exact congrArg (Status.ofPhase id) (Hub.phase_congr hfind)
  · intro hb b tb h' hne hkeep hw t₁ t₂ t₃ t₄
    have hkeep' : ∀ name, tb.keepAs? = some name → ta.keepAs? ≠ some name :=
      fun name hname hname' => hkeep name hname' hname
    have hreach : ∀ t t' op op', (m.inTurn t t' op op').2.Reachable := fun t t' op op' =>
      (((hm.happen (.tick t)).carryOut op).happen (.tick t')).carryOut op'
    have hreachx := hreach t₁ t₂ (ta.op ha) (tb.op hb)
    have hreachy := hreach t₃ t₄ (tb.op hb) (ta.op ha)
    have hx := inTurn_eq hm h h' hne hkeep t₁ t₂
    have hy := inTurn_eq hm h' h hne.symm hkeep' t₃ t₄
    have hcontexts := Hub.contexts_commute hne hw t₁ t₂ t₃ t₄
    have hsameb := Hub.effect_after hne hw t₁ t₂ t₃
    have hsamea := Hub.effect_after hne.symm (mt And.symm hw) t₃ t₄ t₁
    rw [hx] at hreachx ⊢
    rw [hy] at hreachy ⊢
    have hreply := congrArg (fun reply : Reply => [reply]) hsamea.reply
    have hreply' := congrArg (fun reply : Reply => [reply]) hsameb.reply
    exact {
      replies := ⟨_, _, rfl, hreply, rfl, hreply'⟩
      frames := ⟨rfl, rfl⟩
      finished := ⟨congrArg (List.map _) hsamea.ran, congrArg (List.map _) hsameb.ran⟩
      contexts := hcontexts
      slot := Hub.slot_commute t₁ t₂ t₃ t₄
      wiring := Hub.wiring_commute hne hw t₁ t₂ t₃ t₄
      live := Hub.liveContexts_perm hreachx.registered hreachy.registered hcontexts }

/-- A program with two contexts: the first owns the handlers and has a callback. -/
def ownerAndBystander : List Op :=
  [.create "a", .create "b", .init (some "a") none { handlers := some .all },
    .onShutdown "a" "last words" []]

/-- The moment after `ownerAndBystander`. -/
def besideOwner : Machine := ((fresh "" 1 false 0 0).happen (.call ownerAndBystander)).after 5

theorem reachable_besideOwner : besideOwner.Reachable :=
  ((Reachable.start "" 1 false 0 0).happen (.call ownerAndBystander)).after 5

/-- The owner is shut down, and the other context is initialized without handlers. -/
theorem tasks_independent_besideOwner :
    besideOwner.Reachable ∧
    Interchangeable besideOwner
      (besideOwner.inTurn "1" "2" (.shutdown (some "a") false)
        (.init (some "b") none { handlers := some .no }))
      (besideOwner.inTurn "3" "4" (.init (some "b") none { handlers := some .no })
        (.shutdown (some "a") false)) := by
  have owner : besideOwner.hub.find? 1
      = some ⟨1, .initialized ⟨0, {}, .all, true, ""⟩, [⟨"last words", []⟩]⟩ := rfl
  have bystander : besideOwner.hub.find? 2 = some ⟨2, .uninitialized, []⟩ := rfl
  have shut : besideOwner.Doable "a" 1 (.shutdown false) := by
    refine ⟨rfl, ?_, trivial, by simp [Fresh, Task.keepAs?]⟩
    intro c hc callback hcallback
    obtain rfl := Option.some.inj (owner.symm.trans hc)
    rw [List.mem_singleton.1 hcallback]
  have opened : besideOwner.Doable "b" 2 (.init { handlers := some .no }) := by
    refine ⟨rfl, ?_, trivial, by simp [Fresh, Task.keepAs?]⟩
    intro c hc callback hcallback
    obtain rfl := Option.some.inj (bystander.symm.trans hc)
    exact absurd hcallback List.not_mem_nil
  have quiet : ¬ besideOwner.Rewires "b" 2 (.init { handlers := some .no }) :=
    fun asks => asks.2 rfl
  refine ⟨reachable_besideOwner, ?_⟩
  exact (reachable_besideOwner.tasks_independent shut).2 opened (by decide) (by simp [Task.keepAs?])
    (fun both => quiet both.2) "1" "2" "3" "4"

end Machine
end RobotClient
