import RobotClient.Proofs.Context.Answers
import RobotClient.Proofs.Context.Erasure
import RobotClient.Proofs.Context.Slot

set_option autoImplicit false

/-! # A shut down default is as good as none

The slot may hold a context that is shut down. No operation can tell: two machines that are the
same, but for such a context in the slot of one and nothing in the slot of the other, go on in
lockstep, and only the question whether that context is the default one has two answers
(`SameWithout`). Besides, a default context that is not shut down stays the default one. -/

namespace RobotClient

open Relation (ReflTransGen)

/-! ## Hubs -/

namespace Hub

variable {κ : Type} {p q p' q' : Hub κ} {d id : Nat}

/-- Whether two hubs are the same without a context that is shut down in both, and not the default
    one in the first. -/
structure SameWithout (d : Nat) (p q : Hub κ) : Prop where
  left : Retired d p
  right : Retired d q
  same : q.without d = p.without d
  slot : p.slot ≠ some d

theorem SameWithout.moves (h : SameWithout d p q) (hp : ReflTransGen Move p p')
    (hq : ReflTransGen Move q q') (hsame : q'.without d = p'.without d) : SameWithout d p' q' := by
  have retired : ∀ {p q : Hub κ}, Retired d p → Move p q → Retired d q := fun h hm => h.move hm
  refine ⟨keeps_of_moves hp retired h.left, keeps_of_moves hq retired h.right, hsame, ?_⟩
  intro hslot
  rcases slot_of_moves hp hslot with hold | hnew
  · exact h.slot hold
  · exact absurd h.left.given (Nat.not_lt.2 hnew)

theorem SameWithout.move (h : SameWithout d p q) (hp : Move p p') (hq : Move q q')
    (hsame : q'.without d = p'.without d) : SameWithout d p' q' :=
  h.moves (.single hp) (.single hq) hsame

/-- A change that does not mind the context left out. -/
theorem SameWithout.change (h : SameWithout d p q) {change : Hub κ → Hub κ}
    (hm : ∀ p, Move p (change p))
    (hwithout : ∀ {p}, Retired d p → change (p.without d) = (change p).without d) :
    SameWithout d (change p) (change q) :=
  h.move (hm p) (hm q) (by rw [← hwithout h.left, ← hwithout h.right, h.same])

/-- What does not mind the context left out finds the same in both hubs. -/
theorem SameWithout.look {α : Type} (h : SameWithout d p q) (look : Hub κ → α)
    (hwithout : ∀ {p}, Retired d p → look (p.without d) = look p) : look q = look p := by
  rw [← hwithout h.left, ← hwithout h.right, h.same]

theorem SameWithout.slot_iff (h : SameWithout d p q) (hid : id ≠ d) :
    q.slot = some id ↔ p.slot = some id := by
  have hsame := congrArg Hub.slot h.same
  have hp := slot_without_eq_some_iff (p := p) (d := d) (j := id)
  have hq := slot_without_eq_some_iff (p := q) (d := d) (j := id)
  rw [hsame, hp] at hq
  exact ⟨fun hslot => (hq.2 ⟨hslot, hid⟩).1, fun hslot => (hq.1 ⟨hslot, hid⟩).1⟩

/-- The only question that has two answers. -/
def OddAbout (d : Nat) (id : Nat) (question : Question) : Prop := id = d ∧ question = .isDefault

theorem SameWithout.looks {p q : Hub Callback} (h : SameWithout d p q) :
    Looks (OddAbout d) p q where
  nextId := h.look _ fun _ => rfl
  table := h.look _ fun _ => rfl
  dispositions := h.look _ fun _ => rfl
  pending := h.look _ fun _ => rfl
  delivered := h.look _ fun _ => rfl
  received := h.look _ fun _ => rfl
  liveContexts := h.look _ fun hp => liveContexts_without hp.not_mem_liveContexts
  isInitialized id := h.look (·.isInitialized id) fun hp => isInitialized_without hp.shut id
  defaultIsInitialized := h.look _ fun hp => defaultIsInitialized_without hp.shut
  reply id question hodd :=
    h.look (fun p => Machine.reply p id question) fun hp => reply_without hp.shut hodd

theorem SameWithout.defaultContext (h : SameWithout d p q) :
    q.defaultContext.1 = p.defaultContext.1 ∧ SameWithout d p.defaultContext.2 q.defaultContext.2 :=
  ⟨h.look (·.defaultContext.1) fun hp => by rw [defaultContext_without hp],
    h.change (fun _ => .act .useDefault) fun hp => by rw [defaultContext_without hp]⟩

theorem SameWithout.onShutdown (h : SameWithout d p q) (id : Nat) (callback : κ) :
    (q.onShutdown id callback).1 = (p.onShutdown id callback).1 ∧
      SameWithout d (p.onShutdown id callback).2 (q.onShutdown id callback).2 :=
  ⟨h.look (fun p => (p.onShutdown id callback).1) fun hp => by rw [onShutdown_without hp],
    h.change (fun _ => .act (.onShutdown id callback)) fun hp => by rw [onShutdown_without hp]⟩

theorem exists_of_map_eq {ε α β : Type} {x y : Except ε α} {f : α → β} (h : y.map f = x.map f) :
    (∃ e, x = .error e ∧ y = .error e) ∨ ∃ a b, x = .ok a ∧ y = .ok b ∧ f b = f a := by
  cases x with
  | error e =>
    cases y with
    | error e' => exact .inl ⟨e, rfl, by rw [Except.error.inj h]⟩
    | ok b => exact absurd h (by simp [Except.map])
  | ok a =>
    cases y with
    | error e' => exact absurd h (by simp [Except.map])
    | ok b => exact .inr ⟨a, b, rfl, rfl, Except.ok.inj h⟩

theorem SameWithout.init (h : SameWithout d p q) (id : Nat) (o : InitOptions) :
    (∃ e, p.init id o = .error e ∧ q.init id o = .error e) ∨
    ∃ p' q', p.init id o = .ok p' ∧ q.init id o = .ok q' ∧ SameWithout d p' q' := by
  have hmap : (q.init id o).map (without d) = (p.init id o).map (without d) := by
    rw [← init_without h.left, ← init_without h.right, h.same]
  refine (exists_of_map_eq hmap).imp_right ?_
  rintro ⟨p', q', hp, hq, hsame⟩
  exact ⟨p', q', hp, hq, h.move (.act (.init hp)) (.act (.init hq)) hsame⟩

theorem SameWithout.createNode (h : SameWithout d p q) (id : Nat) (name ns : String) :
    (∃ e, p.createNode id name ns = .error e ∧ q.createNode id name ns = .error e) ∨
    ∃ node p' q', p.createNode id name ns = .ok (node, p') ∧
      q.createNode id name ns = .ok (node, q') ∧ SameWithout d p' q' := by
  have hmap : (q.createNode id name ns).map (fun made => (made.1, made.2.without d))
      = (p.createNode id name ns).map fun made => (made.1, made.2.without d) := by
    rw [← createNode_without h.left, ← createNode_without h.right, h.same]
  refine (exists_of_map_eq hmap).imp_right ?_
  rintro ⟨⟨node, p'⟩, ⟨node', q'⟩, hp, hq, hmade⟩
  obtain ⟨rfl, hsame⟩ := Prod.mk.inj hmade
  exact ⟨_, p', q', hp, hq, h.move (.act (.createNode hp)) (.act (.createNode hq)) hsame⟩

theorem move_closing {target : Option Nat} {callbacks : List κ}
    (h : p.closing? target = some (id, callbacks, p')) : Move p p' := by
  obtain ⟨j, -, hclosed⟩ := Option.bind_eq_some_iff.1 h
  split at hclosed
  · next started hb =>
    obtain ⟨rfl, rfl, rfl⟩ := by simpa using hclosed
    exact .beginShutdown hb
  · exact absurd hclosed (by simp)

theorem SameWithout.closing (h : SameWithout d p q) (target : Option Nat) :
    (p.closing? target = none ∧ q.closing? target = none) ∨
    ∃ id callbacks p' q', p.closing? target = some (id, callbacks, p') ∧
      q.closing? target = some (id, callbacks, q') ∧ SameWithout d p' q' := by
  have hmap : (q.closing? target).map (fun closed => (closed.1, closed.2.1, closed.2.2.without d))
      = (p.closing? target).map fun closed => (closed.1, closed.2.1, closed.2.2.without d) := by
    rw [← closing?_without h.left, ← closing?_without h.right, h.same]
  cases hp : p.closing? target with
  | none =>
    rw [hp, Option.map_none, Option.map_eq_none_iff] at hmap
    exact .inl ⟨rfl, hmap⟩
  | some closed =>
    obtain ⟨id, callbacks, p'⟩ := closed
    rw [hp] at hmap
    obtain ⟨⟨id', callbacks', q'⟩, hq, hclosed⟩ := Option.map_eq_some_iff.1 hmap
    obtain ⟨rfl, rfl, hsame⟩ : id' = id ∧ callbacks' = callbacks ∧ q'.without d = p'.without d := by
      simpa using hclosed
    exact .inr ⟨_, _, p', q', rfl, hq, h.move (move_closing hp) (move_closing hq) hsame⟩

end Hub

namespace Machine

variable {m m' : Machine} {d : Nat}

/-- Whether the collection of a machine frees the same contexts, but for the one left out. -/
theorem unheld_filter (m : Machine) (d : Nat) :
    m.unheld.filter (· ≠ d)
      = ((m.hub.without d).contexts.map (·.id)).filter fun id => !m.held id := by
  have hids : (m.hub.without d).contexts.map (·.id)
      = (m.hub.contexts.map (·.id)).filter (· ≠ d) := by
    rw [List.filter_map]
    rfl
  rw [hids, unheld, List.filter_comm]

theorem sameWithout_collect (h : Hub.SameWithout d m.hub m'.hub) (hhandles : m'.handles = m.handles)
    (hnodes : m'.nodes = m.nodes)
    (hframes : ∀ id, m'.frames.any (Frame.holds id) = m.frames.any (Frame.holds id)) :
    Hub.SameWithout d m.collect.hub m'.collect.hub := by
  have hheld : ∀ id, id ≠ d → m'.held id = m.held id := fun id hid => by
    simp only [held, hhandles, hnodes, hframes, h.slot_iff hid]
  have hunheld : m'.unheld.filter (· ≠ d) = m.unheld.filter (· ≠ d) := by
    rw [unheld_filter, unheld_filter, h.same]
    -- what is left after leaving `d` out has other ids, and these are held by both or by neither
    refine List.filter_congr fun id hid => ?_
    obtain ⟨c, hc, rfl⟩ := List.mem_map.1 hid
    rw [hheld c.id (by simpa using List.of_mem_filter hc)]
  have hsame : m'.collect.hub.without d = m.collect.hub.without d := by
    change (m'.unheld.foldl Hub.free m'.hub).without d = (m.unheld.foldl Hub.free m.hub).without d
    rw [← Hub.foldl_free_without h.left, ← Hub.foldl_free_without h.right, hunheld, h.same]
  exact h.moves (moves_foldl_free _ _) (moves_foldl_free _ _) hsame

/-- **A context that is shut down** makes no difference to any operation, not even as the default
    one. -/
theorem congruence_sameWithout (d : Nat) :
    Congruence (Hub.OddAbout d) (Hub.SameWithout d) where
  looks h := h.looks
  create h := h.change (fun _ => .act .create) fun hp => by rw [Hub.create_without hp.given]
  defaultContext h := h.defaultContext
  init h := h.init
  closing h := h.closing
  onShutdown h := h.onShutdown
  createNode h := h.createNode
  releaseDefault h id :=
    h.change (fun _ => .act (.releaseDefault id)) fun _ => Hub.releaseDefault_without _ d id
  finishShutdown h id := h.change (fun _ => .finishShutdown id) fun _ => rfl
  report h _ he := h.change (fun _ => .report he) fun _ => rfl
  noteDelivered h signal := h.change (fun _ => .noteDelivered signal) fun _ => rfl
  takePending h := h.change (fun _ => .takePending) fun _ => rfl
  deliver h signal := h.change (fun _ => .deliver signal) fun _ => Hub.deliver_without _ d signal
  tick h clock := h.change (fun _ => .tick clock) fun _ => rfl
  handle h htable signal label := by
    have htable' := h.looks.table.trans htable
    have hsame := congrArg (fun p : Hub Callback =>
      { p with dispositions := p.dispositions.set signal (.host label) }) h.same
    exact h.move (.handle signal label htable) (.handle signal label htable') hsame
  collect h hhandles hnodes hframes := sameWithout_collect h hhandles hnodes hframes

/-! ## Machines -/

/-- The same reply, or that a context is the default one in the second and is not in the first. -/
def SameOrFlag (x y : Reply) : Prop :=
  x = y ∨ x = .ok (.flag false) ∧ y = .ok (.flag true)

theorem reply_isDefault {p q : Hub Callback} (h : Hub.SameWithout d p q) :
    reply p d .isDefault = .ok (.flag false) ∧
      SameOrFlag (reply p d .isDefault) (reply q d .isDefault) := by
  have hfirst : reply p d .isDefault = .ok (.flag false) := by
    simp only [reply, Hub.isDefault, h.slot, decide_false]
  refine ⟨hfirst, ?_⟩
  rw [hfirst]
  simp only [reply]
  cases q.isDefault d with
  | false => exact .inl rfl
  | true => exact .inr ⟨rfl, rfl⟩

theorem records_sameOrFlag (d : Nat) :
    Records (Hub.OddAbout d) (Hub.SameWithout d) (List.Forall₂ SameOrFlag) where
  refl xs := List.forall₂_same.2 fun x _ => .inl rfl
  append h reply := List.rel_append h (.cons (.inl rfl) .nil)
  odd := by
    rintro p q id question xs ys h ⟨rfl, rfl⟩ hxs
    exact List.rel_append hxs (.cons (reply_isDefault h).2 .nil)

/-- Whether two machines are the same, but for the slot, which is empty in the first and holds `d`
    in the second. If nothing else holds `d`, the first may have freed it. -/
structure EmptySlot (d : Nat) (m m' : Machine) : Prop where
  slot : m'.hub.slot = some d
  contexts : m.hub.contexts = m'.hub.contexts ∨
    m.hub.contexts = m'.hub.contexts.filter (·.id ≠ d)
  same : m = { m' with hub := { m'.hub with slot := none, contexts := m.hub.contexts } }

theorem Reachable.retired (h : m.Reachable) (hslot : m.hub.slot = some d)
    (hshut : m.hub.phase d = .shutdown) : Hub.Retired d m.hub where
  numbered := h.numbered
  registered := h.registered
  given := Hub.lt_nextId_of_isSome h.numbered (h.grounded.slot d hslot)
  shut := hshut

theorem EmptySlot.sameWithout (h : EmptySlot d m m') (hm' : m'.Reachable)
    (hshut : m'.hub.phase d = .shutdown) : Hub.SameWithout d m.hub m'.hub := by
  have hretired := hm'.retired h.slot hshut
  -- the first hub comes from the second by operations that do not mind `d`
  have hreleased : m'.hub.releaseDefault d = { m'.hub with slot := none } := if_pos h.slot
  have hretired' := hretired.move (.act (.releaseDefault d))
  have hhub : m.hub = { m'.hub with slot := none, contexts := m.hub.contexts } :=
    congrArg Machine.hub h.same
  have hslot : m.hub.slot ≠ some d := by
    rw [hhub]
    simp
  rcases h.contexts with hcontexts | hcontexts <;> rw [hcontexts] at hhub
  · have heq : m.hub = m'.hub.releaseDefault d := hhub.trans hreleased.symm
    refine ⟨heq ▸ hretired', hretired, ?_, hslot⟩
    rw [heq, Hub.without_releaseDefault_self]
  · have heq : m.hub = (m'.hub.releaseDefault d).free d := by
      rw [Hub.free_of_shutdown hretired'.shut, hreleased]
      exact hhub
    refine ⟨heq ▸ hretired'.move (.free d), hretired, ?_, hslot⟩
    rw [heq, Hub.without_free_self hretired'.shut, Hub.without_releaseDefault_self]

theorem EmptySlot.matched (h : EmptySlot d m m') (hm' : m'.Reachable)
    (hshut : m'.hub.phase d = .shutdown) :
    Matched (Hub.SameWithout d) (List.Forall₂ SameOrFlag) m m' := by
  have hhub := h.sameWithout hm' hshut
  rw [h.same] at hhub ⊢
  exact ⟨hhub, rfl, rfl, matched_same m'.frames,
    List.forall₂_same.2 fun f _ => ⟨rfl, List.forall₂_same.2 fun x _ => .inl rfl⟩,
    List.forall₂_same.2 fun x _ => .inl rfl⟩

/-- Both machines answer an operation after the same number of steps and with the same reply, unless
    it asks whether `d` is the default context. -/
theorem Matched.exists_same_answers {label : Option String} {op : Op} {rest : List Op}
    {replies : List Reply} {below : List Frame}
    (h : Matched (Hub.SameWithout d) (List.Forall₂ SameOrFlag) m m')
    (hframes : m.frames = .script label (op :: rest) replies :: below) :
    ∃ n x y, m.Answers m.caller.frames n x ∧ m'.Answers m'.caller.frames n y ∧
      (x = y ∨ x = .ok (.flag false) ∧ y = .ok (.flag true) ∧
        ∃ handle, op = .ask .isDefault handle ∧ m.handles.lookup handle = some d) := by
  obtain ⟨n, x, y, hx, hy, hsame⟩ :=
    h.exists_answers (congruence_sameWithout d) (records_sameOrFlag d) hframes
  refine ⟨n, x, y, hx, hy, ?_⟩
  rcases hsame with heq | ⟨question, handle, id, rfl, hlookup, ⟨rfl, rfl⟩, rfl, rfl⟩
  · exact .inl heq
  · rcases (reply_isDefault h.hub).2 with heq | ⟨hfalse, htrue⟩
    · exact .inl heq
    · exact .inr ⟨hfalse, htrue, handle, rfl, hlookup⟩

/-! ## The default context -/

/-- **A shut down default is as good as none.** Take two machines that are the same but for the
slot, which is empty in the first and holds a context in the second that is shut down. Whatever
happens to both, their hubs stay the same without that context, and so do names, nodes, frames and
replies, up to the answer whether it is the default one; no other operation of a program is answered
differently.

Besides, in every run a default context stays until it is shut down, nobody who asks for the default
one gets one that is shut down, and when the shutdown of a default context ends, one that came into
the slot since stays there. -/
theorem shutdown_default (h : EmptySlot d m m') (hm' : m'.Reachable)
    (hshut : m'.hub.phase d = .shutdown) :
    (∀ happenings, let r := m.run happenings; let r' := m'.run happenings
      Matched (Hub.SameWithout d) (List.Forall₂ SameOrFlag) r r' ∧
      ∀ label op rest replies below, r.frames = .script label (op :: rest) replies :: below →
        ∃ n x y, r.Answers r.caller.frames n x ∧ r'.Answers r'.caller.frames n y ∧
          (x = y ∨ x = .ok (.flag false) ∧ y = .ok (.flag true) ∧
            ∃ handle, op = .ask .isDefault handle ∧ r.handles.lookup handle = some d)) ∧
    ∀ k : Machine, k.Reachable →
      (∀ id happenings, k.hub.slot = some id → (k.run happenings).hub.phase id ≠ .shutdown →
        (k.run happenings).hub.slot = some id) ∧
      (∀ label handle rest replies below,
        k.frames = .script label (.useDefault handle :: rest) replies :: below →
        ∃ id, k.Answers k.caller.frames 1 (.ok (.id id)) ∧ k.step.hub.slot = some id ∧
          k.step.hub.phase id ≠ .shutdown) ∧
      ∀ old new happenings below, k.hub.slot = some old → k.hub.nextId ≤ new →
        (k.run happenings).frames = .releasing old :: below →
        (k.run happenings).hub.slot = some new → (k.run happenings).step.hub.slot = some new := by
  refine ⟨fun happenings => ?_, fun k hk => ⟨fun id happenings hslot hphase => ?_, ?_, ?_⟩⟩
  · have hmatched := (h.matched hm' hshut).run (congruence_sameWithout d) (records_sameOrFlag d)
      happenings
    exact ⟨hmatched, fun label op rest replies below hframes =>
      hmatched.exists_same_answers hframes⟩
  · exact hk.slot_run hslot happenings hphase
  · intro label handle rest replies below hframes
    exact hk.answers_useDefault hframes
  · intro old new happenings below hslot hnew hframes hnow
    exact hk.slot_releasing hslot hnew happenings hframes hnow

/-- A program that shuts its default context down by its own handle. -/
def shutOwnDefault : List Op :=
  [.useDefault (some "a"), .init (some "a") none {}, .shutdown (some "a") false]

/-- A machine after `shutOwnDefault`. -/
def afterOwnShutdown : Machine :=
  ({ fresh "" 1 false 0 0 with frames := [.script none shutOwnDefault []] } : Machine).after 6

theorem reachable_afterOwnShutdown : afterOwnShutdown.Reachable := by
  have called := (Reachable.start "" 1 false 0 0).next (.call shutOwnDefault)
  exact called.after 6

/-- A program that asks its old default context whether it still is the default one, and initializes
the new one, tells the two machines apart by the first answer only. -/
theorem shutdown_default_afterOwnShutdown :
    let m' := afterOwnShutdown
    let m := { m' with hub := { m'.hub with slot := none } }
    let happenings := .call [.ask .isDefault "a", .init none none {}] :: List.replicate 3 .work
    EmptySlot 1 m m' ∧ m'.Reachable ∧ m'.hub.phase 1 = .shutdown ∧
      Matched (Hub.SameWithout 1) (List.Forall₂ SameOrFlag) (m.run happenings)
        (m'.run happenings) ∧
      (m.run happenings).replies = [.ok (.flag false), .ok (.id 2)] ∧
      (m'.run happenings).replies = [.ok (.flag true), .ok (.id 2)] := by
  intro m' m happenings
  have hempty : EmptySlot 1 m m' := ⟨rfl, .inl rfl, rfl⟩
  have hshut : m'.hub.phase 1 = .shutdown := by decide
  have hsame := shutdown_default hempty reachable_afterOwnShutdown hshut
  exact ⟨hempty, reachable_afterOwnShutdown, hshut, (hsame.1 happenings).1, rfl, rfl⟩

end Machine
end RobotClient
