import RobotClient.Context.Hub

set_option autoImplicit false

/-! # The load of a hub

The callbacks that wait in a hub, each with a weight. No operation adds load but the one that
keeps a callback, and a shutdown hands out what it takes away. -/

namespace RobotClient

/-- The weight of all elements of a list. -/
def total {α : Type} (w : α → Nat) : List α → Nat
  | [] => 0
  | x :: rest => w x + total w rest

@[simp] theorem total_nil {α : Type} (w : α → Nat) : total w [] = 0 := rfl

@[simp] theorem total_cons {α : Type} (w : α → Nat) (x : α) (rest : List α) :
    total w (x :: rest) = w x + total w rest := rfl

@[simp] theorem total_append {α : Type} (w : α → Nat) (xs ys : List α) :
    total w (xs ++ ys) = total w xs + total w ys := by
  induction xs with
  | nil => simp
  | cons x rest ih => simp [ih, Nat.add_assoc]

theorem total_two {α : Type} (xs : List α) : total (fun _ => 2) xs = 2 * xs.length := by
  induction xs with
  | nil => rfl
  | cons x rest ih => simp only [total_cons, ih, List.length_cons]; omega

namespace Hub

variable {κ : Type}

/-- The weight of the callbacks of contexts. -/
def contextLoad (w : κ → Nat) : List (Context κ) → Nat
  | [] => 0
  | c :: rest => total w c.callbacks + contextLoad w rest

/-- The weight of the callbacks that wait. -/
def load (w : κ → Nat) (p : Hub κ) : Nat := contextLoad w p.contexts

theorem contextLoad_append (w : κ → Nat) (xs ys : List (Context κ)) :
    contextLoad w (xs ++ ys) = contextLoad w xs + contextLoad w ys := by
  induction xs with
  | nil => simp [contextLoad]
  | cons c rest ih => simp [contextLoad, ih, Nat.add_assoc]

theorem contextLoad_filter (w : κ → Nat) (keep : Context κ → Bool) (xs : List (Context κ)) :
    contextLoad w (xs.filter keep) ≤ contextLoad w xs := by
  induction xs with
  | nil => simp
  | cons c rest ih =>
    simp only [List.filter_cons]
    split <;> simp only [contextLoad] <;> omega

theorem contextLoad_modifyFirst_same (w : κ → Nat) (id : Nat) (change : Context κ → Context κ)
    (h : ∀ c, (change c).callbacks = c.callbacks) (xs : List (Context κ)) :
    contextLoad w (modifyFirst id change xs) = contextLoad w xs := by
  induction xs with
  | nil => rfl
  | cons c rest ih =>
    simp only [modifyFirst]
    split <;> simp [contextLoad, h, ih]

/-- Taking the callbacks of a context away takes their weight away. -/
theorem contextLoad_modifyFirst_clear (w : κ → Nat) (id : Nat) (xs : List (Context κ)) :
    total w (((xs.find? (·.id = id)).map (·.callbacks)).getD [])
      + contextLoad w (modifyFirst id (fun c => { c with callbacks := [] }) xs)
      = contextLoad w xs := by
  induction xs with
  | nil => rfl
  | cons c rest ih =>
    by_cases h : c.id = id
    · simp [modifyFirst, h, contextLoad]
    · simp only [modifyFirst, List.find?_cons, h, decide_false, if_false, contextLoad]
      omega

theorem contextLoad_modifyFirst_push (w : κ → Nat) (id : Nat) (callback : κ)
    (xs : List (Context κ)) :
    contextLoad w (modifyFirst id (fun c => { c with callbacks := c.callbacks ++ [callback] }) xs)
      ≤ contextLoad w xs + w callback := by
  induction xs with
  | nil => simp [modifyFirst, contextLoad]
  | cons c rest ih =>
    simp only [modifyFirst]
    split
    · simp only [contextLoad, total_append, total_cons, total_nil]
      omega
    · simp only [contextLoad]; omega

/-! ## Operations -/

theorem load_of_contexts {w : κ → Nat} {p q : Hub κ} (h : q.contexts = p.contexts) :
    q.load w = p.load w := by
  simp [load, h]

@[simp] theorem contexts_emit (p : Hub κ) (event : Event) :
    (p.emit event).contexts = p.contexts := rfl

@[simp] theorem contexts_watch (p : Hub κ) : p.watch.contexts = p.contexts := by
  unfold watch; split <;> rfl

@[simp] theorem contexts_register (p : Hub κ) (id : Nat) :
    (p.register id).contexts = p.contexts := rfl

@[simp] theorem contexts_unregister (p : Hub κ) (id : Nat) :
    (p.unregister id).contexts = p.contexts := rfl

@[simp] theorem contexts_install (p : Hub κ) (id : Nat) (options : HandlerOptions) :
    (p.install id options).2.contexts = p.contexts := by
  unfold install
  split
  · rfl
  · dsimp only
    split <;> simp [emit]

@[simp] theorem contexts_uninstall (p : Hub κ) (id : Nat) :
    (p.uninstall id).contexts = p.contexts := by
  unfold uninstall
  split
  · rfl
  · split <;> rfl

@[simp] theorem contexts_deliver (p : Hub κ) (signal : Signal) :
    (p.deliver signal).contexts = p.contexts := by
  unfold deliver; split <;> rfl

@[simp] theorem contexts_releaseDefault (p : Hub κ) (id : Nat) :
    (p.releaseDefault id).contexts = p.contexts := by
  unfold releaseDefault; split <;> rfl

@[simp] theorem contexts_finishShutdown (p : Hub κ) (id : Nat) :
    (p.finishShutdown id).contexts = p.contexts := rfl

@[simp] theorem contexts_noteDelivered (p : Hub κ) (signal : Signal) :
    (p.noteDelivered signal).contexts = p.contexts := rfl

theorem load_setPhase (w : κ → Nat) (p : Hub κ) (id : Nat) (phase : Phase) :
    (p.setPhase id phase).load w = p.load w :=
  contextLoad_modifyFirst_same w id (fun c => { c with phase }) (fun _ => rfl) p.contexts

theorem load_create (w : κ → Nat) (p : Hub κ) : p.create.2.load w = p.load w := by
  simp [create, load, contextLoad_append, contextLoad]

theorem load_defaultContext (w : κ → Nat) (p : Hub κ) :
    p.defaultContext.2.load w = p.load w := by
  have fresh : (defaultContext.fresh p).2.load w = p.load w := load_create w p
  unfold defaultContext
  split
  · split
    · exact fresh
    · rfl
  · exact fresh

theorem load_init {w : κ → Nat} {p q : Hub κ} {id : Nat} {o : InitOptions}
    (h : p.init id o = .ok q) : q.load w = p.load w := by
  unfold init at h
  cases hp : p.prepare id o with
  | error e => simp [hp, Except.map] at h
  | ok found =>
    simp only [hp, Except.map, Except.ok.injEq] at h
    subst h
    unfold openSession
    calc load w (emit (register (setPhase _ _ _) _) _)
        = load w (setPhase (p.install id (p.requestedHandlers id o)).2 id _) := rfl
      _ = load w (p.install id (p.requestedHandlers id o)).2 := load_setPhase ..
      _ = load w p := load_of_contexts (contexts_install ..)

theorem load_beginShutdown {w : κ → Nat} {p q : Hub κ} {id : Nat} {callbacks : List κ}
    (h : p.beginShutdown id = .ok (callbacks, q)) :
    total w callbacks + q.load w = p.load w := by
  unfold beginShutdown at h
  split at h
  · simp at h
  · next session hs =>
    simp only [Except.ok.injEq, Prod.mk.injEq] at h
    obtain ⟨rfl, rfl⟩ := h
    have clear := contextLoad_modifyFirst_clear w id
      (((if session.ownsHandlers then p.uninstall id else p).setPhase id .shutdown).unregister
        id).contexts
    refine clear.trans ?_
    change load w (setPhase _ id .shutdown) = _
    rw [load_setPhase]
    split
    · exact load_of_contexts (contexts_uninstall ..)
    · rfl

theorem load_onShutdown (w : κ → Nat) (p : Hub κ) (id : Nat) (callback : κ) :
    (p.onShutdown id callback).2.load w + total w (p.onShutdown id callback).1.toList
      ≤ p.load w + w callback := by
  unfold onShutdown
  split
  · simp
  · exact contextLoad_modifyFirst_push w id callback p.contexts

theorem load_free (w : κ → Nat) (p : Hub κ) (id : Nat) : (p.free id).load w ≤ p.load w := by
  unfold free
  refine Nat.le_trans (contextLoad_filter w _ _) (Nat.le_of_eq ?_)
  change load w _ = _
  split
  · rfl
  · dsimp only
    split
    · exact load_of_contexts (by simp)
    · rfl

theorem load_foldl_free (w : κ → Nat) (ids : List Nat) (p : Hub κ) :
    (ids.foldl free p).load w ≤ p.load w := by
  induction ids generalizing p with
  | nil => exact Nat.le_refl _
  | cons id rest ih => exact Nat.le_trans (ih _) (load_free w p id)

theorem load_createNode {w : κ → Nat} {p q : Hub κ} {id : Nat} {name ns : String} {node : Node}
    (h : p.createNode id name ns = .ok (node, q)) : q.load w = p.load w := by
  unfold createNode at h
  cases ha : p.arguments id with
  | error e => simp [ha, Except.bind] at h
  | ok a =>
    cases hn : Node.make id a name ns with
    | error e => simp [ha, hn, Except.bind, Except.map] at h
    | ok n =>
      simp only [ha, hn, Except.bind, Except.map, Except.ok.injEq, Prod.mk.injEq] at h
      obtain ⟨_, rfl⟩ := h
      rfl

end Hub
end RobotClient
