import RobotClient.Proofs.Context.Forwarding

set_option autoImplicit false

/-! # What is still to be done

A shutdown that has started owes something: each of its callbacks has to start and to finish, and
then the context counts as shut down for good. A context in line to be shut down owes the same. A
run keeps such duties until it meets them. This file says what a duty is (`Duty`), where it is owed
(`Frame.duties`, `Hub.Owes`) and when it is met (`Machine.Meets`), and shows that no change of a hub
and no operation of a callback loses one. -/

namespace RobotClient

open Relation (ReflTransGen)

/-! ## Duties -/

/-- Something that a run still has to do. -/
inductive Duty where
  | start (callback : Callback)
  | finish (label : String)
  | shutDown (id : Nat)

/-- What a frame still has to do. -/
def Frame.duties : Frame → List Duty
  | .shutting id callbacks =>
    .shutDown id :: callbacks.flatMap fun c => [.start c, .finish c.label]
  | .script (some label) _ _ => [.finish label]
  | _ => []

theorem mem_duties_shutting {id : Nat} {callbacks : List Callback} {d : Duty} :
    d ∈ (Frame.shutting id callbacks).duties ↔
      d = .shutDown id ∨ ∃ c ∈ callbacks, d = .start c ∨ d = .finish c.label := by
  simp [Frame.duties]

/-- What a hub owes for the contexts in line to be shut down: for each one that is initialized, what
    its shutdown will have to do. -/
def Hub.Owes (p : Hub Callback) (line : List Nat) (d : Duty) : Prop :=
  ∃ id ∈ line, ∃ c s, p.find? id = some c ∧ c.phase = .initialized s ∧
    d ∈ (Frame.shutting id c.callbacks).duties

namespace Hub

/-! ## Contexts that stay initialized -/

/-- Every context that is initialized stays so and keeps its callbacks. -/
def Carries {κ : Type} (p q : Hub κ) : Prop :=
  ∀ id c s, p.find? id = some c → c.phase = .initialized s →
    ∃ c', q.find? id = some c' ∧ c'.phase = .initialized s ∧ c.callbacks ⊆ c'.callbacks

section
variable {κ : Type} {p q : Hub κ}

theorem Carries.refl (p : Hub κ) : Carries p p := fun _ c _ hc hph =>
  ⟨c, hc, hph, List.Subset.refl _⟩

theorem Carries.trans {r : Hub κ} (h : Carries p q) (h' : Carries q r) : Carries p r := by
  intro id c s hc hph
  obtain ⟨c', hc', hph', hsub⟩ := h id c s hc hph
  obtain ⟨c'', hc'', hph'', hsub'⟩ := h' id c' s hc' hph'
  exact ⟨c'', hc'', hph'', List.Subset.trans hsub hsub'⟩

theorem Carries.of_find? (h : ∀ id c s, p.find? id = some c → c.phase = .initialized s →
    q.find? id = some c) : Carries p q := fun id c s hc hph =>
  ⟨c, h id c s hc hph, hph, List.Subset.refl _⟩

theorem Carries.fresh (hn : p.Numbered) (hq : q.contexts = p.contexts ++ [{ id := p.nextId }]) :
    Carries p q := by
  refine .of_find? fun id c s hc _ => ?_
  have hne : id ≠ p.nextId := Nat.ne_of_lt (lt_nextId_of_find? hn hc)
  rw [find?_of_fresh hn hq, if_neg hne, hc]

/-- What a program does shuts nothing down and takes no callback away. -/
theorem Carries.act (h : Act p q) (hn : p.Numbered) : Carries p q := by
  cases h with
  | create => exact .fresh hn rfl
  | useDefault =>
    rcases defaultContext_cases p with ⟨id, -, -, heq⟩ | ⟨-, heq⟩ <;> rw [heq]
    · exact .refl p
    · exact .fresh hn rfl
  | @init id o q hi =>
    obtain ⟨c, s, watching, events, hc, hph, -, hcase⟩ := init_cases hi
    have hq : q.contexts = modifyFirst id (opened s) p.contexts := by
      rcases hcase with ⟨-, -, rfl⟩ | ⟨-, -, -, rfl⟩ <;> rfl
    refine .of_find? fun j c' s' hc' hph' => ?_
    have hne : j ≠ id := by
      rintro rfl
      rw [hc] at hc'
      obtain rfl := Option.some.inj hc'
      rw [hph] at hph'
      exact absurd hph' (by simp)
    rw [find?_of_modified (opened s) hq (fun _ => rfl) hc, if_neg hne, hc']
  | releaseDefault id =>
    refine .of_find? fun j c s hc _ => ?_
    rw [find?_of_contexts (contexts_releaseDefault p id), hc]
  | onShutdown id callback =>
    rcases onShutdown_cases p id callback with ⟨-, heq⟩ | ⟨-, heq⟩ <;> rw [heq]
    · exact .refl p
    · intro j c s hc hph
      by_cases hj : j = id
      · subst hj
        refine ⟨pushed callback c, ?_, hph, List.subset_append_left ..⟩
        rw [find?_of_modified (pushed callback) rfl (fun _ => rfl) hc, if_pos rfl]
      · refine ⟨c, ?_, hph, List.Subset.refl _⟩
        have hfind := find?_modifyFirst id (pushed callback) (fun _ => rfl) p.contexts j
        rw [if_neg hj] at hfind
        exact hfind.trans hc
  | createNode hc =>
    obtain ⟨arguments, -, -, rfl⟩ := createNode_eq_ok hc
    exact .of_find? fun _ _ _ hc _ => hc

theorem Carries.acts (h : ReflTransGen Act p q) (hn : p.Numbered) : Carries p q := by
  have both : q.Numbered ∧ Carries p q := by
    induction h with
    | refl => exact ⟨hn, .refl p⟩
    | tail _ ha ih => exact ⟨ih.1.act ha, ih.2.trans (.act ha ih.1)⟩
  exact both.2

theorem Calm.acts (h : ReflTransGen Act p q) : Calm p q := by
  induction h with
  | refl => exact .refl p
  | tail _ ha ih => exact ih.trans (.act ha)

end

/-! ## What a hub owes -/

variable {p q : Hub Callback} {line : List Nat} {d : Duty}

theorem Carries.owes (h : Carries p q) (hd : p.Owes line d) : q.Owes line d := by
  obtain ⟨id, hid, c, s, hc, hph, hmem⟩ := hd
  obtain ⟨c', hc', hph', hsub⟩ := h id c s hc hph
  refine ⟨id, hid, c', s, hc', hph', ?_⟩
  rw [mem_duties_shutting] at hmem ⊢
  refine hmem.imp_right ?_
  rintro ⟨callback, hcallback, hd⟩
  exact ⟨callback, hsub hcallback, hd⟩

/-- A shutdown that starts takes over what its context owes. -/
theorem owes_beginShutdown {id : Nat} {callbacks : List Callback}
    (h : p.beginShutdown id = .ok (callbacks, q)) (hd : p.Owes line d) :
    d ∈ (Frame.shutting id callbacks).duties ∨ q.Owes line d := by
  obtain ⟨c, hc, hcallbacks, hq, -⟩ := beginShutdown_closed h
  obtain ⟨j, hj, c', s', hc', hph', hmem⟩ := hd
  by_cases hne : j = id
  · subst hne
    obtain rfl : c = c' := Option.some.inj (hc.symm.trans hc')
    exact .inl (hcallbacks ▸ hmem)
  · refine .inr ⟨j, hj, c', s', ?_, hph', hmem⟩
    rw [find?_of_modified closed hq (fun _ => rfl) hc, if_neg hne, hc']

/-- Once a context is no longer initialized, nothing is owed for it any more. -/
theorem owes_cons_of_not_initialized {id : Nat} (h : p.isInitialized id = false)
    (hd : p.Owes (id :: line) d) : p.Owes line d := by
  obtain ⟨j, hj, c, s, hc, hph, hmem⟩ := hd
  rcases List.mem_cons.1 hj with rfl | hj
  · have : p.isInitialized j = true := isInitialized_iff.2 ⟨c, s, hc, hph⟩
    rw [h] at this
    exact absurd this (by decide)
  · exact ⟨j, hj, c, s, hc, hph, hmem⟩

end Hub
end RobotClient
