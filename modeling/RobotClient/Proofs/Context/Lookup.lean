import Mathlib.Data.List.Nodup
import RobotClient.Context.Load

set_option autoImplicit false

/-! # Looking contexts up

What `find?` gives after each operation of a hub. Ids are never used twice (`Numbered`), so an
operation that is about one context leaves every other as it is. A freed context and one that never
existed look alike: both count as shut down. -/

namespace RobotClient

namespace Hub

variable {κ : Type} {p q : Hub κ}

/-! ## Lists of contexts -/

theorem map_id_modifyFirst (id : Nat) (change : Context κ → Context κ)
    (hc : ∀ c, (change c).id = c.id) (xs : List (Context κ)) :
    (modifyFirst id change xs).map (·.id) = xs.map (·.id) := by
  induction xs with
  | nil => rfl
  | cons c rest ih =>
    simp only [modifyFirst]
    split
    · simp [hc]
    · simp [ih]

theorem find?_modifyFirst (id : Nat) (change : Context κ → Context κ)
    (hc : ∀ c, (change c).id = c.id) (xs : List (Context κ)) (j : Nat) :
    (modifyFirst id change xs).find? (·.id = j)
      = if j = id then (xs.find? (·.id = id)).map change else xs.find? (·.id = j) := by
  induction xs with
  | nil => simp [modifyFirst]
  | cons c rest ih =>
    by_cases h : c.id = id
    · by_cases hj : j = id
      · simp [modifyFirst, h, hj, hc]
      · simp [modifyFirst, h, hj, hc, Ne.symm hj]
    · simp only [modifyFirst, if_neg h]
      by_cases hj : j = id
      · subst hj
        simp only [List.find?_cons, h, decide_false, if_true] at ih ⊢
        exact ih
      · simp only [List.find?_cons, if_neg hj] at ih ⊢
        rw [ih]

theorem find?_of_contexts (h : q.contexts = p.contexts) (id : Nat) : q.find? id = p.find? id := by
  simp [find?, h]

/-! ## Numbering -/

/-- No id is used twice, and all ids were given out. -/
structure Numbered (p : Hub κ) : Prop where
  nodup : (p.contexts.map (·.id)).Nodup
  lt_nextId : ∀ c ∈ p.contexts, c.id < p.nextId

theorem Numbered.of_ids (h : p.Numbered) (hc : q.contexts.map (·.id) = p.contexts.map (·.id))
    (hn : p.nextId ≤ q.nextId) : q.Numbered := by
  refine ⟨hc ▸ h.nodup, fun c hmem => ?_⟩
  have hid : c.id ∈ p.contexts.map (·.id) := hc ▸ List.mem_map_of_mem hmem
  obtain ⟨c', hmem', heq⟩ := List.mem_map.1 hid
  exact heq ▸ Nat.lt_of_lt_of_le (h.lt_nextId c' hmem') hn

/-- Only the context of an id is found under it. -/
theorem find?_eq_some_iff (h : p.Numbered) {id : Nat} {c : Context κ} :
    p.find? id = some c ↔ c ∈ p.contexts ∧ c.id = id := by
  unfold find?
  constructor
  · intro hf
    exact ⟨List.mem_of_find?_eq_some hf, by simpa using List.find?_some hf⟩
  · rintro ⟨hmem, rfl⟩
    cases hf : p.contexts.find? (·.id = c.id) with
    | none => exact absurd (List.find?_eq_none.1 hf c hmem) (by simp)
    | some c' =>
      have hid : c'.id = c.id := by simpa using List.find?_some hf
      rw [List.inj_on_of_nodup_map h.nodup (List.mem_of_find?_eq_some hf) hmem hid]

theorem find?_isSome_iff {id : Nat} :
    (p.find? id).isSome = true ↔ id ∈ p.contexts.map (·.id) := by
  simp [find?]

/-- An id that was not given out yet belongs to no context. -/
theorem find?_of_nextId_le (h : p.Numbered) {id : Nat} (hid : p.nextId ≤ id) :
    p.find? id = none := by
  refine List.find?_eq_none.2 fun c hmem => ?_
  have := h.lt_nextId c hmem
  simp only [decide_eq_true_eq]
  omega

theorem lt_nextId_of_find? (h : p.Numbered) {id : Nat} {c : Context κ}
    (hf : p.find? id = some c) : id < p.nextId := by
  obtain ⟨hmem, rfl⟩ := (find?_eq_some_iff h).1 hf
  exact h.lt_nextId c hmem

/-! ## Phases -/

theorem phase_of_some {id : Nat} {c : Context κ} (h : p.find? id = some c) :
    p.phase id = c.phase := by
  simp [phase, h]

theorem phase_of_none {id : Nat} (h : p.find? id = none) : p.phase id = .shutdown := by
  simp [phase, h]

/-- A context that is not shut down is there. -/
theorem exists_find?_of_phase {id : Nat} (h : p.phase id ≠ .shutdown) :
    ∃ c, p.find? id = some c := by
  cases hfind : p.find? id with
  | none => exact absurd (phase_of_none hfind) h
  | some c => exact ⟨c, rfl⟩

theorem session?_eq_some_iff {id : Nat} {s : Session} :
    p.session? id = some s ↔ ∃ c, p.find? id = some c ∧ c.phase = .initialized s := by
  unfold session? phase
  cases p.find? id with
  | none => simp [Phase.session?]
  | some c => cases hph : c.phase <;> simp [Phase.session?, hph]

theorem isInitialized_iff {id : Nat} :
    p.isInitialized id = true ↔ ∃ c s, p.find? id = some c ∧ c.phase = .initialized s := by
  simp only [isInitialized, Option.isSome_iff_exists, session?_eq_some_iff]
  exact exists_comm

end Hub
end RobotClient
