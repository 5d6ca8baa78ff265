import RobotClient.Proofs.Context.Reachable
import RobotClient.Proofs.Context.Runs

set_option autoImplicit false

/-! # Carrying a call out

One more call can be made at any moment, also while other work waits: it is put on top of the frames,
and the machine goes on until it is through with it (`carryOut`). As long as the call lets go of
nothing that the waiting work, the names and the slot hold (`Above`), nothing is freed on the way.
A callback that does not call the library just ends. Main statements: `carryOut_answered` for a call
that answers at once, and `returnTo_shutting` for the callbacks of a shutdown. -/

namespace RobotClient

namespace Machine

variable {m r x : Machine} {depth : Nat}

/-! ## Going on -/

/-- Goes on until no more than `depth` frames are left. -/
def returnTo (m : Machine) (depth : Nat) : Machine :=
  if m.frames.length ≤ depth then m else m.step.returnTo depth
termination_by (m.work, m.weight)
decreasing_by
  next h =>
  have hwork : m.frames ≠ [] := by
    intro hnil
    rw [hnil] at h
    exact h (Nat.zero_le depth)
  rcases lighter_step hwork with hl | ⟨he, hl⟩
  · exact Prod.Lex.left _ _ hl
  · rw [he]
    exact Prod.Lex.right _ hl

/-- Makes a call, and goes on until it is over. -/
def carryOut (m : Machine) (op : Op) : Machine :=
  (m.happen (.call [op])).returnTo m.frames.length

theorem returnTo_of_le (h : m.frames.length ≤ depth) : m.returnTo depth = m := by
  rw [returnTo, if_pos h]

theorem returnTo_of_lt (h : depth < m.frames.length) :
    m.returnTo depth = m.step.returnTo depth := by
  rw [returnTo, if_neg (Nat.not_le.2 h)]

/-- Whoever goes on takes some steps. -/
theorem exists_after_eq_returnTo (m : Machine) (depth : Nat) :
    ∃ n, m.returnTo depth = m.after n := by
  fun_induction returnTo m depth with
  | case1 m h => exact ⟨0, rfl⟩
  | case2 m h ih =>
    obtain ⟨n, hn⟩ := ih
    exact ⟨n + 1, hn⟩

theorem Reachable.carryOut (h : m.Reachable) (op : Op) : (m.carryOut op).Reachable := by
  obtain ⟨n, hn⟩ := exists_after_eq_returnTo (m.happen (.call [op])) m.frames.length
  rw [Machine.carryOut, hn]
  exact (h.happen (.call [op])).after n

/-- Settling goes on until nothing is left. -/
theorem settle_eq_returnTo (m : Machine) : m.settle = m.returnTo 0 := by
  fun_induction settle m with
  | case1 m h =>
    rw [returnTo_of_le]
    simpa using h
  | case2 m h ih =>
    rw [ih, ← returnTo_of_lt]
    exact List.length_pos_iff.2 (by simpa using h)

/-! ## Above other work -/

/-- Whether a machine works above the frames of another one, and holds at least what that one
    holds. -/
structure Above (m r : Machine) : Prop where
  ids : r.hub.contexts.map (·.id) = m.hub.contexts.map (·.id)
  slot : r.hub.slot = m.hub.slot
  handles : r.handles = m.handles
  nodes : m.nodes ⊆ r.nodes
  frames : m.frames <:+ r.frames

/-- Whether a frame holds a context depends on nothing else, so frames on top let go of nothing. -/
theorem Above.held (h : Above m r) {id : Nat} (hheld : m.held id = true) : r.held id = true := by
  simp only [Machine.held, Bool.or_eq_true, List.any_eq_true] at hheld ⊢
  rcases hheld with ((⟨entry, hentry, hid⟩ | ⟨entry, hentry, hid⟩) | hslot) | ⟨f, hf, hid⟩
  · exact .inl (.inl (.inl ⟨entry, h.handles ▸ hentry, hid⟩))
  · exact .inl (.inl (.inr ⟨entry, h.nodes hentry, hid⟩))
  · exact .inl (.inr (h.slot ▸ hslot))
  · exact .inr ⟨f, h.frames.subset hf, hid⟩

/-- Nothing is freed above a machine whose contexts are all held. -/
theorem Above.collect (h : Above m r) (hm : m.unheld = []) : r.collect = r := by
  refine Machine.collect_eq_self (List.filter_eq_nil_iff.2 fun id hid => ?_)
  have hheld : m.held id = true := by
    by_contra hnot
    have hmem : id ∈ m.unheld := List.mem_filter.2 ⟨h.ids ▸ hid, by simpa using hnot⟩
    rw [hm] at hmem
    exact absurd hmem List.not_mem_nil
  simp [h.held hheld]

/-- A step above other work is what its frame does. -/
theorem Above.returnTo_step {f : Frame} {below : List Frame} (h : Above m r)
    (hm : m.unheld = []) (hframes : x.frames = f :: below)
    (hadvance : ({ x with frames := below } : Machine).advance f = r)
    (hdepth : depth ≤ below.length) : x.returnTo depth = r.returnTo depth := by
  have hlt : depth < x.frames.length := by
    rw [hframes, List.length_cons]
    omega
  rw [returnTo_of_lt hlt, step_of_advance hframes hadvance, h.collect hm]

/-- A callback that does not call the library ends right after its start. -/
theorem returnTo_callback (hm : m.unheld = []) (h : Above m x) (label : String)
    (hdepth : depth ≤ x.frames.length) :
    ({ x with frames := .script (some label) [] [] :: x.frames } : Machine).returnTo depth
      = ({ x with finished := x.finished ++ [⟨label, []⟩] } : Machine).returnTo depth :=
  Above.returnTo_step (r := { x with finished := x.finished ++ [⟨label, []⟩] })
    ⟨h.ids, h.slot, h.handles, h.nodes, h.frames⟩ hm rfl rfl hdepth

/-- **The callbacks of a shutdown** that do not call the library run one after another, and then the
    shutdown is over. -/
theorem returnTo_shutting (hm : m.unheld = []) (id : Nat) (callbacks : List Callback)
    (hquiet : ∀ callback ∈ callbacks, callback.body = []) (x : Machine) (h : Above m x)
    (hdepth : depth ≤ x.frames.length) :
    ({ x with frames := .shutting id callbacks :: x.frames } : Machine).returnTo depth
      = ({ x with
          hub := x.hub.finishShutdown id
          finished := x.finished ++ callbacks.map fun callback => ⟨callback.label, []⟩ } :
          Machine).returnTo depth := by
  induction callbacks generalizing x with
  | nil =>
    rw [List.map_nil, List.append_nil]
    exact Above.returnTo_step (r := { x with hub := x.hub.finishShutdown id })
      ⟨h.ids, h.slot, h.handles, h.nodes, h.frames⟩ hm rfl rfl hdepth
  | cons callback rest ih =>
    obtain ⟨hbody, hrest⟩ := List.forall_mem_cons.1 hquiet
    -- the first callback starts above the others, and ends
    have habove : Above m { x with frames := .shutting id rest :: x.frames } :=
      ⟨h.ids, h.slot, h.handles, h.nodes, h.frames.trans (List.suffix_cons _ _)⟩
    have hstart : ({ x with frames := .shutting id (callback :: rest) :: x.frames } :
          Machine).returnTo depth
        = ({ x with frames := .script (some callback.label) [] [] :: .shutting id rest
            :: x.frames } : Machine).returnTo depth := by
      refine Above.returnTo_step (m := m) ?_ hm rfl (by rw [advance, hbody]) hdepth
      exact ⟨h.ids, h.slot, h.handles, h.nodes, habove.frames.trans (List.suffix_cons _ _)⟩
    have hend := returnTo_callback hm habove callback.label (Nat.le_succ_of_le hdepth)
    have hothers := ih hrest { x with finished := x.finished ++ [⟨callback.label, []⟩] }
      ⟨h.ids, h.slot, h.handles, h.nodes, h.frames⟩ hdepth
    rw [hstart, hend, hothers, List.map_cons, List.append_assoc, List.singleton_append]

/-! ## Calls -/

/-- The machine in which a call does its only operation. -/
def calling (m : Machine) : Machine :=
  { m with frames := .script none [] [] :: m.frames, finished := [], replies := [] }

/-- A call whose operation starts something goes on from there. -/
theorem carryOut_eq {op : Op} (hm : m.unheld = []) (h : Above m r) (hr : m.calling.execute op = r) :
    m.carryOut op = r.returnTo m.frames.length :=
  h.returnTo_step hm rfl hr (Nat.le_refl _)

/-- The end of a program holds nothing. -/
theorem collect_script (m : Machine) (replies : List Reply) :
    ({ m with frames := .script none [] replies :: m.frames } : Machine).collect
      = { m.collect with frames := .script none [] replies :: m.frames } := by
  have hheld : ({ m with frames := .script none [] replies :: m.frames } : Machine).held = m.held := by
    funext id
    simp only [held, List.any_cons, Frame.holds, Bool.false_or]
  simp only [collect, unheld, hheld]

/-- **A call that answers at once** frees what it lets go of, and that is all. -/
theorem carryOut_answered {op : Op} {hub : Hub Callback} {handles : List (String × Nat)}
    {nodes : List (String × Node)} {reply : Reply}
    (hexecute : m.calling.execute op = { m.calling with hub, handles, nodes }.answer reply) :
    m.carryOut op
      = ({ m with hub, handles, nodes, finished := [], replies := [reply] } : Machine).collect := by
  let done : Machine := { m with hub, handles, nodes, finished := [], replies := [reply] }
  -- the operation answers, and what nobody holds any more is freed
  have hanswer : (m.happen (.call [op])).step
      = { done.collect with frames := .script none [] [reply] :: m.frames, replies := [] } := by
    have hadvance : ({ m.happen (.call [op]) with frames := m.frames } : Machine).advance
        (.script none [op] []) = { m.calling with hub, handles, nodes }.answer reply := hexecute
    rw [step_of_advance (m := m.happen (.call [op])) rfl hadvance]
    exact collect_script { done with replies := [] } [reply]
  -- the call ends, which lets go of nothing
  have hend : (m.happen (.call [op])).step.step = done.collect := by
    rw [hanswer, step_of_advance rfl rfl]
    exact Machine.collect_eq_self (unheld_collect done)
  rw [carryOut, returnTo_of_lt (by simp [happen]), returnTo_of_lt (by simp [hanswer]), hend]
  exact returnTo_of_le (Nat.le_refl _)

/-- An answer that waits below is given, and the call ends with it. -/
theorem returnTo_returning (hm : m.unheld = []) (h : Above m x) (hframes : x.frames = m.frames)
    (reply : Reply) :
    ({ x with frames := .returning reply :: .script none [] [] :: m.frames } : Machine).returnTo
      m.frames.length = { x with replies := [reply] } := by
  have hanswer : ({ x with frames := .returning reply :: .script none [] [] :: m.frames } :
        Machine).returnTo m.frames.length
      = ({ x with frames := .script none [] [reply] :: m.frames } : Machine).returnTo
          m.frames.length := by
    refine Above.returnTo_step (m := m) ?_ hm rfl rfl (Nat.le_succ _)
    exact ⟨h.ids, h.slot, h.handles, h.nodes, List.suffix_cons _ _⟩
  have hend : ({ x with frames := .script none [] [reply] :: m.frames } : Machine).returnTo
        m.frames.length
      = ({ x with replies := [reply], frames := m.frames } : Machine).returnTo
          m.frames.length := by
    refine Above.returnTo_step (m := m) ?_ hm rfl rfl (Nat.le_refl _)
    exact ⟨h.ids, h.slot, h.handles, h.nodes, List.suffix_rfl⟩
  rw [hanswer, hend, returnTo_of_le (Nat.le_refl _), ← hframes]

end Machine
end RobotClient
