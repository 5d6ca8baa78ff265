import RobotClient.Proofs.Context.Calls

set_option autoImplicit false

/-! # The end of a dispatch

When its line is empty, a dispatch reports its signal, looks for an owner of the handlers, raises
the signal again if there is none, notes it as dealt with, and answers. Each of these is a step, and
none lets go of a context. `Ending` says what all of them come to, built up from the last one, and
`exists_ending` is the main statement. Nothing comes in between here; `Inheritance` has what may
come of it if something does. -/

namespace RobotClient

namespace Machine

variable {signal : Signal} {before : Option Nat} {base : List Frame} {m : Machine}

/-! ## Steps -/

theorem any_holds_answered (id : Nat) (reply : Reply) (frames : List Frame) :
    (answered reply frames).any (Frame.holds id) = frames.any (Frame.holds id) := by
  cases frames with
  | nil => rfl
  | cons f below => cases f <;> rfl

theorem Concluded.held {r : Machine} (h : Concluded m signal before r) (id : Nat) :
    r.held id = m.held id := by
  cases h with
  | report next h => rfl
  | raise => simp [Machine.held, Frame.holds, Hub.slot_deliver]
  | record reply => simp [Machine.held, answer_eq, any_holds_answered, Hub.noteDelivered]

/-- At its end a dispatch lets go of nothing. -/
theorem step_concluding {next : Conclusion} (h : m.Reachable)
    (hframes : m.frames = .concluding next signal before :: base) :
    m.step = ({ m with frames := base } : Machine).conclude signal before next := by
  have concluded := concluded_conclude { m with frames := base } signal before next
  refine h.step_eq hframes rfl concluded.contexts.1 fun id hheld => ?_
  rw [concluded.held]
  simpa [Machine.held, hframes, Frame.holds] using hheld

theorem step_dispatched {count : Nat} (h : m.Reachable)
    (hframes : m.frames = .dispatching signal [] count before :: base) :
    m.step = { m with
      hub := m.hub.emit (.signalReceived signal count)
      frames := .concluding .check signal before :: base } := by
  have concluded := concluded_line { m with frames := base } signal count before
  refine h.step_eq hframes rfl concluded.contexts.1 fun id hheld => ?_
  rw [concluded.held]
  simpa [Machine.held, hframes, Frame.holds] using hheld

/-! ## From the end of the line to the answer -/

/-- What the end of a dispatch leaves as it is. -/
structure Rests (m r : Machine) : Prop where
  contexts : r.hub.contexts = m.hub.contexts
  pending : r.hub.pending = m.hub.pending
  table : r.hub.table = m.hub.table

/-- The end of a dispatch, which takes `n` steps; `received` is what has reached the host by
    then. -/
structure Ending (signal : Signal) (base : List Frame) (m : Machine)
    (received : List (Signal × Nat)) (n : Nat) : Prop where
  own : ∀ k < n, ∃ f, (m.after k).frames = f :: base ∧ f.signal? = some signal
  rests : ∀ k ≤ n, Rests m (m.after k)
  returned : (m.after n).frames = answered (.ok (.signal (some signal))) base
  delivered : (m.after n).hub.delivered = some signal
  received_eq : (m.after n).hub.received = received

/-- An end with one step more in front. -/
theorem Ending.head {f : Frame} {received : List (Signal × Nat)} {n : Nat}
    (hframes : m.frames = f :: base) (hf : f.signal? = some signal) (rests : Rests m m.step)
    (h : Ending signal base m.step received n) : Ending signal base m received (n + 1) where
  own k hk := by
    cases k with
    | zero => exact ⟨f, hframes, hf⟩
    | succ k => exact h.own k (Nat.lt_of_succ_lt_succ hk)
  rests k hk := by
    cases k with
    | zero => exact ⟨rfl, rfl, rfl⟩
    | succ k =>
      have later := h.rests k (Nat.le_of_succ_le_succ hk)
      exact ⟨later.contexts.trans rests.contexts, later.pending.trans rests.pending,
        later.table.trans rests.table⟩
  returned := h.returned
  delivered := h.delivered
  received_eq := h.received_eq

theorem ending_record (h : m.Reachable)
    (hframes : m.frames = .concluding .record signal none :: base) :
    Ending signal base m m.hub.received 1 := by
  have hstep := step_concluding h hframes
  simp only [conclude, answer_eq] at hstep
  have done : ∀ r, r = m.step → Ending signal base r m.hub.received 0 := by
    intro r hr
    rw [hstep] at hr
    refine ⟨fun k hk => absurd hk (Nat.not_lt_zero k), fun k hk => ?_, ?_, ?_, ?_⟩
    · obtain rfl := Nat.le_zero.1 hk
      exact ⟨rfl, rfl, rfl⟩
    all_goals
      rw [hr]
      rfl
  exact (done m.step rfl).head hframes rfl (by rw [hstep]; exact ⟨rfl, rfl, rfl⟩)

theorem ending_raise {label : Nat} (h : m.Reachable)
    (hframes : m.frames = .concluding .raise signal none :: base)
    (hget : m.hub.dispositions.get signal = .host label) :
    Ending signal base m (m.hub.received ++ [(signal, label)]) 2 := by
  have hstep : m.step = { m with
      hub := { m.hub with received := m.hub.received ++ [(signal, label)] }
      frames := .concluding .record signal none :: base } := by
    rw [step_concluding h hframes]
    simp only [conclude, Hub.deliver, hget]
  have hnext : m.step.frames = .concluding .record signal none :: base := by rw [hstep]
  have hreceived : m.step.hub.received = m.hub.received ++ [(signal, label)] := by rw [hstep]
  have record := ending_record h.step hnext
  rw [hreceived] at record
  exact record.head hframes rfl (by rw [hstep]; exact ⟨rfl, rfl, rfl⟩)

/-- The dispatch finds the handlers without an owner, and raises the signal. -/
theorem ending_forwarded {label : Nat} (h : m.Reachable)
    (hframes : m.frames = .concluding .check signal none :: base) (htable : m.hub.table = none)
    (hget : m.hub.dispositions.get signal = .host label) :
    Ending signal base m (m.hub.received ++ [(signal, label)]) 3 := by
  have hstep := step_concluding h hframes
  simp only [conclude, htable] at hstep
  have hnext : m.step.frames = .concluding .raise signal none :: base := by rw [hstep]
  have hhub : m.step.hub = m.hub.emit (.signalForwarded signal) := by rw [hstep]
  have hget' : m.step.hub.dispositions.get signal = .host label := by rw [hhub]; exact hget
  have raise := ending_raise h.step hnext hget'
  rw [hhub] at raise
  exact raise.head hframes rfl (by rw [hstep]; exact ⟨rfl, rfl, rfl⟩)

/-- The dispatch finds an owner, and leaves the signal at that. -/
theorem ending_kept {t : HandlerTable} (h : m.Reachable)
    (hframes : m.frames = .concluding .check signal none :: base) (htable : m.hub.table = some t) :
    Ending signal base m m.hub.received 2 := by
  have hstep := step_concluding h hframes
  simp only [conclude, htable] at hstep
  have hnext : m.step.frames = .concluding .record signal none :: base := by rw [hstep]
  have hhub : m.step.hub = m.hub.emit (.signalKept signal) := by rw [hstep]
  have record := ending_record h.step hnext
  rw [hhub] at record
  exact record.head hframes rfl (by rw [hstep]; exact ⟨rfl, rfl, rfl⟩)

/-- **The end of a dispatch.** The signal reaches the host if nobody owns the handlers when the
    dispatch looks, and nobody otherwise. -/
theorem exists_ending {count label : Nat} (h : m.Reachable)
    (hframes : m.frames = .dispatching signal [] count none :: base)
    (hget : m.hub.table = none → m.hub.dispositions.get signal = .host label) :
    ∃ received n, Ending signal base m received n ∧
      (m.hub.table = none → received = m.hub.received ++ [(signal, label)]) ∧
      ∀ t, m.hub.table = some t → received = m.hub.received := by
  have hstep := step_dispatched h hframes
  have hnext : m.step.frames = .concluding .check signal none :: base := by rw [hstep]
  have hhub : m.step.hub = m.hub.emit (.signalReceived signal count) := by rw [hstep]
  have rests : Rests m m.step := by
    rw [hstep]
    exact ⟨rfl, rfl, rfl⟩
  cases howner : m.hub.table with
  | none =>
    have hget' : m.step.hub.dispositions.get signal = .host label := by
      rw [hhub]
      exact hget howner
    have forwarded := ending_forwarded h.step hnext (rests.table.trans howner) hget'
    rw [hhub] at forwarded
    exact ⟨_, 4, forwarded.head hframes rfl rests, fun _ => rfl, fun t ht => absurd ht (by simp)⟩
  | some t =>
    have kept := ending_kept h.step hnext (rests.table.trans howner)
    rw [hhub] at kept
    exact ⟨_, 3, kept.head hframes rfl rests, fun hnone => absurd hnone (by simp), fun _ _ => rfl⟩

end Machine
end RobotClient
