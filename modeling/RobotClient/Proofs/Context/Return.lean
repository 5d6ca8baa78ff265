import RobotClient.Proofs.Context.Lockstep

set_option autoImplicit false

/-! # Calls come back

Work is kept on a stack, so what a call brings about is done before the caller goes on. A step takes
the innermost frame away and either puts new ones in its place or answers the frame below
(`grown_advance`); so it never reaches into frames that are deaf to answers, and a run comes back to
them as they were. Main statements: `exists_after_eq` for deaf frames and `exists_answered` for a
caller that waits for its answer. -/

namespace RobotClient

namespace Machine

variable {m r : Machine} {base above : List Frame}

/-! ## What a step does to the frames -/

/-- What part of a step does to frames: it puts new ones on top, or gives them an answer. -/
inductive Grown (frames : List Frame) : List Frame → Prop where
  | push (new : List Frame) : Grown frames (new ++ frames)
  | answer (reply : Reply) : Grown frames (answered reply frames)

theorem Grown.refl (frames : List Frame) : Grown frames frames := .push []

theorem grown_answer {frames : List Frame} (reply : Reply) (h : m.frames = frames) :
    Grown frames (m.answer reply).frames := by
  rw [answer_eq, h]
  exact .answer reply

theorem Called.grown (h : Called m r) : Grown m.frames r.frames := by
  cases h with
  | answer handles nodes reply acts => exact grown_answer reply rfl
  | @shut id callbacks hub releasing reply h hr =>
    have push : Grown m.frames
        ((.shutting id callbacks :: (releasing ++ [.returning reply])) ++ m.frames) := .push _
    simpa using push

theorem Outcome.grown {op : Op} (h : Outcome m op r) : Grown m.frames r.frames := by
  cases h with
  | called h => exact h.grown
  | call callback => exact .push [_, _]
  | race target call count => exact .push [_]
  | takePending reply => exact grown_answer reply rfl
  | dispatch h => exact .push [_]
  | host signal reply hc => exact grown_answer reply rfl
  | caught h hc => exact .push [_]

theorem Concluded.grown {signal : Signal} {before : Option Nat} (h : Concluded m signal before r) :
    Grown m.frames r.frames := by
  cases h with
  | report next he => exact .push [_]
  | raise => exact .push [_]
  | record reply => exact grown_answer reply rfl

/-- A caller on top of the frames is itself one of the new frames. -/
theorem Grown.below {f : Frame} {frames : List Frame} (h : Grown (f :: base) frames) :
    Grown base frames := by
  cases h with
  | push new =>
    have push : Grown base ((new ++ [f]) ++ base) := .push _
    simpa using push
  | answer reply =>
    obtain ⟨f', hf'⟩ := answered_cons reply f
    rw [hf']
    exact .push [f']

theorem grown_advance (m : Machine) (f : Frame) : Grown m.frames (m.advance f).frames := by
  fun_cases advance m f with
  | case1 label op rest replies => exact (outcome_execute
      { m with frames := .script label rest replies :: m.frames } op).grown.below
  | case4 id callback rest => exact .push [_, _]
  | case7 reply => exact grown_answer reply rfl
  | case8 signal id rest count before e h => exact .push [_]
  | case9 signal id rest count before callbacks hub h => exact .push [_, _]
  | case10 signal count before => exact .push [_]
  | case11 next signal before => exact (concluded_conclude m signal before next).grown
  | case12 target call rest replies => exact (called_makeCall
      { m with frames := .racing target call rest replies :: m.frames } target call).grown.below
  | case13 target call replies => exact grown_answer _ rfl
  | _ => exact .refl _

/-! ## Deaf frames -/

/-- Whether frames take no answer, since their innermost one is neither a program nor a race. -/
def Deaf (frames : List Frame) : Prop := ∀ reply, answered reply frames = frames

theorem deaf_returning (reply : Reply) (below : List Frame) : Deaf (.returning reply :: below) :=
  fun _ => rfl

theorem deaf_dispatching (signal : Signal) (line : List Nat) (count : Nat) (before : Option Nat)
    (below : List Frame) : Deaf (.dispatching signal line count before :: below) :=
  fun _ => rfl

theorem deaf_nil : Deaf [] := fun _ => rfl

/-- A step of the work above deaf frames does not reach into them. -/
theorem step_above {f : Frame} (hbase : Deaf base) (hframes : m.frames = f :: (above ++ base)) :
    ∃ above', m.step.frames = above' ++ base := by
  have hgrown := grown_advance { m with frames := above ++ base } f
  rw [step_of_advance hframes rfl]
  change ∃ above',
    (({ m with frames := above ++ base } : Machine).advance f).frames = above' ++ base
  generalize (({ m with frames := above ++ base } : Machine).advance f).frames = frames at hgrown
  cases hgrown with
  | push new => exact ⟨new ++ above, (List.append_assoc ..).symm⟩
  | answer reply =>
    cases above with
    | nil => exact ⟨[], hbase reply⟩
    | cons g above =>
      obtain ⟨g', hg'⟩ := answered_cons reply g
      exact ⟨g' :: above, hg' _⟩

/-- **Work above deaf frames ends**, and leaves them as they were. -/
theorem exists_after_eq {m : Machine} {above : List Frame} (hbase : Deaf base)
    (hframes : m.frames = above ++ base) :
    ∃ n, (m.after n).frames = base ∧
      ∀ k < n, ∃ f above', (m.after k).frames = f :: (above' ++ base) := by
  cases above with
  | nil => exact ⟨0, hframes, fun k hk => absurd hk (Nat.not_lt_zero k)⟩
  | cons f above =>
    obtain ⟨above', habove'⟩ := step_above hbase hframes
    have hwork : m.frames ≠ [] := by simp [hframes]
    obtain ⟨n, hend, hrun⟩ := exists_after_eq hbase habove'
    refine ⟨n + 1, hend, fun k hk => ?_⟩
    cases k with
    | zero => exact ⟨f, above, hframes⟩
    | succ k => exact hrun k (Nat.lt_of_succ_lt_succ hk)
termination_by (m.work, m.weight)
decreasing_by
  rcases lighter_step hwork with hl | ⟨he, hl⟩
  · exact Prod.Lex.left _ _ hl
  · rw [he]
    exact Prod.Lex.right _ hl

/-- All work ends. -/
theorem exists_after_nil (m : Machine) : ∃ n, (m.after n).frames = [] := by
  obtain ⟨n, hend, -⟩ := exists_after_eq deaf_nil (List.append_nil m.frames).symm
  exact ⟨n, hend⟩

/-! ## Callers -/

/-- Whether the call that `m` makes next answers the frames `caller` with `reply`, after `n` steps
    at the end of which nothing is left of the call, and before which the caller waits beneath. -/
structure Answers (m : Machine) (caller : List Frame) (n : Nat) (reply : Reply) : Prop where
  pos : 0 < n
  answer : (m.after n).frames = answered reply caller
  waits : ∀ k, 0 < k → k < n → ∃ f above, (m.after k).frames = f :: (above ++ caller)

theorem Answers.of_step {caller : List Frame} {reply : Reply}
    (h : m.step.frames = answered reply caller) : Answers m caller 1 reply :=
  ⟨Nat.one_pos, h, fun _ hpos hk => absurd hk (Nat.not_lt.2 hpos)⟩

theorem step_returning {reply : Reply} (hframes : m.frames = .returning reply :: base) :
    m.step.frames = answered reply base := by
  rw [step_of_advance hframes rfl]
  change (({ m with frames := base } : Machine).answer reply).frames = _
  rw [answer_eq]

/-- A call whose work has started, with its answer waiting beneath, comes back with that answer. -/
theorem exists_answered {caller : List Frame} {reply : Reply}
    (h : m.step.frames = above ++ .returning reply :: caller) : ∃ n, Answers m caller n reply := by
  obtain ⟨n, hend, hrun⟩ := exists_after_eq (deaf_returning reply caller) h
  refine ⟨n + 2, Nat.succ_pos _, ?_, fun k hpos hk => ?_⟩
  · change (m.step.after (n + 1)).frames = _
    rw [after_succ]
    exact step_returning hend
  · cases k with
    | zero => exact absurd hpos (Nat.lt_irrefl 0)
    | succ k =>
      rcases Nat.lt_or_eq_of_le (Nat.le_of_lt_succ (Nat.lt_of_succ_lt_succ hk)) with hk | rfl
      · obtain ⟨f, above', hframes⟩ := hrun k hk
        exact ⟨f, above' ++ [.returning reply], by
          change (m.step.after k).frames = _
          simpa using hframes⟩
      · exact ⟨.returning reply, [], hend⟩

end Machine
end RobotClient
