import RobotClient.Proofs.Context.Calls
import RobotClient.Proofs.Context.Return

set_option autoImplicit false

/-! # Every operation comes back

What an operation starts is done after a number of steps, and then the program has its answer. Two
machines in lockstep take the same number of steps and give the same answer, unless the operation
asks an odd question. The work above the program ends with a frame that owes the answer
(`Answering`), and a step keeps that until the answer is given (`Matched.step_above`). Main
statement: `Matched.exists_answers`. -/

namespace RobotClient

namespace Machine

variable {odd : Nat → Question → Prop} {R : Hub Callback → Hub Callback → Prop}
  {S : List Reply → List Reply → Prop} {m m' : Machine} {f f' : Frame}
  {above above' base base' : List Frame}

/-! ## Frames that owe an answer -/

theorem Answering.append (h : Answering above) (front : List Frame) :
    Answering (front ++ above) := by
  obtain ⟨front', last, rfl, howes⟩ := h
  exact ⟨front ++ front', last, (List.append_assoc ..).symm, howes⟩

theorem answering_cons (h : Answering (f :: above)) :
    (above = [] ∧ f.owes = true) ∨ Answering above := by
  obtain ⟨front, last, heq, howes⟩ := h
  cases front with
  | nil =>
    obtain ⟨rfl, rfl⟩ := List.cons.inj heq
    exact .inl ⟨rfl, howes⟩
  | cons g front =>
    obtain ⟨-, rfl⟩ := List.cons.inj heq
    exact .inr ⟨front, last, rfl, howes⟩

/-- What a frame leaves when it goes on still owes the answer, unless nothing is left. -/
theorem answering_lowered (h : Answering (f :: above)) :
    f.lowered ++ above = [] ∧ f.owes = true ∨ Answering (f.lowered ++ above) := by
  rcases answering_cons h with ⟨rfl, howes⟩ | habove
  · cases f with
    | racing target call left replies =>
      cases left with
      | zero => exact .inl ⟨rfl, rfl⟩
      | succ left => exact .inr (answering_concat [] rfl)
    | returning | dispatching | concluding => exact .inl ⟨rfl, rfl⟩
    | script | shutting | releasing => exact absurd howes (by simp [Frame.owes])
  · exact .inr (habove.append _)

theorem calls_of_owes (h : f.owes = true) : f.calls = true := by
  cases f with
  | returning | dispatching | concluding | racing => rfl
  | script | shutting | releasing => exact absurd h (by simp [Frame.owes])

/-- A frame that gets an answer owes one if it did before. -/
theorem answered_cons_owes (reply : Reply) (f : Frame) :
    ∃ f', f'.owes = f.owes ∧ ∀ below, answered reply (f :: below) = f' :: below := by
  cases f <;> refine ⟨_, ?_, fun _ => rfl⟩ <;> rfl

theorem Answering.cons (h : Answering (f :: above)) (howes : f'.owes = f.owes) :
    Answering (f' :: above) := by
  rcases answering_cons h with ⟨rfl, hf⟩ | habove
  · exact answering_concat [] (howes.trans hf)
  · exact habove.append [f']

/-! ## Lockstep above two programs -/

/-- The same change above two stacks: either it answers them, or it leaves as much work above the one
    as above the other, which owes the answer if what was there before did. -/
theorem Changed.onto {called : Prop} {left left' stack stack' : List Frame}
    (h : Changed called (left ++ base) (left' ++ base') stack stack')
    (hlength : left'.length = left.length) (howing : left = [] ∧ called ∨ Answering left) :
    (∃ reply, stack = answered reply base ∧ stack' = answered reply base') ∨
    ∃ new new', stack = new ++ base ∧ stack' = new' ++ base' ∧
      new'.length = new.length ∧ Answering new := by
  cases h with
  | answer reply =>
    cases left with
    | nil =>
      obtain rfl := List.length_eq_zero_iff.1 hlength
      exact .inl ⟨reply, rfl, rfl⟩
    | cons g left =>
      -- the answer goes to the work that is left, which is as long as before
      obtain ⟨g', left', rfl⟩ := List.exists_cons_of_length_eq_add_one hlength
      obtain ⟨h, hh, hanswered⟩ := answered_cons_owes reply g
      obtain ⟨h', -, hanswered'⟩ := answered_cons_owes reply g'
      rw [List.cons_append, List.cons_append, hanswered, hanswered']
      refine .inr ⟨h :: left, h' :: left', rfl, rfl, hlength, ?_⟩
      exact (howing.resolve_left (by simp)).cons hh
  | push new hnew =>
    refine .inr ⟨new ++ left, new ++ left', (List.append_assoc ..).symm,
      (List.append_assoc ..).symm, by simp [hlength], ?_⟩
    rcases howing with ⟨rfl, hcalled⟩ | howing
    · rw [List.append_nil]
      exact hnew hcalled
    · exact howing.append new

section
variable (hR : Congruence odd R) (hS : Records odd R S)
include hR hS

/-- A step of the work above two stacks either answers both, with the same reply, or leaves as much
    work above the one as above the other. -/
theorem Matched.step_above (h : Matched R S m m') (hframes : m.frames = f :: (above ++ base))
    (hframes' : m'.frames = f' :: (above' ++ base')) (hlength : above'.length = above.length)
    (hanswering : Answering (f :: above)) :
    (∃ reply, m.step.frames = answered reply base ∧ m'.step.frames = answered reply base') ∨
    ∃ new new', m.step.frames = new ++ base ∧ m'.step.frames = new' ++ base' ∧
      new'.length = new.length ∧ Answering new := by
  have hboth := h.frames
  rw [hframes, hframes', List.forall₂_cons] at hboth
  obtain ⟨hf, hbelow⟩ := hboth
  have hmatched : Matched R S { m with frames := above ++ base }
      { m' with frames := above' ++ base' } :=
    ⟨h.hub, h.handles, h.nodes, hbelow, h.finished, h.replies⟩
  have hstep : m.step.frames
      = (({ m with frames := above ++ base } : Machine).advance f).frames := by
    rw [step_of_advance hframes rfl]
    rfl
  have hstep' : m'.step.frames
      = (({ m' with frames := above' ++ base' } : Machine).advance f').frames := by
    rw [step_of_advance hframes' rfl]
    rfl
  rw [hstep, hstep']
  by_cases hodd : f.AsksOdd odd m.handles
  · -- the program that asks gets its own answer, and goes on
    obtain ⟨label, question, handle, rest, xs, id, rfl, hlookup, -⟩ := exists_of_asksOdd hodd
    obtain ⟨ys, rfl, -⟩ := exists_of_matched_script hS hf
    have hlookup' : m'.handles.lookup handle = some id := by rw [h.handles, hlookup]
    simp only [Machine.advance, Machine.execute, withHandle, hlookup, hlookup', answer_eq]
    refine .inr ⟨.script label rest _ :: above, .script label rest _ :: above', rfl, rfl,
      by simp [hlength], ?_⟩
    exact hanswering.cons rfl
  · have hsame := (hmatched.advance_same hR hf hodd).frames
    have hlowered : f'.lowered.length = f.lowered.length := (matched_lowered hf).length_eq.symm
    have hleft : (f'.lowered ++ above').length = (f.lowered ++ above).length := by
      rw [List.length_append, List.length_append, hlength, hlowered]
    rw [← List.append_assoc, ← List.append_assoc] at hsame
    refine hsame.onto hleft ((answering_lowered hanswering).imp_left ?_)
    exact fun hleft => ⟨hleft.1, calls_of_owes hleft.2⟩

/-- The work above two stacks in lockstep ends at the same time, and with the same answer. -/
theorem Matched.exists_answered {m m' : Machine} {above above' : List Frame} (h : Matched R S m m')
    (hframes : m.frames = above ++ base) (hframes' : m'.frames = above' ++ base')
    (hlength : above'.length = above.length) (hanswering : Answering above) :
    ∃ n reply, (m.after n).frames = answered reply base ∧
      (m'.after n).frames = answered reply base' ∧
      ∀ k < n, (∃ f new, (m.after k).frames = f :: (new ++ base)) ∧
        ∃ f new, (m'.after k).frames = f :: (new ++ base') := by
  cases above with
  | nil => exact absurd hanswering (by simp [Answering])
  | cons f above =>
    obtain ⟨f', above', rfl⟩ := List.exists_cons_of_length_eq_add_one hlength
    have hwork : m.frames ≠ [] := by simp [hframes]
    have hnow : (∃ f new, m.frames = f :: (new ++ base)) ∧
        ∃ f new, m'.frames = f :: (new ++ base') :=
      ⟨⟨f, above, hframes⟩, f', above', hframes'⟩
    rcases h.step_above hR hS hframes hframes' (by simpa using hlength) hanswering with
      ⟨reply, hanswer, hanswer'⟩ | ⟨new, new', hnew, hnew', hlength', howing⟩
    · refine ⟨1, reply, hanswer, hanswer', fun k hk => ?_⟩
      obtain rfl := Nat.lt_one_iff.1 hk
      exact hnow
    · obtain ⟨n, reply, hanswer, hanswer', hwaits⟩ :=
        Matched.exists_answered (h.step hR hS) hnew hnew' hlength' howing
      refine ⟨n + 1, reply, hanswer, hanswer', fun k hk => ?_⟩
      cases k with
      | zero => exact hnow
      | succ k => exact hwaits k (Nat.lt_of_succ_lt_succ hk)
termination_by (m.work, m.weight)
decreasing_by
  rcases lighter_step hwork with hl | ⟨he, hl⟩
  · exact Prod.Lex.left _ _ hl
  · rw [he]
    exact Prod.Lex.right _ hl

/-- **Every operation comes back**, in two machines in lockstep after the same number of steps and
with the same answer, unless it asks an odd question; that is answered at once. -/
theorem Matched.exists_answers {label : Option String} {op : Op} {rest : List Op}
    {replies : List Reply} {below : List Frame} (h : Matched R S m m')
    (hframes : m.frames = .script label (op :: rest) replies :: below) :
    ∃ n x y, m.Answers m.caller.frames n x ∧ m'.Answers m'.caller.frames n y ∧
      (x = y ∨ ∃ question handle id, op = .ask question handle ∧
        m.handles.lookup handle = some id ∧ odd id question ∧
        x = reply m.hub id question ∧ y = reply m'.hub id question) := by
  have hboth := h.frames
  rw [hframes, List.forall₂_cons_left_iff] at hboth
  obtain ⟨f', below', hf, hbelow, hframes'⟩ := hboth
  obtain ⟨replies', rfl, hreplies⟩ := exists_of_matched_script hS hf
  have hcaller : m.caller = { m with frames := .script label rest replies :: below } := by
    simp only [caller, hframes]
  have hcaller' : m'.caller = { m' with frames := .script label rest replies' :: below' } := by
    simp only [caller, hframes']
  have hstep : m.step.frames = (m.caller.execute op).frames := by rw [step_of_script hframes]; rfl
  have hstep' : m'.step.frames = (m'.caller.execute op).frames := by rw [step_of_script hframes']; rfl
  have hmatched : Matched R S m.caller m'.caller := by
    rw [hcaller, hcaller']
    exact ⟨h.hub, h.handles, h.nodes, .cons (.script label rest hreplies) hbelow, h.finished,
      h.replies⟩
  by_cases hodd : ∃ question handle id, op = .ask question handle ∧
      m.handles.lookup handle = some id ∧ odd id question
  · obtain ⟨question, handle, id, rfl, hlookup, hask⟩ := hodd
    have hlookup' : m'.handles.lookup handle = some id := by rw [h.handles, hlookup]
    refine ⟨1, reply m.hub id question, reply m'.hub id question, .of_step ?_, .of_step ?_,
      .inr ⟨question, handle, id, rfl, hlookup, hask, rfl, rfl⟩⟩
    · rw [hstep, Machine.execute, withHandle, handles_caller, hlookup]
      simp only [answer_eq, hub_caller]
    · rw [hstep', Machine.execute, withHandle, handles_caller, hlookup']
      simp only [answer_eq, hub_caller]
  · have hsame : Same R True m.caller.frames m'.caller.frames _ _ :=
      Paired.execute hR hmatched.paired op fun question handle id hop hlookup hask =>
        hodd ⟨question, handle, id, hop, handles_caller m ▸ hlookup, hask⟩
    have hchanged := hsame.frames
    rw [← hstep, ← hstep'] at hchanged
    generalize hafter : m.step.frames = after at hchanged
    generalize hafter' : m'.step.frames = after' at hchanged
    cases hchanged with
    | answer reply => exact ⟨1, reply, reply, .of_step hafter, .of_step hafter', .inl rfl⟩
    | push new hnew =>
      obtain ⟨n, reply, hanswer, hanswer', hwaits⟩ :=
        (h.step hR hS).exists_answered hR hS hafter hafter' rfl (hnew trivial)
      refine ⟨n + 1, reply, reply, ⟨Nat.succ_pos n, hanswer, fun k hpos hk => ?_⟩,
        ⟨Nat.succ_pos n, hanswer', fun k hpos hk => ?_⟩, .inl rfl⟩
      · obtain ⟨k, rfl⟩ := Nat.exists_eq_succ_of_ne_zero (Nat.ne_of_gt hpos)
        exact (hwaits k (Nat.lt_of_succ_lt_succ hk)).1
      · obtain ⟨k, rfl⟩ := Nat.exists_eq_succ_of_ne_zero (Nat.ne_of_gt hpos)
        exact (hwaits k (Nat.lt_of_succ_lt_succ hk)).2

end

end Machine
end RobotClient
