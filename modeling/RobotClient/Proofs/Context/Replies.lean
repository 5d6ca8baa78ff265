import RobotClient.Proofs.Context.Lockstep

set_option autoImplicit false

/-! # Replies are only written

A machine adds replies to its programs but never reads one. So two machines that differ only by one
reply that a program has got in between go on in lockstep, whatever happens to both: `Like` relates
such machines, and `Like.run` says that they stay related. -/

namespace RobotClient

/-! ## Machines that differ in a reply -/

/-- Two lists of replies that are the same, or differ by one reply that the second has in
    between. -/
def Inserted (x : Reply) (xs ys : List Reply) : Prop :=
  xs = ys ∨ ∃ front back, xs = front ++ back ∧ ys = front ++ x :: back

theorem Inserted.append {x : Reply} {xs ys : List Reply} (h : Inserted x xs ys) (reply : Reply) :
    Inserted x (xs ++ [reply]) (ys ++ [reply]) := by
  rcases h with rfl | ⟨front, back, rfl, rfl⟩
  · exact .inl rfl
  · exact .inr ⟨front, back ++ [reply], by simp, by simp⟩

/-- Two frames that differ at most by a reply. -/
inductive Frame.Like (x : Reply) : Frame → Frame → Prop where
  | same (f : Frame) : Like x f f
  | script (label : Option String) (rest : List Op) {xs ys : List Reply} (h : Inserted x xs ys) :
    Like x (.script label rest xs) (.script label rest ys)

/-- Two callbacks that have run and differ at most by a reply. -/
def FinishedCallback.Like (x : Reply) (f g : FinishedCallback) : Prop :=
  g.label = f.label ∧ Inserted x f.replies g.replies

namespace Machine

/-- Two machines that differ at most by replies `x`, one in each program. -/
structure Like (x : Reply) (m m' : Machine) : Prop where
  hub : m'.hub = m.hub
  handles : m'.handles = m.handles
  nodes : m'.nodes = m.nodes
  frames : List.Forall₂ (Frame.Like x) m.frames m'.frames
  finished : List.Forall₂ (FinishedCallback.Like x) m.finished m'.finished
  replies : Inserted x m.replies m'.replies

variable {x : Reply} {m m' : Machine}

theorem forall₂_same (frames : List Frame) : List.Forall₂ (Frame.Like x) frames frames :=
  List.forall₂_same.2 fun f _ => .same f

theorem Like.refl (x : Reply) (m : Machine) : Like x m m :=
  ⟨rfl, rfl, rfl, forall₂_same m.frames, List.forall₂_same.2 fun _ _ => ⟨rfl, .inl rfl⟩, .inl rfl⟩

/-! ## Lockstep -/

theorem inserted_records (x : Reply) :
    Records (fun _ _ => False) (fun p q => q = p) (Inserted x) where
  refl _ := .inl rfl
  append h reply := h.append reply
  odd _ hodd := hodd.elim

theorem like_frame_iff {f f' : Frame} :
    Frame.Like x f f' ↔ Frame.Matched (Inserted x) f f' := by
  constructor
  · rintro (f | ⟨label, rest, h⟩)
    · exact .same f
    · exact .script label rest h
  · rintro (f | ⟨label, rest, h⟩)
    · exact .same f
    · exact .script label rest h

/-- Machines that differ by a reply have the same hub and are matched up to that reply. -/
theorem like_iff : Like x m m' ↔ Matched (fun p q => q = p) (Inserted x) m m' := by
  have hframes : Frame.Like x = Frame.Matched (Inserted x) := by
    funext f f'
    exact propext like_frame_iff
  constructor
  · intro h
    exact ⟨h.hub, h.handles, h.nodes, hframes ▸ h.frames, h.finished, h.replies⟩
  · intro h
    exact ⟨h.hub, h.handles, h.nodes, hframes ▸ h.frames, h.finished, h.replies⟩

/-- Machines that differ by a reply stay so, whatever happens to both. -/
theorem Like.run (h : Like x m m') (happenings : List Happening) :
    Like x (m.run happenings) (m'.run happenings) :=
  like_iff.2 ((like_iff.1 h).run Congruence.eq (inserted_records x) happenings)

end Machine
end RobotClient
