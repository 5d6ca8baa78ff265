import RobotClient.Proofs.Context.Reachable

set_option autoImplicit false

/-! # Runs

A run as data: what happened to a machine, one thing after another. Where it leads is reachable, so
what holds of every reachable machine holds along a run; what has happened on the way is read off
with `along`. -/

namespace RobotClient

open Relation (ReflTransGen)

namespace Machine

variable {m m' : Machine}

/-! ## What can happen -/

/-- Something that can happen to a machine. -/
inductive Happening where
  | work
  | call (program : List Op)
  | arrive (signal : Signal)
  | tick (clock : String)
  | handle (signal : Signal) (label : Nat)

/-- The machine after something happened; the host does not touch the handlers while somebody owns
    them. -/
def happen (m : Machine) : Happening → Machine
  | .work => m.step
  | .call program =>
    { m with frames := .script none program [] :: m.frames, finished := [], replies := [] }
  | .arrive signal => { m with hub := m.hub.deliver signal }
  | .tick clock => { m with hub := { m.hub with clock } }
  | .handle signal label =>
    if m.hub.table = none then
      { m with hub :=
        { m.hub with dispositions := m.hub.dispositions.set signal (.host label) } }
    else m

/-- The machine after a number of things happened. -/
def run (m : Machine) (happenings : List Happening) : Machine := happenings.foldl happen m

/-- Whatever happens is a next machine, or nothing happens. -/
theorem next_happen (m : Machine) (happening : Happening) :
    Next m (m.happen happening) ∨ m.happen happening = m := by
  cases happening with
  | work => exact .inl .work
  | call program => exact .inl (.call program)
  | arrive signal => exact .inl (.arrive signal)
  | tick clock => exact .inl (.tick clock)
  | handle signal label =>
    by_cases htable : m.hub.table = none
    · exact .inl (by rw [happen, if_pos htable]; exact .handle signal label htable)
    · exact .inr (by rw [happen, if_neg htable])

theorem Reachable.happen (h : m.Reachable) (happening : Happening) :
    (m.happen happening).Reachable := by
  rcases next_happen m happening with hnext | heq
  · exact h.next hnext
  · rw [heq]
    exact h

theorem moves_happen (m : Machine) (happening : Happening) :
    ReflTransGen Hub.Move m.hub (m.happen happening).hub := by
  rcases next_happen m happening with hnext | heq
  · exact hnext.moves
  · rw [heq]

/-! ## Runs -/

theorem run_append (m : Machine) (front back : List Happening) :
    m.run (front ++ back) = (m.run front).run back := List.foldl_append

theorem run_concat (m : Machine) (front : List Happening) (last : Happening) :
    m.run (front ++ [last]) = (m.run front).happen last := run_append m front [last]

theorem run_work (m : Machine) (n : Nat) : m.run (List.replicate n .work) = m.after n := by
  induction n generalizing m with
  | zero => rfl
  | succ n ih => exact ih m.step

theorem Reachable.run (h : m.Reachable) (happenings : List Happening) :
    (m.run happenings).Reachable := by
  induction happenings generalizing m with
  | nil => exact h
  | cons happening rest ih => exact ih (h.happen happening)

theorem moves_run (m : Machine) (happenings : List Happening) :
    ReflTransGen Hub.Move m.hub (m.run happenings).hub := by
  induction happenings generalizing m with
  | nil => exact .refl
  | cons happening rest ih => exact (moves_happen m happening).trans (ih (m.happen happening))

/-! ## What happened on the way -/

variable {α : Type}

/-- What `read` finds over a run, in order, when it is shown each thing that happens with the
    machine that it happens to. -/
def along (read : Machine → Happening → List α) (m : Machine) : List Happening → List α
  | [] => []
  | happening :: rest => read m happening ++ along read (m.happen happening) rest

theorem along_append (read : Machine → Happening → List α) (m : Machine)
    (front back : List Happening) :
    along read m (front ++ back) = along read m front ++ along read (m.run front) back := by
  induction front generalizing m with
  | nil => rfl
  | cons happening rest ih =>
    rw [List.cons_append, along, ih, along, List.append_assoc]
    rfl

theorem along_concat (read : Machine → Happening → List α) (m : Machine)
    (front : List Happening) (last : Happening) :
    along read m (front ++ [last]) = along read m front ++ read (m.run front) last := by
  rw [along_append, along, along, List.append_nil]

/-- What `read` finds in a machine before a step, and nothing before anything else. -/
def onStep (read : Machine → List α) (m : Machine) : Happening → List α
  | .work => read m
  | _ => []

end Machine
end RobotClient
