set_option autoImplicit false

/-! # Tables of characters

A class of characters is a list of closed ranges of code points. The classes of this folder answer
for ASCII by a rule of their own and consult their table only beyond it. -/

namespace RobotClient.Text

/-- Closed ranges of code points, in increasing order. -/
abbrev CharTable := List (Nat × Nat)

/-- Whether a character lies in one of the ranges. -/
def CharTable.contains (table : CharTable) (c : Char) : Bool :=
  table.any fun range => range.1 ≤ c.toNat && c.toNat ≤ range.2

@[simp] theorem CharTable.contains_nil (c : Char) : CharTable.contains [] c = false := rfl

theorem CharTable.contains_cons (lo hi : Nat) (rest : CharTable) (c : Char) :
    CharTable.contains ((lo, hi) :: rest) c
      = ((lo ≤ c.toNat && c.toNat ≤ hi) || CharTable.contains rest c) := rfl

end RobotClient.Text
