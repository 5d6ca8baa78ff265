set_option autoImplicit false

/-! # Splitting text

Splits at the first occurrence of a mark and at every occurrence of a character. -/

namespace RobotClient.Text

/-- What follows `mark` at the front of `cs`. -/
def dropMark? : List Char → List Char → Option (List Char)
  | [], cs => some cs
  | _ :: _, [] => none
  | m :: mark, c :: cs => if m = c then dropMark? mark cs else none

theorem dropMark?_eq_some_iff {mark cs rest : List Char} :
    dropMark? mark cs = some rest ↔ cs = mark ++ rest := by
  induction mark generalizing cs with
  | nil => simp [dropMark?, eq_comm]
  | cons m mark ih =>
    cases cs with
    | nil => simp [dropMark?]
    | cons c cs =>
      by_cases h : m = c
      · simp [dropMark?, h, ih]
      · simp [dropMark?, h, Ne.symm h]

/-- The parts before and after the first occurrence of `mark`. -/
def splitAtMark? (mark : List Char) : List Char → Option (List Char × List Char)
  | [] => if mark.isEmpty then some ([], []) else none
  | c :: cs =>
    match dropMark? mark (c :: cs) with
    | some rest => some ([], rest)
    | none => (splitAtMark? mark cs).map fun parts => (c :: parts.1, parts.2)

theorem append_of_splitAtMark? {mark cs left right : List Char}
    (h : splitAtMark? mark cs = some (left, right)) : cs = left ++ mark ++ right := by
  induction cs generalizing left with
  | nil =>
    simp only [splitAtMark?] at h
    split at h <;> simp_all
  | cons c cs ih =>
    simp only [splitAtMark?] at h
    split at h
    · next rest hrest =>
        simp only [Option.some.injEq, Prod.mk.injEq] at h
        obtain ⟨rfl, rfl⟩ := h
        simpa using dropMark?_eq_some_iff.1 hrest
    · obtain ⟨⟨l, r⟩, hlr, heq⟩ := Option.map_eq_some_iff.1 h
      simp only [Prod.mk.injEq] at heq
      obtain ⟨rfl, rfl⟩ := heq
      simp [← ih hlr]

/-- The text before and after the first occurrence of a mark. -/
def splitOnce? (mark s : String) : Option (String × String) :=
  (splitAtMark? mark.toList s.toList).map fun parts =>
    (String.ofList parts.1, String.ofList parts.2)

/-- The pieces between the occurrences of a character; one piece if there is none. -/
def pieces (sep : Char) : List Char → List (List Char)
  | [] => [[]]
  | c :: cs =>
    if c = sep then [] :: pieces sep cs
    else match pieces sep cs with
      | [] => [[c]]
      | piece :: rest => (c :: piece) :: rest

theorem pieces_ne_nil (sep : Char) (cs : List Char) : pieces sep cs ≠ [] := by
  cases cs with
  | nil => simp [pieces]
  | cons c cs =>
    simp only [pieces]
    split
    · simp
    · split <;> simp

/-- The texts between the occurrences of a character. -/
def splitAll (sep : Char) (s : String) : List String := (pieces sep s.toList).map String.ofList

end RobotClient.Text
