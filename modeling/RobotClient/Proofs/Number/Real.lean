import Mathlib.Tactic.Common
import RobotClient.Number.Binary64
import RobotClient.Proofs.Number.Decimal

set_option autoImplicit false

/-! # What a written number is made of

A number is written in ASCII letters and digits, signs and a point, and in nothing else. So a path
with a slash and a name with an underscore are no numbers. -/

namespace RobotClient.Number

/-- A character that the spelling of a number may have. -/
def IsNumberChar (c : Char) : Prop := c.isAlphanum ∨ c = '+' ∨ c = '-' ∨ c = '.'

theorem IsNumberChar.of_isDigit {c : Char} (h : c.isDigit) : IsNumberChar c :=
  .inl (by simp [Char.isAlphanum, h])

/-- A word of letters in any case has letters only. -/
theorem isNumberChar_of_word {cs : List Char} {word : String}
    (hword : ∀ c ∈ word.toList, c.isAlpha) (h : String.ofList (cs.map Char.toLower) = word) :
    ∀ c ∈ cs, IsNumberChar c := by
  subst h
  intro c hc
  have halpha := hword c.toLower (by simpa using ⟨c, hc, rfl⟩)
  rw [Char.isAlpha_toLower_eq_isAlpha] at halpha
  exact .inl (by simp [Char.isAlphanum, halpha])

/-! ## Whole numbers -/

theorem isNumberChar_of_natural? {cs : List Char} {n : Nat} (h : natural? cs = some n) :
    ∀ c ∈ cs, IsNumberChar c := by
  rw [natural?] at h
  split at h
  · cases h
  · next hdigits =>
    simp only [Bool.or_eq_true, Bool.not_eq_true', not_or, Bool.not_eq_false] at hdigits
    intro c hc
    exact .of_isDigit (List.all_eq_true.1 hdigits.2 c hc)

theorem isNumberChar_of_plusNatural? {cs : List Char} {n : Nat} (h : plusNatural? cs = some n) :
    ∀ c ∈ cs, IsNumberChar c := by
  rw [plusNatural?.eq_def] at h
  split at h
  · exact List.forall_mem_cons.2 ⟨.inr (.inl rfl), isNumberChar_of_natural? h⟩
  · exact isNumberChar_of_natural? h

theorem isNumberChar_of_integer? {cs : List Char} {n : Int} (h : integer? cs = some n) :
    ∀ c ∈ cs, IsNumberChar c := by
  rw [integer?.eq_def] at h
  split at h
  · obtain ⟨_, hbind, -⟩ := Option.map_eq_some_iff.1 h
    obtain ⟨_, hdigits, -⟩ := Option.bind_eq_some_iff.1 hbind
    exact List.forall_mem_cons.2 ⟨.inr (.inr (.inl rfl)), isNumberChar_of_natural? hdigits⟩
  · obtain ⟨_, hbind, -⟩ := Option.map_eq_some_iff.1 h
    obtain ⟨_, hdigits, -⟩ := Option.bind_eq_some_iff.1 hbind
    exact isNumberChar_of_plusNatural? hdigits

/-! ## Real numbers -/

namespace Binary64

theorem spanDigits_spec (cs : List Char) :
    (spanDigits cs).1 ++ (spanDigits cs).2 = cs ∧ ∀ c ∈ (spanDigits cs).1, c.isDigit := by
  rw [spanDigits, List.span_eq_takeWhile_dropWhile]
  exact ⟨List.takeWhile_append_dropWhile, fun c hc => List.mem_takeWhile_imp hc⟩

theorem isNumberChar_of_spanDigits {cs : List Char}
    (h : ∀ c ∈ (spanDigits cs).2, IsNumberChar c) : ∀ c ∈ cs, IsNumberChar c := by
  obtain ⟨happend, hdigits⟩ := spanDigits_spec cs
  intro c hc
  rw [← happend] at hc
  rcases List.mem_append.1 hc with hc | hc
  · exact .of_isDigit (hdigits c hc)
  · exact h c hc

theorem isNumberChar_of_readExponent? {cs : List Char} {power : Int}
    (h : readExponent? cs = some power) : ∀ c ∈ cs, IsNumberChar c := by
  cases cs with
  | nil => simp
  | cons e cs =>
    rw [readExponent?] at h
    split at h
    · next hmark =>
      refine List.forall_mem_cons.2 ⟨.inl ?_, isNumberChar_of_integer? h⟩
      rcases hmark with rfl | rfl <;> decide
    · cases h

theorem isNumberChar_of_readMagnitude? {negative : Bool} {cs : List Char} {x : Binary64}
    (h : readMagnitude? negative cs = some x) : ∀ c ∈ cs, IsNumberChar c := by
  refine isNumberChar_of_spanDigits ?_
  rw [readMagnitude?.eq_def] at h
  rcases hspan : spanDigits cs with ⟨whole, rest⟩
  rw [hspan] at h
  dsimp only at h ⊢
  split at h
  · split at h
    · cases h
    · obtain ⟨power, hpower, -⟩ := Option.map_eq_some_iff.1 h
      exact List.forall_mem_cons.2 ⟨.inr (.inr (.inr rfl)),
        isNumberChar_of_spanDigits (isNumberChar_of_readExponent? hpower)⟩
  · dsimp only at h
    split at h
    · cases h
    · obtain ⟨power, hpower, -⟩ := Option.map_eq_some_iff.1 h
      exact isNumberChar_of_readExponent? hpower

/-- The spelling of a number without its sign. -/
theorem isNumberChar_of_unsigned {negative : Bool} {cs : List Char} {x : Binary64}
    (h : (let name := String.ofList (cs.map Char.toLower)
      if name = "nan" then some .nan
      else if name = "inf" ∨ name = "infinity" then some (.infinite negative)
      else readMagnitude? negative cs) = some x) : ∀ c ∈ cs, IsNumberChar c := by
  dsimp only at h
  split at h
  · next hname => exact isNumberChar_of_word (by simp) hname
  · split at h
    · next hname =>
      rcases hname with hname | hname
      · exact isNumberChar_of_word (by simp) hname
      · exact isNumberChar_of_word (by simp) hname
    · exact isNumberChar_of_readMagnitude? h

/-- **The characters of a written number.** -/
theorem isNumberChar_of_read? {cs : List Char} {x : Binary64} (h : read? cs = some x) :
    ∀ c ∈ cs, IsNumberChar c := by
  rw [read?.eq_def] at h
  split at h
  next negative rest hsign =>
  have hrest := isNumberChar_of_unsigned h
  split at hsign
  · cases hsign
    exact List.forall_mem_cons.2 ⟨.inr (.inr (.inl rfl)), hrest⟩
  · cases hsign
    exact List.forall_mem_cons.2 ⟨.inr (.inl rfl), hrest⟩
  · cases hsign
    exact hrest

end Binary64
end RobotClient.Number
