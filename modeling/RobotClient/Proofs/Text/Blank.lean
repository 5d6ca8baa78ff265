import Mathlib
import RobotClient.Text.Blank

set_option autoImplicit false

/-! # Trimming

Which characters are white space is told by their code points, and what is left of a text without
the white space at its ends by how the text is put together. Main statement: `trim_eq_iff`. -/

namespace RobotClient.Text

/-- White space, as Unicode has it. -/
def WhiteSpace (c : Char) : Prop :=
  0x09 ≤ c.toNat ∧ c.toNat ≤ 0x0D ∨ c.toNat = 0x20 ∨ c.toNat = 0x85 ∨ c.toNat = 0xA0 ∨
    c.toNat = 0x1680 ∨ 0x2000 ≤ c.toNat ∧ c.toNat ≤ 0x200A ∨ c.toNat = 0x2028 ∨
    c.toNat = 0x2029 ∨ c.toNat = 0x202F ∨ c.toNat = 0x205F ∨ c.toNat = 0x3000

/-- A text of white space only. -/
def Blank (value : String) : Prop := ∀ c ∈ value.toList, WhiteSpace c

/-- The text is what is left of a value without the white space at both ends. -/
structure Trimmed (value text : String) : Prop where
  around : ∃ front back : String, Blank front ∧ Blank back ∧ value = front ++ text ++ back
  head : ∀ c ∈ text.toList.head?, ¬ WhiteSpace c
  last : ∀ c ∈ text.toList.getLast?, ¬ WhiteSpace c

theorem isBlank_iff {c : Char} : isBlank c = true ↔ WhiteSpace c := by
  simp only [isBlank, blanks, CharTable.contains_cons, CharTable.contains_nil, Bool.or_eq_true,
    Bool.and_eq_true, decide_eq_true_eq, Bool.false_eq_true, or_false, WhiteSpace]
  omega

/-! ## Lists of characters -/

theorem dropWhile_eq_self {cs : List Char} (h : ∀ c ∈ cs.head?, ¬ WhiteSpace c) :
    cs.dropWhile isBlank = cs := by
  cases cs with
  | nil => rfl
  | cons c rest =>
    have hc : ¬ isBlank c = true := by
      rw [isBlank_iff]
      exact h c rfl
    rw [List.dropWhile_cons_of_neg hc]

theorem trimBlanks_append {front text back : List Char} (hfront : ∀ c ∈ front, WhiteSpace c)
    (hback : ∀ c ∈ back, WhiteSpace c) (hhead : ∀ c ∈ text.head?, ¬ WhiteSpace c)
    (hlast : ∀ c ∈ text.getLast?, ¬ WhiteSpace c) : trimBlanks (front ++ text ++ back) = text := by
  have hblank : ∀ {cs : List Char}, (∀ c ∈ cs, WhiteSpace c) → ∀ c ∈ cs, isBlank c = true :=
    fun h c hc => isBlank_iff.2 (h c hc)
  rw [trimBlanks, List.append_assoc, List.dropWhile_append_of_pos (hblank hfront)]
  cases text with
  | nil =>
    rw [List.nil_append, List.dropWhile_eq_nil_iff.2 (hblank hback)]
    rfl
  | cons c rest =>
    have hcut : (c :: rest ++ back).dropWhile isBlank = c :: rest ++ back := dropWhile_eq_self hhead
    have hback' : ∀ c ∈ back.reverse, isBlank c = true :=
      fun c hc => hblank hback c (List.mem_reverse.1 hc)
    have hrest : ∀ d ∈ (c :: rest).reverse.head?, ¬ WhiteSpace d := by
      rw [List.head?_reverse]
      exact hlast
    rw [hcut, List.reverse_append, List.dropWhile_append_of_pos hback', dropWhile_eq_self hrest,
      List.reverse_reverse]

theorem not_whiteSpace_of_dropWhile {cs rest : List Char} (h : cs.dropWhile isBlank = rest) :
    ∀ c ∈ rest.head?, ¬ WhiteSpace c := by
  intro c hc
  have hfirst := List.head?_dropWhile_not isBlank cs
  rw [h, hc] at hfirst
  rw [← isBlank_iff]
  simpa using hfirst

/-- Trimming takes white space from both ends, and none is left there. -/
theorem trimBlanks_spec (cs : List Char) :
    ∃ front back, (∀ c ∈ front, WhiteSpace c) ∧ (∀ c ∈ back, WhiteSpace c) ∧
      cs = front ++ trimBlanks cs ++ back ∧
      (∀ c ∈ (trimBlanks cs).head?, ¬ WhiteSpace c) ∧
      ∀ c ∈ (trimBlanks cs).getLast?, ¬ WhiteSpace c := by
  have hblank : ∀ ds : List Char, ∀ c ∈ ds.takeWhile isBlank, WhiteSpace c :=
    fun ds c hc => isBlank_iff.1 (List.mem_takeWhile_imp hc)
  obtain ⟨rest, hrest⟩ : ∃ rest, cs.dropWhile isBlank = rest := ⟨_, rfl⟩
  have hcs : cs = cs.takeWhile isBlank ++ rest := by rw [← hrest, List.takeWhile_append_dropWhile]
  have hback : rest = trimBlanks cs ++ (rest.reverse.takeWhile isBlank).reverse := by
    have hsplit := congrArg List.reverse
      (List.takeWhile_append_dropWhile (p := isBlank) (l := rest.reverse))
    rw [List.reverse_append, List.reverse_reverse] at hsplit
    rw [trimBlanks, hrest]
    exact hsplit.symm
  refine ⟨cs.takeWhile isBlank, (rest.reverse.takeWhile isBlank).reverse, hblank cs, ?_, ?_, ?_, ?_⟩
  · intro c hc
    exact hblank _ c (List.mem_reverse.1 hc)
  · rw [List.append_assoc, ← hback]
    exact hcs
  · intro c hc
    refine not_whiteSpace_of_dropWhile hrest c ?_
    rw [hback]
    exact List.mem_head?_append_of_mem_head? hc
  · rw [trimBlanks, hrest, List.getLast?_reverse]
    exact not_whiteSpace_of_dropWhile rfl

/-! ## Texts -/

/-- Trimming leaves what is there without the white space at both ends. -/
theorem trim_eq_iff {value text : String} : trim value = text ↔ Trimmed value text := by
  constructor
  · rintro rfl
    obtain ⟨front, back, hfront, hback, hvalue, hhead, hlast⟩ := trimBlanks_spec value.toList
    refine ⟨⟨String.ofList front, String.ofList back, ?_, ?_, ?_⟩, ?_, ?_⟩
    · simpa [Blank] using hfront
    · simpa [Blank] using hback
    · apply String.toList_inj.1
      simpa [trim] using hvalue
    · simpa [trim] using hhead
    · simpa [trim] using hlast
  · rintro ⟨⟨front, back, hfront, hback, rfl⟩, hhead, hlast⟩
    rw [trim, String.toList_append, String.toList_append,
      trimBlanks_append hfront hback hhead hlast, String.ofList_toList]

theorem trim_eq_empty_iff {value : String} : trim value = "" ↔ Blank value := by
  rw [trim_eq_iff]
  constructor
  · rintro ⟨⟨front, back, hfront, hback, rfl⟩, -, -⟩ c hc
    rw [String.toList_append, String.toList_append, List.mem_append, List.mem_append] at hc
    rcases hc with (hc | hc) | hc
    · exact hfront c hc
    · exact absurd hc List.not_mem_nil
    · exact hback c hc
  · intro hblank
    exact ⟨⟨value, "", hblank, by simp [Blank], by simp⟩, by simp, by simp⟩

end RobotClient.Text
