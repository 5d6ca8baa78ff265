import Mathlib
import RobotClient.Text.Lowercase

set_option autoImplicit false

/-! # Lower case of ASCII texts

`asciiLower` computes a text; whoever calls it asks whether two texts agree when the case of their
ASCII letters does not count. The lower case of every script folds an ASCII text in the same way,
and it makes no other text a word of ASCII letters, unless the word has an i or a k. -/

namespace RobotClient.Text

/-- The text is `word` with some of its letters made capital. -/
def AnyCase (word text : String) : Prop :=
  List.Forall₂ (fun w c => c = w ∨ c = w.toUpper) word.toList text.toList

theorem toLower_eq_iff {w c : Char} (hw : w.toLower = w) :
    c.toLower = w ↔ c = w ∨ c = w.toUpper := by
  constructor
  · rintro rfl
    by_cases hc : c.isUpper
    · -- a capital is its own upper case
      right
      have hlow : ¬ c.isLower := Char.not_isLower_of_isUpper hc
      rw [Char.toUpper_toLower_eq_toUpper, Char.toUpper_eq_of_not_isLower hlow]
    · left
      exact (Char.toLower_eq_of_not_isUpper hc).symm
  · rintro (rfl | rfl)
    · exact hw
    · rw [Char.toLower_toUpper_eq_toLower, hw]

theorem map_toLower_eq_iff {ws cs : List Char} (hws : ∀ w ∈ ws, w.toLower = w) :
    cs.map Char.toLower = ws ↔ List.Forall₂ (fun w c => c = w ∨ c = w.toUpper) ws cs := by
  induction ws generalizing cs with
  | nil => simp
  | cons w ws ih =>
    cases cs with
    | nil => simp
    | cons c cs =>
      have hhead := toLower_eq_iff (c := c) (hws w List.mem_cons_self)
      have htail := @ih cs fun v hv => hws v (List.mem_cons_of_mem _ hv)
      simp only [List.map_cons, List.cons.injEq, List.forall₂_cons, hhead, htail]

/-- A text becomes a word without capitals exactly when it is that word in any case. -/
theorem asciiLower_eq_iff {word text : String} (hword : ∀ w ∈ word.toList, w.toLower = w) :
    asciiLower text = word ↔ AnyCase word text := by
  rw [AnyCase, ← map_toLower_eq_iff hword, ← toList_asciiLower, String.toList_inj]

/-! ## Every script -/

/-- The lower case of an ASCII text folds its letters one by one. -/
theorem lowerFrom_of_ascii {cs : List Char} (h : ∀ c ∈ cs, c.toNat < 0x80) (before : List Char) :
    lowerFrom before cs = cs.map Char.toLower := by
  induction cs generalizing before with
  | nil => rfl
  | cons c cs ih =>
    have hc : c.toNat < 0x80 := h c List.mem_cons_self
    have hsigma : c.toNat ≠ 0x3A3 := by omega
    rw [lowerFrom, ih (fun d hd => h d (List.mem_cons_of_mem _ hd)), if_neg hsigma, lowerChar,
      if_pos hc]
    rfl

theorem toList_lower_of_ascii {s : String} (h : ∀ c ∈ s.toList, c.toNat < 0x80) :
    (lower s).toList = s.toList.map Char.toLower := by
  rw [lower, String.toList_ofList, lowerFrom_of_ascii h]

/-- A text of small letters and other characters is its own lower case. -/
theorem lower_eq_self {s : String} (h : ∀ c ∈ s.toList, c.toNat < 0x80 ∧ c.toLower = c) :
    lower s = s := by
  refine String.toList_inj.1 ?_
  rw [toList_lower_of_ascii fun c hc => (h c hc).1]
  rw [List.map_congr_left fun c hc => (h c hc).2, List.map_id']

/-! ## Words -/

/-- No character beyond ASCII becomes one of ASCII, but for the sign of the kelvin. -/
theorem shift_caseRuns : ∀ run ∈ caseRuns,
    (run.first = 0x212A ∧ run.last = 0x212A ∧ run.shift = -8383)
    ∨ 0x80 ≤ run.first + run.shift ∧ (run.last + run.shift < 0xD800
      ∨ 0xDFFF < run.first + run.shift ∧ run.last + run.shift < 0x110000) := by
  decide +kernel

/-- The lower case of a character beyond ASCII has one beyond ASCII, or a small i or k. -/
theorem exists_mem_lowerChar {c : Char} (h : 0x80 ≤ c.toNat) :
    ∃ d ∈ lowerChar c, 0x80 ≤ d.toNat ∨ d = 'i' ∨ d = 'k' := by
  rw [lowerChar, if_neg (by omega)]
  split
  · exact ⟨'i', by simp, .inr (.inl rfl)⟩
  · split
    · next run hrun =>
      refine ⟨_, List.mem_singleton_self _, ?_⟩
      have hcovers := List.find?_some hrun
      simp only [CaseRun.covers, Bool.and_eq_true, decide_eq_true_eq] at hcovers
      rcases shift_caseRuns run (List.mem_of_find?_eq_some hrun) with
        ⟨hfirst, hlast, hshift⟩ | ⟨hlow, hhigh⟩
      · have hc : c.toNat = 0x212A := by omega
        rw [hc, hshift]
        exact .inr (.inr (by decide))
      · left
        have hvalid : (c.toNat + run.shift).toNat.isValidChar := by
          rw [Nat.isValidChar]
          omega
        rw [Char.toNat_ofNat, if_pos hvalid]
        omega
    · exact ⟨c, by simp, .inl h⟩

theorem exists_mem_lowerFrom {c : Char} {cs : List Char} (hc : c ∈ cs) (h : 0x80 ≤ c.toNat)
    (before : List Char) : ∃ d ∈ lowerFrom before cs, 0x80 ≤ d.toNat ∨ d = 'i' ∨ d = 'k' := by
  induction cs generalizing before with
  | nil => cases hc
  | cons first cs ih =>
    rw [lowerFrom]
    rcases List.mem_cons.1 hc with rfl | hc
    · split
      · refine ⟨_, List.mem_append_left _ (List.mem_singleton_self _), .inl ?_⟩
        rw [lowerSigma]
        split <;> decide
      · obtain ⟨d, hd, hd'⟩ := exists_mem_lowerChar h
        exact ⟨d, List.mem_append_left _ hd, hd'⟩
    · obtain ⟨d, hd, hd'⟩ := ih hc (first :: before)
      exact ⟨d, List.mem_append_right _ hd, hd'⟩

/-- A text becomes a small word, of other letters than i and k, exactly when it is that word in any
case of ASCII: no other script has capitals for these letters. -/
theorem lower_eq_iff {word text : String}
    (hword : ∀ w ∈ word.toList, w.toNat < 0x80 ∧ w.toLower = w ∧ w ≠ 'i' ∧ w ≠ 'k') :
    lower text = word ↔ AnyCase word text := by
  have hsmall : ∀ w ∈ word.toList, w.toLower = w := fun w hw => (hword w hw).2.1
  rw [AnyCase, ← map_toLower_eq_iff hsmall]
  constructor
  · intro h
    have hascii : ∀ c ∈ text.toList, c.toNat < 0x80 := by
      intro c hc
      by_contra hlarge
      obtain ⟨d, hd, hd'⟩ := exists_mem_lowerFrom hc (by omega) []
      have hmem : d ∈ word.toList := by
        rw [← h, lower, String.toList_ofList]
        exact hd
      obtain ⟨hsmall, -, hi, hk⟩ := hword d hmem
      rcases hd' with hd' | hd' | hd'
      · omega
      · exact hi hd'
      · exact hk hd'
    rw [← toList_lower_of_ascii hascii, h]
  · intro h
    have hascii : ∀ c ∈ text.toList, c.toNat < 0x80 := by
      intro c hc
      have hmem : c.toLower ∈ word.toList := h ▸ List.mem_map_of_mem hc
      by_cases hupper : c.isUpper
      · simp only [Char.isUpper, decide_eq_true_eq, ge_iff_le, UInt32.le_iff_toNat_le] at hupper
        exact hupper.2.trans_lt (by decide)
      · rw [Char.toLower_eq_of_not_isUpper hupper] at hmem
        exact (hword c hmem).1
    exact String.toList_inj.1 ((toList_lower_of_ascii hascii).trans h)

end RobotClient.Text
