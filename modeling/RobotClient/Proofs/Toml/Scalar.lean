import Mathlib
import RobotClient.Proofs.Number.Decimal
import RobotClient.Proofs.Text.Split
import RobotClient.Toml.Scalar

set_option autoImplicit false

/-! # Written TOML numbers and truth values read back

A word of digits is no time, for a date needs a minus behind its year and a time of day a colon, and
so it is read as the number that it writes. -/

namespace RobotClient.Toml

/-! ## Words that are no times -/

theorem fixedNumber?_eq_some {count n : Nat} {cs rest : List Char}
    (h : fixedNumber? count cs = some (n, rest)) : rest = cs.drop count := by
  unfold fixedNumber? at h
  dsimp only at h
  split at h
  · exact (Prod.mk.inj (Option.some.inj h)).2.symm
  · cases h

theorem after?_eq_none {c : Char} {cs : List Char} (h : c ∉ cs) : after? c cs = none := by
  cases cs with
  | nil => rfl
  | cons d rest =>
    rw [after?, if_neg]
    rintro rfl
    exact h List.mem_cons_self

/-- A date has a minus behind its year. -/
theorem date?_eq_none {cs : List Char} (h : '-' ∉ cs.drop 4) : date? cs = none := by
  rw [date?]
  cases hyear : fixedNumber? 4 cs with
  | none => rfl
  | some found =>
    obtain ⟨year, rest⟩ := found
    obtain rfl := fixedNumber?_eq_some hyear
    simp [after?_eq_none h]

/-- A time of day has a colon behind its hour. -/
theorem timeOfDay?_eq_none {cs : List Char} (h : ':' ∉ cs.drop 2) : timeOfDay? cs = none := by
  rw [timeOfDay?]
  cases hhour : fixedNumber? 2 cs with
  | none => rfl
  | some found =>
    obtain ⟨hour, rest⟩ := found
    obtain rfl := fixedNumber?_eq_some hhour
    simp [after?_eq_none h]

theorem moment?_eq_none {cs : List Char} (hminus : '-' ∉ cs.drop 4) (hcolon : ':' ∉ cs.drop 2) :
    moment? cs = none := by
  simp only [moment?, date?_eq_none hminus, timeOfDay?_eq_none hcolon]

/-! ## Whole numbers -/

theorem decimal?_numeral {digits : List Char} {n : Nat} (h : Number.Numeral digits n) :
    decimal? digits = some digits := by
  have hpieces := Text.pieces_of_not_mem (h.not_mem (show Char.isDigit '_' = false by decide))
  simp [decimal?, digits?, hpieces, h.ne_nil, List.all_eq_true.2 h.isDigit]

theorem whole?_numeral {digits : List Char} {n : Nat} (h : Number.Numeral digits n) :
    whole? digits = some digits := by
  rw [whole?, decimal?_numeral h]
  obtain rfl | ⟨c, rest, rfl, hc⟩ := h.lead
  · rfl
  · rw [Option.bind_some]
    split
    · next heq => exact absurd (List.cons.inj heq).1 hc
    · rfl

theorem fitting?_eq_some {n : Int} (hlo : Number.minSigned ≤ n) (hhi : n ≤ Number.maxSigned) :
    fitting? n = some (.integer n) := by
  rw [fitting?, Number.signed?, if_pos ⟨hlo, hhi⟩]
  rfl

section Integers

variable {digits : List Char} {n : Int}

/-- A written number of a signed word is that number. -/
theorem integer?_numeral (h : Number.Numeral digits n.natAbs) (hlo : Number.minSigned ≤ n)
    (hhi : n ≤ Number.maxSigned) :
    integer? ((if n < 0 then ['-'] else []) ++ digits) = some (.integer n) := by
  have hwhole := whole?_numeral h
  have hfits := fitting?_eq_some hlo hhi
  split
  · next hneg =>
    have hvalue : -((Number.foldDigits 0 digits : Nat) : Int) = n := by
      rw [h.value]
      omega
    rw [List.cons_append, List.nil_append, integer?]
    · simp only [splitSign, hwhole, Option.bind_some, if_true, hvalue, hfits]
    all_goals simp
  · next hneg =>
    have hvalue : ((Number.foldDigits 0 digits : Nat) : Int) = n := by
      rw [h.value]
      omega
    have hsign : splitSign digits = (false, digits) := by
      rw [splitSign]
      · rintro rest rfl
        exact h.not_mem (by decide) List.mem_cons_self
      · rintro rest rfl
        exact h.not_mem (by decide) List.mem_cons_self
    have hbase : ∀ mark : Char, mark.isDigit = false → ∀ rest, digits ≠ '0' :: mark :: rest := by
      rintro mark hmark rest rfl
      exact h.not_mem hmark (by simp)
    rw [List.nil_append, integer?]
    · simp only [hsign, hwhole, Option.bind_some, hvalue, Bool.false_eq_true, if_false, hfits]
    · exact hbase 'x' (by decide)
    · exact hbase 'o' (by decide)
    · exact hbase 'b' (by decide)

/-- The word of a number is no time. -/
theorem moment?_numeral (h : Number.Numeral digits n.natAbs) :
    date? ((if n < 0 then ['-'] else []) ++ digits) = none
      ∧ moment? ((if n < 0 then ['-'] else []) ++ digits) = none := by
  have hfree : ∀ mark : Char, mark.isDigit = false → ∀ count, 0 < count →
      mark ∉ ((if n < 0 then ['-'] else []) ++ digits).drop count := by
    intro mark hmark count hcount hmem
    obtain ⟨count, rfl⟩ := Nat.exists_eq_succ_of_ne_zero (Nat.ne_of_gt hcount)
    split at hmem
    · exact h.not_mem hmark (List.mem_of_mem_drop hmem)
    · exact h.not_mem hmark (List.mem_of_mem_drop hmem)
  have hminus := hfree '-' (by decide) 4 (by decide)
  have hcolon := hfree ':' (by decide) 2 (by decide)
  exact ⟨date?_eq_none hminus, moment?_eq_none hminus hcolon⟩

end Integers

/-! ## Words -/

/-- A word that starts no date is read as a word alone. -/
theorem readScalar_word {word rest : List Char} (hword : ∀ c ∈ word, isWordChar c)
    (hrest : ∀ c ∈ rest.head?, ¬ isWordChar c) (hdate : date? word = none) :
    readScalar (word ++ rest) = (word? word).map fun value => (value, rest) := by
  rw [readScalar, Text.span_append hword hrest]
  simp only [hdate]
  rfl

theorem isWordChar_numeral {digits : List Char} {n : Int} (h : Number.Numeral digits n.natAbs) :
    ∀ c ∈ (if n < 0 then ['-'] else []) ++ digits, isWordChar c := by
  intro c hc
  obtain hc | hc := List.mem_append.1 hc
  · split at hc
    · rw [List.mem_singleton.1 hc]
      decide
    · cases hc
  · simp [isWordChar, Char.isAlphanum, h.isDigit c hc]

theorem isWordChar_bool (b : Bool) : ∀ c ∈ (toString b).toList, isWordChar c :=
  List.all_eq_true.1 (by cases b <;> decide)

/-- **A written number of a signed word is read back.** -/
theorem readScalar_numeral {digits : List Char} {n : Int} (h : Number.Numeral digits n.natAbs)
    (hlo : Number.minSigned ≤ n) (hhi : n ≤ Number.maxSigned) {rest : List Char}
    (hrest : ∀ c ∈ rest.head?, ¬ isWordChar c) :
    readScalar ((if n < 0 then ['-'] else []) ++ digits ++ rest) = some (.integer n, rest) := by
  obtain ⟨hdate, hmoment⟩ := moment?_numeral h
  have hinteger := integer?_numeral h hlo hhi
  have hword := isWordChar_numeral h
  have hvalue : word? ((if n < 0 then ['-'] else []) ++ digits) = some (.integer n) := by
    rw [word?, if_neg, if_neg, hmoment]
    · simp [hinteger]
    · intro heq
      rw [heq] at hinteger
      cases hinteger
    · intro heq
      rw [heq] at hinteger
      cases hinteger
  rw [readScalar_word hword hrest hdate, hvalue]
  rfl

/-- A written truth value is read back. -/
theorem readScalar_bool (b : Bool) {rest : List Char}
    (hrest : ∀ c ∈ rest.head?, ¬ isWordChar c) :
    readScalar ((toString b).toList ++ rest) = some (.bool b, rest) := by
  have hword := isWordChar_bool b
  cases b with
  | true =>
    rw [readScalar_word hword hrest (by decide)]
    rfl
  | false =>
    rw [readScalar_word hword hrest (by decide)]
    rfl

end RobotClient.Toml
