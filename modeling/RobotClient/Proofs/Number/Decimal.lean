import Mathlib
import RobotClient.Number.Decimal

set_option autoImplicit false

/-! # Written whole numbers

A number is written with digits that have its value and no zero in front. A negative one has a minus
before them. A text that is read may have zeros in front, and a plus before them (`Writes`); it is
read exactly if its number fits (`readUnsigned?_eq_some_iff`). -/

namespace RobotClient.Number

/-- An ASCII digit. -/
def AsciiDigit (c : Char) : Prop := '0' ≤ c ∧ c ≤ '9'

theorem isDigit_iff {c : Char} : c.isDigit = true ↔ AsciiDigit c := by
  simp only [Char.isDigit, AsciiDigit, Char.le_def, Bool.and_eq_true, decide_eq_true_eq, ge_iff_le]

/-! ## Numerals -/

/-- The digits write the number, without a leading zero unless it is alone. -/
structure Numeral (digits : List Char) (n : Nat) : Prop where
  isDigit : ∀ c ∈ digits, c.isDigit
  value : foldDigits 0 digits = n
  lead : digits = ['0'] ∨ ∃ c rest, digits = c :: rest ∧ c ≠ '0'

theorem Numeral.ne_nil {digits : List Char} {n : Nat} (h : Numeral digits n) : digits ≠ [] := by
  obtain h | ⟨c, rest, h, -⟩ := h.lead <;> simp [h]

theorem Numeral.not_mem {digits : List Char} {n : Nat} (h : Numeral digits n) {c : Char}
    (hc : c.isDigit = false) : c ∉ digits := by
  intro hmem
  have hdigit := h.isDigit c hmem
  rw [hc] at hdigit
  cases hdigit

theorem foldDigits_toDigits (n : Nat) : foldDigits 0 (Nat.toDigits 10 n) = n := by
  have hfold : foldDigits 0 (Nat.toDigits 10 n) = Nat.ofDigitChars 10 (Nat.toDigits 10 n) 0 := by
    rw [foldDigits, Nat.ofDigitChars]
    refine congrArg (List.foldl · 0 (Nat.toDigits 10 n)) ?_
    funext value c
    show value * 10 + (c.toNat - 48) = 10 * value + (c.toNat - 48)
    omega
  rw [hfold, Nat.ofDigitChars_ten_toDigits]

theorem lead_toDigits (n : Nat) :
    Nat.toDigits 10 n = ['0'] ∨ ∃ c rest, Nat.toDigits 10 n = c :: rest ∧ c ≠ '0' := by
  induction n using Nat.strong_induction_on with
  | _ n ih =>
    rw [Nat.toDigits_eq_if (by decide)]
    split
    · next hn =>
      have hdigits : ∀ k < 10, k = 0 ∨ k.digitChar ≠ '0' := by decide
      obtain rfl | hne := hdigits n hn
      · exact .inl rfl
      · exact .inr ⟨_, [], rfl, hne⟩
    · next hn =>
      -- the digits in front are those of a number that is not zero
      right
      obtain hzero | ⟨c, rest, hrest, hc⟩ := ih (n / 10) (by omega)
      · have hvalue := foldDigits_toDigits (n / 10)
        rw [hzero] at hvalue
        have : (0 : Nat) = n / 10 := hvalue
        omega
      · exact ⟨c, rest ++ [(n % 10).digitChar], by simp [hrest], hc⟩

theorem numeral_toDigits (n : Nat) : Numeral (Nat.toDigits 10 n) n where
  isDigit := fun _ hc => Nat.isDigit_of_mem_toDigits (by decide) (by decide) hc
  value := foldDigits_toDigits n
  lead := lead_toDigits n

/-! ## Words -/

theorem toInt_bounds (n : Int64) : minSigned ≤ n.toInt ∧ n.toInt ≤ maxSigned := by
  have hlo := n.le_toInt
  have hhi := n.toInt_lt
  simp only [minSigned, maxSigned]
  omega

theorem toNat_le_maxUnsigned (n : UInt64) : n.toNat ≤ maxUnsigned := by
  have hhi := n.toNat_lt
  simp only [maxUnsigned]
  omega

theorem signed?_toInt (n : Int64) : signed? n.toInt = some n := by
  rw [signed?, if_pos (toInt_bounds n), Int64.ofInt_toInt]

theorem unsigned?_toNat (n : UInt64) : unsigned? n.toNat = some n := by
  have hhi := toNat_le_maxUnsigned n
  rw [unsigned?, if_pos ⟨Int.natCast_nonneg _, Int.ofNat_le.2 hhi⟩, Int.toNat_natCast,
    UInt64.ofNat_toNat]

/-! ## Texts -/

theorem toList_toString_nat (n : Nat) : (toString n).toList = Nat.toDigits 10 n := by
  rw [Nat.toString_eq_ofList_toDigits, String.toList_ofList]

/-- A whole number is written as its magnitude, behind a minus if it is negative. -/
theorem toList_toString_int (n : Int) :
    (toString n).toList = (if n < 0 then ['-'] else []) ++ Nat.toDigits 10 n.natAbs := by
  cases n with
  | ofNat m => exact toList_toString_nat m
  | negSucc m =>
    have htext : toString (Int.negSucc m) = "-" ++ toString (m + 1) := rfl
    rw [htext, String.toList_append, toList_toString_nat, if_pos (Int.negSucc_lt_zero m)]
    rfl

/-! ## Reading -/

/-- The text is an optional plus and one or more digits, and these write the number, the last one
    counting ones, the one before it tens, and so on. -/
def Writes (text : String) (n : Nat) : Prop :=
  ∃ digits : List Char, (text.toList = digits ∨ text.toList = '+' :: digits) ∧ digits ≠ [] ∧
    (∀ c ∈ digits, AsciiDigit c) ∧ Nat.ofDigits 10 (digits.reverse.map digitValue) = n

theorem foldDigits_eq_ofDigits (digits : List Char) :
    foldDigits 0 digits = Nat.ofDigits 10 (digits.reverse.map digitValue) := by
  induction digits using List.reverseRecOn with
  | nil => rfl
  | append_singleton front c ih =>
    rw [foldDigits_append, ih, List.reverse_append, List.reverse_singleton, List.singleton_append,
      List.map_cons, Nat.ofDigits_cons]
    exact (Nat.add_comm _ _).trans (congrArg (digitValue c + ·) (Nat.mul_comm _ 10))

theorem natural?_eq_some_iff {cs : List Char} {n : Nat} :
    natural? cs = some n ↔ cs ≠ [] ∧ (∀ c ∈ cs, AsciiDigit c) ∧ foldDigits 0 cs = n := by
  have hdigits : cs.all Char.isDigit = true ↔ ∀ c ∈ cs, AsciiDigit c := by
    simp only [List.all_eq_true, isDigit_iff]
  unfold natural?
  split
  · next hnone =>
    refine ⟨fun h => absurd h (by simp), ?_⟩
    rintro ⟨hne, hall, -⟩
    rw [hdigits.2 hall] at hnone
    exact absurd hnone (by simpa using hne)
  · next hsome =>
    rw [Bool.not_eq_true, Bool.or_eq_false_iff, Bool.not_eq_false', hdigits,
      List.isEmpty_eq_false_iff] at hsome
    rw [Option.some.injEq]
    exact ⟨fun h => ⟨hsome.1, hsome.2, h⟩, fun h => h.2.2⟩

theorem plusNatural?_eq_some_iff {cs : List Char} {n : Nat} :
    plusNatural? cs = some n ↔
      ∃ digits, (cs = digits ∨ cs = '+' :: digits) ∧ natural? digits = some n := by
  have hplus : ∀ rest, natural? ('+' :: rest) = none := by
    intro rest
    have hdigit : Char.isDigit '+' = false := rfl
    simp [natural?, hdigit]
  unfold plusNatural?
  split
  · next rest =>
    constructor
    · intro h
      exact ⟨rest, .inr rfl, h⟩
    · rintro ⟨digits, rfl | hcs, h⟩
      · rw [hplus] at h
        exact absurd h (by simp)
      · rw [List.cons.injEq] at hcs
        rw [hcs.2, h]
  · next hother =>
    constructor
    · intro h
      exact ⟨cs, .inl rfl, h⟩
    · rintro ⟨digits, rfl | hcs, h⟩
      · exact h
      · exact absurd hcs (hother digits)

theorem plusNatural?_toList_iff {text : String} {n : Nat} :
    plusNatural? text.toList = some n ↔ Writes text n := by
  simp only [plusNatural?_eq_some_iff, natural?_eq_some_iff, foldDigits_eq_ofDigits, Writes]

theorem unsigned?_eq_some_iff {n : Nat} {m : UInt64} : unsigned? n = some m ↔ m.toNat = n := by
  constructor
  · intro h
    unfold unsigned? at h
    split at h
    · next hfits =>
      obtain rfl := Option.some.inj h
      have hle : n ≤ maxUnsigned := Int.ofNat_le.1 hfits.2
      rw [Int.toNat_natCast]
      exact UInt64.toNat_ofNat_of_lt' (Nat.lt_of_le_of_lt hle (by decide))
    · exact absurd h (by simp)
  · rintro rfl
    exact unsigned?_toNat m

/-- A text is read as the number that it writes, if a word can hold it. -/
theorem readUnsigned?_eq_some_iff {text : String} {m : UInt64} :
    readUnsigned? text = some m ↔ Writes text m.toNat := by
  rw [readUnsigned?, Option.bind_eq_some_iff]
  constructor
  · rintro ⟨n, hn, hm⟩
    rw [unsigned?_eq_some_iff] at hm
    rw [hm]
    exact plusNatural?_toList_iff.1 hn
  · intro h
    exact ⟨m.toNat, plusNatural?_toList_iff.2 h, unsigned?_toNat m⟩

theorem writes_toString (n : Nat) : Writes (toString n) n := by
  have hnumeral := numeral_toDigits n
  refine ⟨Nat.toDigits 10 n, .inl (toList_toString_nat n), hnumeral.ne_nil, ?_, ?_⟩
  · intro c hc
    exact isDigit_iff.1 (hnumeral.isDigit c hc)
  · rw [← foldDigits_eq_ofDigits, hnumeral.value]

end RobotClient.Number
