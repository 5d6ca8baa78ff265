import RobotClient.Domain
import RobotClient.Proofs.Number.Decimal
import RobotClient.Proofs.Text.Blank

set_option autoImplicit false

/-! # Which domain is joined

What a resolution comes to is told without the reader of numbers: by what an explicit number is, by
the white space and the digits of the variable's value, and by the default (`Resolves`). Nothing else
of the environment counts. Main statement: `resolveDomain_eq_iff`. -/

namespace RobotClient

open Text (Blank Trimmed WhiteSpace)

/-! ## Values of the variable -/

/-- The value is the text of a number, white space at its ends apart. -/
def Denotes (value : String) (m : UInt64) : Prop :=
  ∃ text, Trimmed value text ∧ Number.Writes text m.toNat

variable {value : String} {m : UInt64}

theorem denotes_iff : Denotes value m ↔ Number.readUnsigned? (Text.trim value) = some m := by
  rw [Number.readUnsigned?_eq_some_iff]
  constructor
  · rintro ⟨text, htrimmed, hwrites⟩
    rw [Text.trim_eq_iff.2 htrimmed]
    exact hwrites
  · intro hwrites
    exact ⟨Text.trim value, Text.trim_eq_iff.1 rfl, hwrites⟩

theorem not_whiteSpace_of_asciiDigit {c : Char} (h : Number.AsciiDigit c) : ¬ WhiteSpace c := by
  obtain ⟨hlo, hhi⟩ := h
  rw [Char.le_def, UInt32.le_iff_toNat_le] at hlo hhi
  have hlo : 48 ≤ c.toNat := hlo
  have hhi : c.toNat ≤ 57 := hhi
  unfold WhiteSpace
  omega

/-- What writes a number is not blank. -/
theorem Denotes.not_blank (h : Denotes value m) : ¬ Blank value := by
  intro hblank
  have hnone : Number.readUnsigned? "" = none := rfl
  rw [denotes_iff, Text.trim_eq_empty_iff.2 hblank, hnone] at h
  exact absurd h (by simp)

/-- A number's own text may stand between white space. -/
theorem denotes_surrounded {front back : String} (hfront : Blank front) (hback : Blank back)
    (m : UInt64) : Denotes (front ++ toString m ++ back) m := by
  have hdigits : ∀ c ∈ (toString m).toList, ¬ WhiteSpace c := by
    intro c hc
    rw [show toString m = toString m.toNat from rfl, Number.toList_toString_nat] at hc
    refine not_whiteSpace_of_asciiDigit (Number.isDigit_iff.1 ?_)
    exact (Number.numeral_toDigits m.toNat).isDigit c hc
  refine ⟨toString m, ⟨⟨front, back, hfront, hback, rfl⟩, ?_, ?_⟩, Number.writes_toString m.toNat⟩
  · intro c hc
    exact hdigits c (List.mem_of_mem_head? hc)
  · intro c hc
    exact hdigits c (List.mem_of_mem_getLast? hc)

/-! ## Resolutions -/

/-- What the domain to join comes to, given the explicit number and the value of the variable. -/
inductive Resolves (explicit : Option Int64) (settings : DomainSettings) (value? : Option String) :
    Except ClientError UInt64 → Prop where
  | explicit {n : Int64} {m : UInt64} (hexplicit : explicit = some n)
      (hm : (m.toNat : Int) = n.toInt) : Resolves explicit settings value? (.ok m)
  | negative {n : Int64} (hexplicit : explicit = some n) (hn : n.toInt < 0) :
      Resolves explicit settings value? (.error (.negativeDomain n.toInt))
  | unset (hexplicit : explicit = none) (hvalue : value? = none) :
      Resolves explicit settings value? (.ok settings.defaultId)
  | blank {value : String} (hexplicit : explicit = none) (hvalue : value? = some value)
      (hblank : Blank value) : Resolves explicit settings value? (.ok settings.defaultId)
  | readable {value : String} {m : UInt64} (hexplicit : explicit = none)
      (hvalue : value? = some value) (hblank : ¬ Blank value) (hm : Denotes value m) :
      Resolves explicit settings value? (.ok m)
  /-- The error has the value as it is, white space included. -/
  | unreadable {value : String} (hexplicit : explicit = none) (hvalue : value? = some value)
      (hblank : ¬ Blank value) (hm : ∀ m, ¬ Denotes value m) :
      Resolves explicit settings value? (.error (.unreadableDomain settings.envVar value))

variable {explicit : Option Int64} {settings : DomainSettings} {source : VariableSource}
  {result : Except ClientError UInt64}

theorem int64_lt_zero_iff {n : Int64} : n < 0 ↔ n.toInt < 0 := by
  rw [Int64.lt_iff_toInt_lt, Int64.toInt_zero]

/-- A signed word that is not negative is the unsigned word of the same number. -/
theorem toNat_toUInt64 {n : Int64} (h : ¬ n < 0) : (n.toUInt64.toNat : Int) = n.toInt := by
  have hnonneg : 0 ≤ n := by
    rw [Int64.le_iff_toInt_le, Int64.toInt_zero]
    rw [int64_lt_zero_iff] at h
    omega
  rw [Int64.toNat_toUInt64_of_le hnonneg, ← Int64.toNat_toInt]
  rw [int64_lt_zero_iff] at h
  omega

theorem resolves_resolveDomain (explicit : Option Int64) (settings : DomainSettings)
    (source : VariableSource) :
    Resolves explicit settings (source.get? settings.envVar)
      (resolveDomain explicit settings source) := by
  unfold resolveDomain
  split
  · next n =>
    split
    · next hn => exact .negative rfl (int64_lt_zero_iff.1 hn)
    · next hn => exact .explicit rfl (toNat_toUInt64 hn)
  · split
    · next hvalue => exact .unset rfl hvalue
    · next value hvalue =>
      dsimp only
      split
      · next hempty => exact .blank rfl hvalue (Text.trim_eq_empty_iff.1 hempty)
      · next hempty =>
        have hblank : ¬ Blank value := mt Text.trim_eq_empty_iff.2 hempty
        split
        · next m hm => exact .readable rfl hvalue hblank (denotes_iff.2 hm)
        · next hnone =>
          refine .unreadable rfl hvalue hblank fun m hm => ?_
          rw [denotes_iff, hnone] at hm
          exact absurd hm (by simp)

theorem resolveDomain_of_resolves
    (h : Resolves explicit settings (source.get? settings.envVar) result) :
    resolveDomain explicit settings source = result := by
  unfold resolveDomain
  cases h with
  | @explicit n m hexplicit hm =>
    have hn : ¬ n < 0 := by
      rw [int64_lt_zero_iff]
      omega
    have hword : n.toUInt64 = m := by
      apply UInt64.toNat_inj.1
      have hnat := toNat_toUInt64 hn
      omega
    simp only [hexplicit, if_neg hn, hword]
  | @negative n hexplicit hn => simp only [hexplicit, if_pos (int64_lt_zero_iff.2 hn)]
  | unset hexplicit hvalue => simp only [hexplicit, hvalue]
  | @blank value hexplicit hvalue hblank =>
    have hempty : Text.trim value = "" := Text.trim_eq_empty_iff.2 hblank
    simp only [hexplicit, hvalue, if_pos hempty]
  | @readable value m hexplicit hvalue hblank hm =>
    have hempty : ¬ Text.trim value = "" := mt Text.trim_eq_empty_iff.1 hblank
    have hread := denotes_iff.1 hm
    simp only [hexplicit, hvalue, if_neg hempty, hread]
  | @unreadable value hexplicit hvalue hblank hm =>
    have hempty : ¬ Text.trim value = "" := mt Text.trim_eq_empty_iff.1 hblank
    have hnone : Number.readUnsigned? (Text.trim value) = none := by
      rw [Option.eq_none_iff_forall_ne_some]
      intro m hread
      exact hm m (denotes_iff.2 hread)
    simp only [hexplicit, hvalue, if_neg hempty, hnone]

theorem resolveDomain_eq_iff_resolves :
    resolveDomain explicit settings source = result ↔
      Resolves explicit settings (source.get? settings.envVar) result := by
  constructor
  · rintro rfl
    exact resolves_resolveDomain ..
  · exact resolveDomain_of_resolves

/-- **Which domain is joined.** An explicit number that is not negative is the domain, whatever the
environment holds, and a negative one is an error. Without one, the default is the domain where the
variable is unset or blank; else the value of the variable, white space at its ends apart, has to be
an optional plus and digits that write a word, and this word is the domain; all other values are
errors that tell the variable and the value as it is. No other variable counts, and the text of any
word is read as the word, with white space around it or without. -/
theorem resolveDomain_eq_iff :
    (∀ (explicit : Option Int64) (settings : DomainSettings) (source : VariableSource)
      (result : Except ClientError UInt64), resolveDomain explicit settings source = result ↔
        Resolves explicit settings (source.get? settings.envVar) result) ∧
    (∀ (explicit : Option Int64) (settings : DomainSettings) (source source' : VariableSource),
      source.get? settings.envVar = source'.get? settings.envVar →
      resolveDomain explicit settings source = resolveDomain explicit settings source') ∧
    ∀ (settings : DomainSettings) (source : VariableSource) (m : UInt64) (front back : String),
      Blank front → Blank back →
      source.get? settings.envVar = some (front ++ toString m ++ back) →
      resolveDomain none settings source = .ok m := by
  refine ⟨?_, ?_, ?_⟩
  · intro explicit settings source result
    exact resolveDomain_eq_iff_resolves
  · intro explicit settings source source' hsame
    apply resolveDomain_of_resolves
    rw [hsame]
    exact resolves_resolveDomain ..
  · intro settings source m front back hfront hback hvalue
    have hm := denotes_surrounded hfront hback m
    exact resolveDomain_of_resolves (.readable rfl hvalue hm.not_blank hm)

theorem resolveDomain_eq_iff_largest :
    Blank "\u2003\t" ∧ Blank "\n" ∧
      resolveDomain none {} (.table [("ROS_DOMAIN_ID", "\u2003\t18446744073709551615\n")])
        = .ok 18446744073709551615 := by
  have hfront : Blank "\u2003\t" := by
    intro c hc
    obtain rfl | rfl : c = '\u2003' ∨ c = '\t' := by simpa using hc
    · unfold WhiteSpace
      decide
    · unfold WhiteSpace
      decide
  have hback : Blank "\n" := by
    intro c hc
    obtain rfl : c = '\n' := by simpa using hc
    unfold WhiteSpace
    decide
  obtain ⟨-, -, htext⟩ := resolveDomain_eq_iff
  exact ⟨hfront, hback, htext {} (.table [("ROS_DOMAIN_ID", "\u2003\t18446744073709551615\n")])
    18446744073709551615 "\u2003\t" "\n" hfront hback rfl⟩

end RobotClient
