import Mathlib.Data.String.Basic
import Mathlib.Tactic.Common
import RobotClient.Text.Utf8

set_option autoImplicit false

/-! # Encoded text decodes

The octets of a character open a sequence and complete it, in each of the four lengths. Octets that
encode a text therefore decode to it, with nothing replaced. -/

namespace RobotClient.Text.Utf8

/-! ## Sequences -/

/-- The octets complete a character from a state, the last of them only. -/
inductive Completes : Option Pending → List UInt8 → Char → Prop
  | single {octet : UInt8} {p : Pending} (opens : opening octet = some p) (last : p.ranges = []) :
      Completes none [octet] (Char.ofNat p.bits)
  | first {octet : UInt8} {p : Pending} {octets : List UInt8} {c : Char}
      (opens : opening octet = some p) (more : p.ranges ≠ []) (rest : Completes (some p) octets c) :
      Completes none (octet :: octets) c
  | last {octet : UInt8} {p q : Pending} (continues : q.continue? octet = some p)
      (last : p.ranges = []) : Completes (some q) [octet] (Char.ofNat p.bits)
  | next {octet : UInt8} {p q : Pending} {octets : List UInt8} {c : Char}
      (continues : q.continue? octet = some p) (more : p.ranges ≠ [])
      (rest : Completes (some p) octets c) : Completes (some q) (octet :: octets) c

theorem continue?_ofNat {p : Pending} {lo hi : UInt8} {ranges : List (UInt8 × UInt8)} {n : Nat}
    (hp : p.ranges = (lo, hi) :: ranges) (hlo : lo.toNat ≤ n) (hhi : n ≤ hi.toNat) :
    p.continue? (UInt8.ofNat n) = some ⟨p.bits * 64 + (n - 0x80), ranges, p.seen + 1⟩ := by
  have hn : (UInt8.ofNat n).toNat = n := by
    have hbound := hi.toNat_lt
    exact UInt8.toNat_ofNat_of_lt' (show n < 256 by omega)
  have hin : lo ≤ UInt8.ofNat n ∧ UInt8.ofNat n ≤ hi := by
    rw [UInt8.le_iff_toNat_le, UInt8.le_iff_toNat_le, hn]
    exact ⟨hlo, hhi⟩
  rw [Pending.continue?, hp]
  simp only [hin, and_self, if_true, hn]

/-- What a lead octet opens, by its number. -/
theorem opening_ofNat {n : Nat} (h : n < 256) :
    opening (UInt8.ofNat n) =
      if n < 0x80 then some ⟨n, [], 1⟩
      else if n < 0xC2 then none
      else if n < 0xE0 then some ⟨n - 0xC0, [continuation], 1⟩
      else if n = 0xE0 then some ⟨0, [(0xA0, 0xBF), continuation], 1⟩
      else if n = 0xED then some ⟨0xD, [(0x80, 0x9F), continuation], 1⟩
      else if n < 0xF0 then some ⟨n - 0xE0, [continuation, continuation], 1⟩
      else if n = 0xF0 then some ⟨0, [(0x90, 0xBF), continuation, continuation], 1⟩
      else if n < 0xF4 then some ⟨n - 0xF0, [continuation, continuation, continuation], 1⟩
      else if n = 0xF4 then some ⟨4, [(0x80, 0x8F), continuation, continuation], 1⟩
      else none := by
  have hn : (UInt8.ofNat n).toNat = n := UInt8.toNat_ofNat_of_lt' h
  have hlt : ∀ k : Nat, k < 256 → (UInt8.ofNat n < UInt8.ofNat k ↔ n < k) := by
    intro k hk
    rw [UInt8.lt_iff_toNat_lt, hn, UInt8.toNat_ofNat_of_lt' hk]
  have heq : ∀ k : Nat, k < 256 → (UInt8.ofNat n = UInt8.ofNat k ↔ n = k) := by
    intro k hk
    rw [← UInt8.toNat_inj, hn, UInt8.toNat_ofNat_of_lt' hk]
  have h80 := hlt 0x80 (by decide)
  have hC2 := hlt 0xC2 (by decide)
  have hE0 := hlt 0xE0 (by decide)
  have hF0 := hlt 0xF0 (by decide)
  have hF4 := hlt 0xF4 (by decide)
  have hE0' := heq 0xE0 (by decide)
  have hED' := heq 0xED (by decide)
  have hF0' := heq 0xF0 (by decide)
  have hF4' := heq 0xF4 (by decide)
  simp only [UInt8.reduceOfNat] at h80 hC2 hE0 hF0 hF4 hE0' hED' hF0' hF4'
  simp only [opening, h80, hC2, hE0, hF0, hF4, hE0', hED', hF0', hF4', hn]

theorem completes_last {q : Pending} {lo hi : UInt8} {n : Nat} (hq : q.ranges = [(lo, hi)])
    (hlo : lo.toNat ≤ n) (hhi : n ≤ hi.toNat) {v : Nat} (hv : q.bits * 64 + (n - 0x80) = v) :
    Completes (some q) [UInt8.ofNat n] (Char.ofNat v) := by
  rw [← hv]
  exact .last (p := ⟨q.bits * 64 + (n - 0x80), [], q.seen + 1⟩) (continue?_ofNat hq hlo hhi) rfl

theorem completes_next {q : Pending} {lo hi : UInt8} {ranges : List (UInt8 × UInt8)} {n : Nat}
    {octets : List UInt8} {c : Char} (hq : q.ranges = (lo, hi) :: ranges) (hne : ranges ≠ [])
    (hlo : lo.toNat ≤ n) (hhi : n ≤ hi.toNat)
    (rest : Completes (some ⟨q.bits * 64 + (n - 0x80), ranges, q.seen + 1⟩) octets c) :
    Completes (some q) (UInt8.ofNat n :: octets) c :=
  .next (continue?_ofNat hq hlo hhi) hne rest

/-- A code point below 0x800 is completed by two octets. -/
theorem completes_two {v : Nat} (hlo : 0x80 ≤ v) (hhi : v < 0x800) :
    Completes none [UInt8.ofNat (v / 64 % 32 + 192), UInt8.ofNat (v % 64 + 128)]
      (Char.ofNat v) := by
  have hopen : opening (UInt8.ofNat (v / 64 % 32 + 192)) = some ⟨v / 64, [continuation], 1⟩ := by
    rw [opening_ofNat (by omega), if_neg (by omega), if_neg (by omega), if_pos (by omega)]
    simp only [Option.some.injEq, Pending.mk.injEq, and_true]
    omega
  refine .first hopen (by simp) (completes_last rfl ?_ ?_ ?_)
  · show 0x80 ≤ v % 64 + 128
    omega
  · show v % 64 + 128 ≤ 0xBF
    omega
  · show v / 64 * 64 + (v % 64 + 128 - 0x80) = v
    omega

/-- The octets of a code point of three octets, from the state that its lead opens. The range of the
    second octet depends on the lead. -/
theorem completes_three_of {v : Nat} {lo hi : UInt8} (hv : v < 0x10000)
    (hopen : opening (UInt8.ofNat (v / 4096 % 16 + 224))
      = some ⟨v / 4096, [(lo, hi), continuation], 1⟩)
    (hlo : lo.toNat ≤ v / 64 % 64 + 128) (hhi : v / 64 % 64 + 128 ≤ hi.toNat) :
    Completes none [UInt8.ofNat (v / 4096 % 16 + 224), UInt8.ofNat (v / 64 % 64 + 128),
      UInt8.ofNat (v % 64 + 128)] (Char.ofNat v) := by
  refine .first hopen (by simp) (completes_next rfl (by simp) hlo hhi
    (completes_last rfl ?_ ?_ ?_))
  · show 0x80 ≤ v % 64 + 128
    omega
  · show v % 64 + 128 ≤ 0xBF
    omega
  · show (v / 4096 * 64 + (v / 64 % 64 + 128 - 0x80)) * 64 + (v % 64 + 128 - 0x80) = v
    omega

theorem completes_three {v : Nat} (hlo : 0x800 ≤ v) (hhi : v < 0x10000)
    (hvalid : v < 0xD800 ∨ 0xDFFF < v) :
    Completes none [UInt8.ofNat (v / 4096 % 16 + 224), UInt8.ofNat (v / 64 % 64 + 128),
      UInt8.ofNat (v % 64 + 128)] (Char.ofNat v) := by
  have hlead := opening_ofNat (n := v / 4096 % 16 + 224) (by omega)
  rw [if_neg (by omega), if_neg (by omega), if_neg (by omega)] at hlead
  by_cases hzero : v / 4096 = 0
  · -- the second octet is narrowed from below, so that two octets would not do
    rw [if_pos (by omega), ← hzero] at hlead
    refine completes_three_of hhi hlead ?_ ?_
    · show 0xA0 ≤ v / 64 % 64 + 128
      omega
    · show v / 64 % 64 + 128 ≤ 0xBF
      omega
  rw [if_neg (by omega)] at hlead
  by_cases hsurrogate : v / 4096 = 0xD
  · -- and from above, so that it is no surrogate
    rw [if_pos (by omega), ← hsurrogate] at hlead
    refine completes_three_of hhi hlead ?_ ?_
    · show 0x80 ≤ v / 64 % 64 + 128
      omega
    · show v / 64 % 64 + 128 ≤ 0x9F
      omega
  · have hbits : v / 4096 % 16 + 224 - 0xE0 = v / 4096 := by omega
    rw [if_neg (by omega), if_pos (by omega), hbits] at hlead
    refine completes_three_of hhi hlead ?_ ?_
    · show 0x80 ≤ v / 64 % 64 + 128
      omega
    · show v / 64 % 64 + 128 ≤ 0xBF
      omega

/-- The octets of a code point of four octets, from the state that its lead opens. -/
theorem completes_four_of {v : Nat} {lo hi : UInt8} (hv : v < 0x110000)
    (hopen : opening (UInt8.ofNat (v / 262144 % 8 + 240))
      = some ⟨v / 262144, [(lo, hi), continuation, continuation], 1⟩)
    (hlo : lo.toNat ≤ v / 4096 % 64 + 128) (hhi : v / 4096 % 64 + 128 ≤ hi.toNat) :
    Completes none [UInt8.ofNat (v / 262144 % 8 + 240), UInt8.ofNat (v / 4096 % 64 + 128),
      UInt8.ofNat (v / 64 % 64 + 128), UInt8.ofNat (v % 64 + 128)] (Char.ofNat v) := by
  refine .first hopen (by simp) (completes_next rfl (by simp) hlo hhi
    (completes_next rfl (by simp) ?_ ?_ (completes_last rfl ?_ ?_ ?_)))
  · show 0x80 ≤ v / 64 % 64 + 128
    omega
  · show v / 64 % 64 + 128 ≤ 0xBF
    omega
  · show 0x80 ≤ v % 64 + 128
    omega
  · show v % 64 + 128 ≤ 0xBF
    omega
  · show ((v / 262144 * 64 + (v / 4096 % 64 + 128 - 0x80)) * 64 + (v / 64 % 64 + 128 - 0x80)) * 64
      + (v % 64 + 128 - 0x80) = v
    omega

theorem completes_four {v : Nat} (hlo : 0x10000 ≤ v) (hhi : v < 0x110000) :
    Completes none [UInt8.ofNat (v / 262144 % 8 + 240), UInt8.ofNat (v / 4096 % 64 + 128),
      UInt8.ofNat (v / 64 % 64 + 128), UInt8.ofNat (v % 64 + 128)] (Char.ofNat v) := by
  have hlead := opening_ofNat (n := v / 262144 % 8 + 240) (by omega)
  rw [if_neg (by omega), if_neg (by omega), if_neg (by omega), if_neg (by omega),
    if_neg (by omega), if_neg (by omega)] at hlead
  by_cases hzero : v / 262144 = 0
  · rw [if_pos (by omega), ← hzero] at hlead
    refine completes_four_of hhi hlead ?_ ?_
    · show 0x90 ≤ v / 4096 % 64 + 128
      omega
    · show v / 4096 % 64 + 128 ≤ 0xBF
      omega
  rw [if_neg (by omega)] at hlead
  by_cases hfour : v / 262144 = 4
  · rw [if_neg (by omega), if_pos (by omega), ← hfour] at hlead
    refine completes_four_of hhi hlead ?_ ?_
    · show 0x80 ≤ v / 4096 % 64 + 128
      omega
    · show v / 4096 % 64 + 128 ≤ 0x8F
      omega
  · have hbits : v / 262144 % 8 + 240 - 0xF0 = v / 262144 := by omega
    rw [if_pos (by omega), hbits] at hlead
    refine completes_four_of hhi hlead ?_ ?_
    · show 0x80 ≤ v / 4096 % 64 + 128
      omega
    · show v / 4096 % 64 + 128 ≤ 0xBF
      omega

/-- **The octets of a character complete it.** -/
theorem completes_encode (c : Char) : Completes none (String.utf8EncodeChar c) c := by
  have hvalid : c.toNat < 0xD800 ∨ 0xDFFF < c.toNat ∧ c.toNat < 0x110000 := c.valid
  have hc : Char.ofNat c.toNat = c := Char.ofNat_toNat c
  have hoctets : ∀ octets, Completes none octets (Char.ofNat c.toNat) → Completes none octets c :=
    fun _ h => hc ▸ h
  rw [String.utf8EncodeChar]
  simp only [show c.val.toNat = c.toNat from rfl]
  refine hoctets _ ?_
  split
  · have hopen : opening (UInt8.ofNat c.toNat) = some ⟨c.toNat, [], 1⟩ := by
      rw [opening_ofNat (by omega), if_pos (by omega)]
    exact .single hopen rfl
  split
  · exact completes_two (by omega) (by omega)
  split
  · exact completes_three (by omega) (by omega) (by omega)
  · exact completes_four (by omega) (by omega)

/-! ## Texts -/

theorem decodeLossyFrom_of_completes {state : Option Pending} {octets : List UInt8} {c : Char}
    (h : Completes state octets c) (rest : List UInt8) :
    decodeLossyFrom state (octets ++ rest) = c :: decodeLossyFrom none rest := by
  induction h with
  | single opens last => simp [decodeLossyFrom, openWith, opens, last]
  | first opens more _ ih => simp [decodeLossyFrom, openWith, opens, more, ih]
  | last continues last => simp [decodeLossyFrom, continues, last]
  | next continues more _ ih => simp [decodeLossyFrom, continues, more, ih]

/-- **Octets that encode a text decode to it.** -/
theorem decodeLossy_encode (s : String) : decodeLossy (encode s) = s := by
  have hchars : ∀ cs : List Char,
      decodeLossyFrom none (cs.flatMap String.utf8EncodeChar) = cs := by
    intro cs
    induction cs with
    | nil => rfl
    | cons c cs ih =>
      rw [List.flatMap_cons, decodeLossyFrom_of_completes (completes_encode c), ih]
  rw [decodeLossy, encode, hchars, String.ofList_toList]

/-! ## Sizes -/

/-- A text has at most as many characters as octets. -/
theorem length_le_utf8ByteSize (s : String) : s.length ≤ s.utf8ByteSize := by
  have hchars : ∀ cs : List Char, cs.length ≤ String.utf8Len cs := by
    intro cs
    induction cs with
    | nil => exact Nat.le_refl 0
    | cons c cs ih =>
      have hc := c.utf8Size_pos
      rw [List.length_cons, String.utf8Len_cons]
      omega
  rw [← String.ofList_toList (s := s), String.utf8ByteSize_ofList, String.length_ofList]
  exact hchars s.toList

/-- An ASCII text has as many octets as characters. -/
theorem utf8ByteSize_of_ascii {s : String} (h : ∀ c ∈ s.toList, c.toNat < 0x80) :
    s.utf8ByteSize = s.length := by
  have hchars : ∀ cs : List Char, (∀ c ∈ cs, c.toNat < 0x80) → String.utf8Len cs = cs.length := by
    intro cs hcs
    induction cs with
    | nil => rfl
    | cons c cs ih =>
      obtain ⟨hc, hcs⟩ := List.forall_mem_cons.1 hcs
      have hone : c.utf8Size = 1 := by
        rw [Char.utf8Size_eq_one_iff, UInt32.le_iff_toNat_le]
        exact Nat.le_of_lt_succ hc
      rw [String.utf8Len_cons, List.length_cons, ih hcs, hone]
  rw [← String.ofList_toList (s := s), String.utf8ByteSize_ofList, String.length_ofList]
  exact hchars s.toList h

end RobotClient.Text.Utf8
