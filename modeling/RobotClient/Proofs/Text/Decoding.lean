import Mathlib.Tactic.Common
import RobotClient.Proofs.Text.Utf8

set_option autoImplicit false

/-! # What decodes

Octets decode to a text exactly if they encode it. All others start with the octets of a text and
stop at a sequence that no character has: one that the input cuts off, one whose lead is no lead, or
one that an octet spoils (`Stuck`). What decoding says of them is the place where the longest text
in front ends, and whether more octets could still make a text of what is left (`Locates`). Main
statements: `decode_eq_ok_iff`, `decode_eq_error_iff`. -/

namespace RobotClient.Text.Utf8

/-! ## Characters of octets -/

theorem utf8EncodeChar_ofNat {v : Nat} (hv : v.isValidChar) :
    String.utf8EncodeChar (Char.ofNat v) =
      if v ≤ 0x7F then [UInt8.ofNat v]
      else if v ≤ 0x7FF then [UInt8.ofNat (v / 64 % 32 + 192), UInt8.ofNat (v % 64 + 128)]
      else if v ≤ 0xFFFF then
        [UInt8.ofNat (v / 4096 % 16 + 224), UInt8.ofNat (v / 64 % 64 + 128),
          UInt8.ofNat (v % 64 + 128)]
      else
        [UInt8.ofNat (v / 262144 % 8 + 240), UInt8.ofNat (v / 4096 % 64 + 128),
          UInt8.ofNat (v / 64 % 64 + 128), UInt8.ofNat (v % 64 + 128)] := by
  have hval : (Char.ofNat v).val.toNat = v := by
    rw [Char.ofNat, dif_pos hv]
    rfl
  rw [String.utf8EncodeChar]
  simp only [hval]

theorem ofNat_eq_of_toNat {n : Nat} (octet : UInt8) (h : n = octet.toNat) :
    UInt8.ofNat n = octet := by
  rw [h, UInt8.ofNat_toNat]

theorem utf8EncodeChar_two {lead second : UInt8} (hlo : 0xC2 ≤ lead.toNat)
    (hhi : lead.toNat < 0xE0) (hsecond : 0x80 ≤ second.toNat) (hsecond' : second.toNat ≤ 0xBF) :
    String.utf8EncodeChar (Char.ofNat ((lead.toNat - 0xC0) * 64 + (second.toNat - 0x80)))
      = [lead, second] := by
  generalize hv : (lead.toNat - 0xC0) * 64 + (second.toNat - 0x80) = v
  rw [utf8EncodeChar_ofNat (.inl (by omega)), if_neg (by omega), if_pos (by omega)]
  have hlead : UInt8.ofNat (v / 64 % 32 + 192) = lead := ofNat_eq_of_toNat lead (by omega)
  have hlast : UInt8.ofNat (v % 64 + 128) = second := ofNat_eq_of_toNat second (by omega)
  rw [hlead, hlast]

theorem utf8EncodeChar_three {lead second third : UInt8} (hlo : 0xE0 ≤ lead.toNat)
    (hhi : lead.toNat < 0xF0) (hsecond : 0x80 ≤ second.toNat) (hsecond' : second.toNat ≤ 0xBF)
    (hthird : 0x80 ≤ third.toNat) (hthird' : third.toNat ≤ 0xBF)
    (hshortest : lead.toNat = 0xE0 → 0xA0 ≤ second.toNat)
    (hcharacter : lead.toNat = 0xED → second.toNat ≤ 0x9F) :
    String.utf8EncodeChar (Char.ofNat
        (((lead.toNat - 0xE0) * 64 + (second.toNat - 0x80)) * 64 + (third.toNat - 0x80)))
      = [lead, second, third] := by
  generalize hv :
    ((lead.toNat - 0xE0) * 64 + (second.toNat - 0x80)) * 64 + (third.toNat - 0x80) = v
  have hvalid : v < 0xD800 ∨ 0xDFFF < v ∧ v < 0x110000 := by omega
  rw [utf8EncodeChar_ofNat hvalid, if_neg (by omega), if_neg (by omega), if_pos (by omega)]
  have hlead : UInt8.ofNat (v / 4096 % 16 + 224) = lead := ofNat_eq_of_toNat lead (by omega)
  have hmid : UInt8.ofNat (v / 64 % 64 + 128) = second := ofNat_eq_of_toNat second (by omega)
  have hlast : UInt8.ofNat (v % 64 + 128) = third := ofNat_eq_of_toNat third (by omega)
  rw [hlead, hmid, hlast]

theorem utf8EncodeChar_four {lead second third fourth : UInt8} (hlo : 0xF0 ≤ lead.toNat)
    (hhi : lead.toNat ≤ 0xF4) (hsecond : 0x80 ≤ second.toNat) (hsecond' : second.toNat ≤ 0xBF)
    (hthird : 0x80 ≤ third.toNat) (hthird' : third.toNat ≤ 0xBF)
    (hfourth : 0x80 ≤ fourth.toNat) (hfourth' : fourth.toNat ≤ 0xBF)
    (hshortest : lead.toNat = 0xF0 → 0x90 ≤ second.toNat)
    (hcharacter : lead.toNat = 0xF4 → second.toNat ≤ 0x8F) :
    String.utf8EncodeChar (Char.ofNat
        ((((lead.toNat - 0xF0) * 64 + (second.toNat - 0x80)) * 64 + (third.toNat - 0x80)) * 64
          + (fourth.toNat - 0x80)))
      = [lead, second, third, fourth] := by
  generalize hv :
    (((lead.toNat - 0xF0) * 64 + (second.toNat - 0x80)) * 64 + (third.toNat - 0x80)) * 64
      + (fourth.toNat - 0x80) = v
  have hvalid : v < 0xD800 ∨ 0xDFFF < v ∧ v < 0x110000 := by omega
  rw [utf8EncodeChar_ofNat hvalid, if_neg (by omega), if_neg (by omega), if_neg (by omega)]
  have hlead : UInt8.ofNat (v / 262144 % 8 + 240) = lead := ofNat_eq_of_toNat lead (by omega)
  have hsecond : UInt8.ofNat (v / 4096 % 64 + 128) = second := ofNat_eq_of_toNat second (by omega)
  have hthird : UInt8.ofNat (v / 64 % 64 + 128) = third := ofNat_eq_of_toNat third (by omega)
  have hfourth : UInt8.ofNat (v % 64 + 128) = fourth := ofNat_eq_of_toNat fourth (by omega)
  rw [hlead, hsecond, hthird, hfourth]

/-- What lead octets open, by the length of their sequences. The range of the second octet is such
    that the sequence is as short as can be, and that of a character. -/
inductive Lead (lead : UInt8) : Pending → Prop
  | one (hhi : lead.toNat < 0x80) : Lead lead ⟨lead.toNat, [], 1⟩
  | two (hlo : 0xC2 ≤ lead.toNat) (hhi : lead.toNat < 0xE0) :
      Lead lead ⟨lead.toNat - 0xC0, [continuation], 1⟩
  | three {range : UInt8 × UInt8} (hlo : 0xE0 ≤ lead.toNat) (hhi : lead.toNat < 0xF0)
      (hrange : 0x80 ≤ range.1.toNat ∧ range.1 ≤ range.2 ∧ range.2.toNat ≤ 0xBF)
      (hshortest : lead.toNat = 0xE0 → 0xA0 ≤ range.1.toNat)
      (hcharacter : lead.toNat = 0xED → range.2.toNat ≤ 0x9F) :
      Lead lead ⟨lead.toNat - 0xE0, [range, continuation], 1⟩
  | four {range : UInt8 × UInt8} (hlo : 0xF0 ≤ lead.toNat) (hhi : lead.toNat ≤ 0xF4)
      (hrange : 0x80 ≤ range.1.toNat ∧ range.1 ≤ range.2 ∧ range.2.toNat ≤ 0xBF)
      (hshortest : lead.toNat = 0xF0 → 0x90 ≤ range.1.toNat)
      (hcharacter : lead.toNat = 0xF4 → range.2.toNat ≤ 0x8F) :
      Lead lead ⟨lead.toNat - 0xF0, [range, continuation, continuation], 1⟩

theorem lead_of_opening {octet : UInt8} {p : Pending} (h : opening octet = some p) :
    Lead octet p := by
  have hfull : 0x80 ≤ continuation.1.toNat ∧ continuation.1 ≤ continuation.2
      ∧ continuation.2.toNat ≤ 0xBF := by decide
  rw [← UInt8.ofNat_toNat (x := octet), opening_ofNat octet.toNat_lt] at h
  split_ifs at h with h1 h2 h3 h4 h5 h6 h7 h8 h9
  · obtain rfl := Option.some.inj h
    exact .one h1
  · obtain rfl := Option.some.inj h
    exact .two (by omega) h3
  · obtain rfl := Option.some.inj h
    rw [show (0 : Nat) = octet.toNat - 0xE0 by omega]
    exact .three (by omega) (by omega) (by decide) (fun _ => by decide) (by omega)
  · obtain rfl := Option.some.inj h
    rw [show (0xD : Nat) = octet.toNat - 0xE0 by omega]
    exact .three (by omega) (by omega) (by decide) (by omega) (fun _ => by decide)
  · obtain rfl := Option.some.inj h
    exact .three (by omega) (by omega) hfull (by omega) (by omega)
  · obtain rfl := Option.some.inj h
    rw [show (0 : Nat) = octet.toNat - 0xF0 by omega]
    exact .four (by omega) (by omega) (by decide) (fun _ => by decide) (by omega)
  · obtain rfl := Option.some.inj h
    exact .four (by omega) (by omega) hfull (by omega) (by omega)
  · obtain rfl := Option.some.inj h
    rw [show (4 : Nat) = octet.toNat - 0xF0 by omega]
    exact .four (by omega) (by omega) (by decide) (by omega) (fun _ => by decide)

theorem continue?_eq_some_iff {q p : Pending} {octet : UInt8} :
    q.continue? octet = some p ↔ ∃ lo hi ranges, q.ranges = (lo, hi) :: ranges ∧ lo ≤ octet ∧
      octet ≤ hi ∧ p = ⟨q.bits * 64 + (octet.toNat - 0x80), ranges, q.seen + 1⟩ := by
  rw [Pending.continue?]
  cases hranges : q.ranges with
  | nil => simp
  | cons range ranges =>
    obtain ⟨lo, hi⟩ := range
    simp only [Option.ite_none_right_eq_some, Option.some.injEq, List.cons.injEq, Prod.mk.injEq]
    constructor
    · rintro ⟨⟨hlo, hhi⟩, rfl⟩
      exact ⟨lo, hi, ranges, ⟨⟨rfl, rfl⟩, rfl⟩, hlo, hhi, rfl⟩
    · rintro ⟨_, _, _, ⟨⟨rfl, rfl⟩, rfl⟩, hlo, hhi, rfl⟩
      exact ⟨⟨hlo, hhi⟩, rfl⟩

/-- The octet that ends a sequence. -/
theorem Completes.last_octet {q : Pending} {octets : List UInt8} {c : Char}
    {range : UInt8 × UInt8} (h : Completes (some q) octets c) (hranges : q.ranges = [range]) :
    ∃ octet, octets = [octet] ∧ range.1.toNat ≤ octet.toNat ∧ octet.toNat ≤ range.2.toNat ∧
      c = Char.ofNat (q.bits * 64 + (octet.toNat - 0x80)) := by
  cases h with
  | last continues last =>
    obtain ⟨lo, hi, ranges, hq, hlo, hhi, rfl⟩ := continue?_eq_some_iff.1 continues
    obtain ⟨rfl, -⟩ := List.cons.inj (hq.symm.trans hranges)
    exact ⟨_, rfl, hlo, hhi, rfl⟩
  | next continues more rest =>
    obtain ⟨lo, hi, ranges, hq, -, -, rfl⟩ := continue?_eq_some_iff.1 continues
    obtain ⟨-, hnil⟩ := List.cons.inj (hq.symm.trans hranges)
    exact absurd hnil more

/-- The next octet of a sequence that goes on after it. -/
theorem Completes.next_octet {q : Pending} {octets : List UInt8} {c : Char}
    {range : UInt8 × UInt8} {ranges : List (UInt8 × UInt8)} (h : Completes (some q) octets c)
    (hranges : q.ranges = range :: ranges) (hmore : ranges ≠ []) :
    ∃ octet rest, octets = octet :: rest ∧ range.1.toNat ≤ octet.toNat ∧
      octet.toNat ≤ range.2.toNat ∧
      Completes (some ⟨q.bits * 64 + (octet.toNat - 0x80), ranges, q.seen + 1⟩) rest c := by
  cases h with
  | last continues last =>
    obtain ⟨lo, hi, ranges', hq, -, -, rfl⟩ := continue?_eq_some_iff.1 continues
    obtain ⟨-, hsame⟩ := List.cons.inj (hq.symm.trans hranges)
    exact absurd (hsame.symm.trans last) hmore
  | next continues more rest =>
    obtain ⟨lo, hi, ranges', hq, hlo, hhi, rfl⟩ := continue?_eq_some_iff.1 continues
    obtain ⟨rfl, rfl⟩ := List.cons.inj (hq.symm.trans hranges)
    exact ⟨_, _, rfl, hlo, hhi, rest⟩

/-- **Octets that complete a character are its octets.** -/
theorem Completes.eq_encode {octets : List UInt8} {c : Char} (h : Completes none octets c) :
    octets = String.utf8EncodeChar c := by
  have hlow : continuation.1.toNat = 0x80 := by decide
  have hhigh : continuation.2.toNat = 0xBF := by decide
  cases h with
  | @single octet p opens last =>
    cases lead_of_opening opens with
    | one hhi =>
      show [octet] = String.utf8EncodeChar (Char.ofNat octet.toNat)
      rw [utf8EncodeChar_ofNat (.inl (by omega)), if_pos (by omega), UInt8.ofNat_toNat]
    | two | three | four => exact absurd last (by simp)
  | first opens more rest =>
    cases lead_of_opening opens with
    | one => exact absurd rfl more
    | two hlo hhi =>
      obtain ⟨second, rfl, hsecond, hsecond', hc⟩ := rest.last_octet rfl
      rw [hlow] at hsecond
      rw [hhigh] at hsecond'
      rw [hc, utf8EncodeChar_two hlo hhi hsecond hsecond']
    | three hlo hhi hrange hshortest hcharacter =>
      obtain ⟨second, octets, rfl, hsecond, hsecond', rest⟩ := rest.next_octet rfl (by simp)
      obtain ⟨third, rfl, hthird, hthird', hc⟩ := rest.last_octet rfl
      rw [hlow] at hthird
      rw [hhigh] at hthird'
      rw [hc, utf8EncodeChar_three hlo hhi (by omega) (by omega) hthird hthird' (by omega)
        (by omega)]
    | four hlo hhi hrange hshortest hcharacter =>
      obtain ⟨second, octets, rfl, hsecond, hsecond', rest⟩ := rest.next_octet rfl (by simp)
      obtain ⟨third, octets, rfl, hthird, hthird', rest⟩ := rest.next_octet rfl (by simp)
      obtain ⟨fourth, rfl, hfourth, hfourth', hc⟩ := rest.last_octet rfl
      rw [hlow] at hthird hfourth
      rw [hhigh] at hthird' hfourth'
      rw [hc, utf8EncodeChar_four hlo hhi (by omega) (by omega) hthird hthird' hfourth hfourth'
        (by omega) (by omega)]

/-! ## Sequences that have started -/

/-- The octets have started a sequence that goes on after them. -/
inductive Starts : List UInt8 → Pending → Prop
  | lead {octet : UInt8} {p : Pending} (opens : opening octet = some p) (more : p.ranges ≠ []) :
      Starts [octet] p
  | next {octets : List UInt8} {octet : UInt8} {q p : Pending} (h : Starts octets q)
      (continues : q.continue? octet = some p) (more : p.ranges ≠ []) :
      Starts (octets ++ [octet]) p

theorem seen_of_opening {octet : UInt8} {p : Pending} (h : opening octet = some p) :
    p.seen = 1 := by
  cases lead_of_opening h <;> rfl

theorem seen_of_continue? {q p : Pending} {octet : UInt8} (h : q.continue? octet = some p) :
    p.seen = q.seen + 1 := by
  obtain ⟨lo, hi, ranges, -, -, -, rfl⟩ := continue?_eq_some_iff.1 h
  rfl

theorem Starts.seen_eq {octets : List UInt8} {p : Pending} (h : Starts octets p) :
    p.seen = octets.length := by
  induction h with
  | lead opens more => exact seen_of_opening opens
  | next h continues more ih =>
    rw [seen_of_continue? continues, ih, List.length_append, List.length_singleton]

theorem Starts.ranges_ne {octets : List UInt8} {p : Pending} (h : Starts octets p) :
    p.ranges ≠ [] := by
  cases h with
  | lead opens more => exact more
  | next h continues more => exact more

/-- Each octet to come can be chosen. -/
theorem Starts.ranges_le {octets : List UInt8} {p : Pending} (h : Starts octets p) :
    ∀ range ∈ p.ranges, range.1 ≤ range.2 := by
  have hfull : continuation.1 ≤ continuation.2 := by decide
  induction h with
  | lead opens more =>
    cases lead_of_opening opens with
    | one => simp
    | two => simp [hfull]
    | three _ _ hrange => simp [hfull, hrange.2.1]
    | four _ _ hrange => simp [hfull, hrange.2.1]
  | next h continues more ih =>
    obtain ⟨lo, hi, ranges, hranges, -, -, rfl⟩ := continue?_eq_some_iff.1 continues
    intro range hrange
    exact ih range (hranges ▸ List.mem_cons_of_mem _ hrange)

/-- A front of a started sequence has started it. -/
theorem Starts.take {octets : List UInt8} {p : Pending} (h : Starts octets p) {n : Nat}
    (hpos : 0 < n) : ∃ q, Starts (octets.take n) q := by
  induction h with
  | @lead octet p opens more =>
    rw [List.take_of_length_le hpos]
    exact ⟨p, .lead opens more⟩
  | @next octets octet q p h continues more ih =>
    by_cases hn : n ≤ octets.length
    · rw [List.take_append_of_le_length hn]
      exact ih
    · rw [List.take_of_length_le (by rw [List.length_append, List.length_singleton]; omega)]
      exact ⟨p, .next h continues more⟩

theorem Starts.completes {octets more : List UInt8} {p : Pending} {c : Char}
    (h : Starts octets p) (hmore : Completes (some p) more c) :
    Completes none (octets ++ more) c := by
  induction h generalizing more with
  | lead opens more' => exact .first opens more' hmore
  | next h continues more' ih =>
    rw [List.append_assoc]
    exact ih (.next continues more' hmore)

/-- The least octets that complete a character. -/
theorem exists_completes {p : Pending} (hne : p.ranges ≠ [])
    (hle : ∀ range ∈ p.ranges, range.1 ≤ range.2) :
    ∃ c, Completes (some p) (p.ranges.map Prod.fst) c := by
  obtain ⟨bits, ranges, seen⟩ := p
  induction ranges generalizing bits seen with
  | nil => exact absurd rfl hne
  | cons range ranges ih =>
    obtain ⟨lo, hi⟩ := range
    have hlo : lo ≤ hi := hle (lo, hi) List.mem_cons_self
    have hcontinues : Pending.continue? ⟨bits, (lo, hi) :: ranges, seen⟩ lo
        = some ⟨bits * 64 + (lo.toNat - 0x80), ranges, seen + 1⟩ :=
      continue?_eq_some_iff.2 ⟨lo, hi, ranges, rfl, UInt8.le_refl lo, hlo, rfl⟩
    cases ranges with
    | nil => exact ⟨_, .last hcontinues rfl⟩
    | cons next ranges =>
      obtain ⟨c, hc⟩ := ih (bits * 64 + (lo.toNat - 0x80)) (seen + 1) (by simp)
        fun range hrange => hle range (List.mem_cons_of_mem _ hrange)
      exact ⟨c, .next hcontinues (by simp) hc⟩

/-- **What has started can be completed.** -/
theorem Starts.exists_completion {octets : List UInt8} {p : Pending} (h : Starts octets p) :
    ∃ more c, octets ++ more = String.utf8EncodeChar c := by
  obtain ⟨c, hc⟩ := exists_completes h.ranges_ne h.ranges_le
  exact ⟨_, c, (h.completes hc).eq_encode⟩

/-! ## Texts and what is left behind them -/

/-- Octets that no character is in front of, with the number of octets that are spoiled; there is
    none if the input ends inside a sequence. -/
inductive Stuck : List UInt8 → Option Nat → Prop
  | cutOff {octets : List UInt8} {p : Pending} (h : Starts octets p) : Stuck octets none
  | lead {octet : UInt8} {rest : List UInt8} (h : opening octet = none) :
      Stuck (octet :: rest) (some 1)
  | spoiled {front rest : List UInt8} {octet : UInt8} {p : Pending} (h : Starts front p)
      (hoctet : p.continue? octet = none) : Stuck (front ++ octet :: rest) (some front.length)

/-- Octets behind a started sequence complete it, leave it open, or spoil it. -/
theorem Starts.followed_by {front : List UInt8} {p : Pending} (h : Starts front p)
    (octets : List UInt8) :
    (∃ octets' rest c, octets = octets' ++ rest ∧ Completes (some p) octets' c) ∨
      ∃ spoiled, Stuck (front ++ octets) spoiled := by
  induction octets generalizing front p with
  | nil =>
    rw [List.append_nil]
    exact .inr ⟨none, .cutOff h⟩
  | cons octet octets ih =>
    cases hoctet : p.continue? octet with
    | none => exact .inr ⟨_, .spoiled h hoctet⟩
    | some q =>
      by_cases hlast : q.ranges = []
      · exact .inl ⟨[octet], octets, _, rfl, .last hoctet hlast⟩
      obtain ⟨octets', rest, c, rfl, hc⟩ | ⟨spoiled, hstuck⟩ := ih (.next h hoctet hlast)
      · exact .inl ⟨octet :: octets', rest, c, rfl, .next hoctet hlast hc⟩
      · rw [List.append_assoc] at hstuck
        exact .inr ⟨spoiled, hstuck⟩

/-- Octets start with a character unless they are stuck. -/
theorem character_or_stuck {octets : List UInt8} (h : octets ≠ []) :
    (∃ c rest, octets = String.utf8EncodeChar c ++ rest) ∨ ∃ spoiled, Stuck octets spoiled := by
  obtain ⟨octet, rest, rfl⟩ := List.exists_cons_of_ne_nil h
  cases hoctet : opening octet with
  | none => exact .inr ⟨_, .lead hoctet⟩
  | some p =>
    by_cases hlast : p.ranges = []
    · have hc : Completes none [octet] (Char.ofNat p.bits) := .single hoctet hlast
      refine .inl ⟨Char.ofNat p.bits, rest, ?_⟩
      rw [← hc.eq_encode]
      rfl
    have hstarts : Starts [octet] p := .lead hoctet hlast
    obtain ⟨octets, rest', c, rfl, hc⟩ | hstuck := hstarts.followed_by rest
    · refine .inl ⟨c, rest', ?_⟩
      rw [← (hstarts.completes hc).eq_encode]
      rfl
    · exact .inr hstuck

@[simp] theorem encode_empty : encode "" = [] := rfl

theorem encode_ofList_cons (c : Char) (cs : List Char) :
    encode (String.ofList (c :: cs))
      = String.utf8EncodeChar c ++ encode (String.ofList cs) := by
  simp [encode]

/-- **Octets are those of a text, and then none or stuck ones.** -/
theorem exists_encode_append (octets : List UInt8) :
    ∃ text rest, octets = encode text ++ rest ∧ (rest = [] ∨ ∃ spoiled, Stuck rest spoiled) := by
  -- the induction is on the octets that are left, of which a character takes one at least
  induction hsize : octets.length using Nat.strong_induction_on generalizing octets with
  | _ size ih =>
    obtain rfl | hne := eq_or_ne octets []
    · exact ⟨"", [], rfl, .inl rfl⟩
    obtain ⟨c, rest, rfl⟩ | hstuck := character_or_stuck hne
    · have hpos : 0 < (String.utf8EncodeChar c).length := by
        rw [String.length_utf8EncodeChar]
        exact c.utf8Size_pos
      rw [List.length_append] at hsize
      obtain ⟨text, rest', rfl, hrest⟩ := ih rest.length (by omega) rest rfl
      refine ⟨String.ofList (c :: text.toList), rest', ?_, hrest⟩
      rw [encode_ofList_cons, String.ofList_toList, List.append_assoc]
    · exact ⟨"", octets, rfl, .inr hstuck⟩

/-! ## Decoding -/

/-- The octets of the sequence that is open. -/
def openOctets : Option Pending → Nat
  | none => 0
  | some p => p.seen

theorem decodeFrom_of_completes {state : Option Pending} {octets : List UInt8} {c : Char}
    (h : Completes state octets c) (start : Nat) (rest : List UInt8) :
    decodeFrom start state (octets ++ rest)
      = (decodeFrom (start + (openOctets state + octets.length)) none rest).map (c :: ·) := by
  induction h with
  | single opens last =>
    simp [decodeFrom, opens, last, seen_of_opening opens, openOctets]
  | first opens more rest' ih =>
    simp only [List.cons_append, decodeFrom, opens, List.isEmpty_iff, more, if_false]
    rw [ih, openOctets, openOctets, seen_of_opening opens, List.length_cons]
    congr 2
    omega
  | last continues last =>
    simp [decodeFrom, continues, last, seen_of_continue? continues, openOctets]
  | next continues more rest' ih =>
    simp only [List.cons_append, decodeFrom, continues, List.isEmpty_iff, more, if_false]
    rw [ih, openOctets, openOctets, seen_of_continue? continues, List.length_cons]
    congr 2
    omega

theorem decodeFrom_of_starts {octets : List UInt8} {p : Pending} (h : Starts octets p)
    (start : Nat) (rest : List UInt8) :
    decodeFrom start none (octets ++ rest) = decodeFrom start (some p) rest := by
  induction h generalizing rest with
  | lead opens more => simp [decodeFrom, opens, more]
  | next h continues more ih =>
    rw [List.append_assoc, ih]
    simp [decodeFrom, continues, more]

theorem decodeFrom_stuck {octets : List UInt8} {spoiled : Option Nat} (h : Stuck octets spoiled)
    (start : Nat) : decodeFrom start none octets = .error ⟨start, spoiled⟩ := by
  cases h with
  | cutOff h =>
    rw [← List.append_nil octets, decodeFrom_of_starts h]
    rfl
  | lead h => simp [decodeFrom, h]
  | spoiled h hoctet =>
    rw [decodeFrom_of_starts h]
    simp [decodeFrom, hoctet, h.seen_eq]

theorem decodeFrom_encode_append (cs : List Char) (start : Nat) (rest : List UInt8) :
    decodeFrom start none (encode (String.ofList cs) ++ rest)
      = (decodeFrom (start + (encode (String.ofList cs)).length) none rest).map (cs ++ ·) := by
  induction cs generalizing start with
  | nil =>
    rw [String.ofList_nil, encode_empty, List.nil_append, List.length_nil, Nat.add_zero]
    cases decodeFrom start none rest <;> rfl
  | cons c cs ih =>
    rw [encode_ofList_cons, List.append_assoc, decodeFrom_of_completes (completes_encode c), ih,
      openOctets, List.length_append, Nat.zero_add, Nat.add_assoc]
    cases decodeFrom _ none rest <;> rfl

/-- **Octets that encode a text decode to it.** -/
theorem decode_encode (text : String) : decode (encode text) = .ok text := by
  have h := decodeFrom_encode_append text.toList 0 []
  rw [String.ofList_toList, List.append_nil] at h
  rw [decode, decodeChars, h]
  simp [decodeFrom, Except.map]

theorem decode_encode_append_stuck (text : String) {rest : List UInt8} {spoiled : Option Nat}
    (h : Stuck rest spoiled) :
    decode (encode text ++ rest) = .error ⟨(encode text).length, spoiled⟩ := by
  have hfront := decodeFrom_encode_append text.toList 0 rest
  rw [String.ofList_toList, Nat.zero_add, decodeFrom_stuck h] at hfront
  rw [decode, decodeChars, hfront]
  rfl

/-- **Decoding is the inverse of encoding.** -/
theorem decode_eq_ok_iff {octets : List UInt8} {text : String} :
    decode octets = .ok text ↔ octets = encode text := by
  constructor
  · intro h
    obtain ⟨text', rest, rfl, rfl | ⟨spoiled, hstuck⟩⟩ := exists_encode_append octets
    · rw [List.append_nil, decode_encode] at h
      rw [List.append_nil, Except.ok.inj h]
    · rw [decode_encode_append_stuck text' hstuck] at h
      exact absurd h (by simp)
  · rintro rfl
    exact decode_encode text

/-! ## Defects -/

/-- The octets are those of a text. -/
def IsText (octets : List UInt8) : Prop := ∃ text, octets = encode text

/-- More octets make a text of the octets. -/
def Completable (octets : List UInt8) : Prop := ∃ more, IsText (octets ++ more)

/-- A defect says where octets stop being a text, and whether they could go on as one. -/
structure Locates (octets : List UInt8) (d : Defect) : Prop where
  not_isText : ¬ IsText octets
  isText_take : IsText (octets.take d.validUpTo)
  longest : ∀ n, IsText (octets.take n) → n ≤ d.validUpTo
  /-- No octet is spoiled if what is left could be completed. -/
  cutOff : d.spoiled = none ↔ Completable (octets.drop d.validUpTo)
  /-- Else as many are as could be completed, but the first one at least. -/
  spoiled : ∀ k, d.spoiled = some k →
    (k = 1 ∨ 0 < k ∧ Completable ((octets.drop d.validUpTo).take k)) ∧
      ∀ n, Completable ((octets.drop d.validUpTo).take n) → n ≤ k

theorem not_isText_encode_append (text : String) {rest : List UInt8} {spoiled : Option Nat}
    (h : Stuck rest spoiled) : ¬ IsText (encode text ++ rest) := by
  rintro ⟨text', htext'⟩
  have hstuck := decode_encode_append_stuck text h
  rw [htext', decode_encode] at hstuck
  exact absurd hstuck (by simp)

theorem Stuck.not_isText {octets : List UInt8} {spoiled : Option Nat} (h : Stuck octets spoiled) :
    ¬ IsText octets := by
  exact not_isText_encode_append "" h

/-- A front of stuck octets is stuck. -/
theorem Stuck.take {octets : List UInt8} {spoiled : Option Nat} (h : Stuck octets spoiled)
    {n : Nat} (hpos : 0 < n) : ∃ spoiled', Stuck (octets.take n) spoiled' := by
  cases h with
  | cutOff h =>
    obtain ⟨q, hq⟩ := h.take hpos
    exact ⟨none, .cutOff hq⟩
  | lead h =>
    obtain ⟨m, rfl⟩ := Nat.exists_eq_succ_of_ne_zero (Nat.ne_of_gt hpos)
    exact ⟨_, .lead h⟩
  | @spoiled front rest octet p h hoctet =>
    by_cases hn : n ≤ front.length
    · obtain ⟨q, hq⟩ := h.take hpos
      rw [List.take_append_of_le_length hn]
      exact ⟨none, .cutOff hq⟩
    · obtain ⟨m, hm⟩ : ∃ m, n - front.length = m + 1 := ⟨n - front.length - 1, by omega⟩
      rw [List.take_append, List.take_of_length_le (by omega), hm, List.take_succ_cons]
      exact ⟨_, .spoiled h hoctet⟩

theorem Stuck.completable {octets : List UInt8} (h : Stuck octets none) : Completable octets := by
  cases h with
  | cutOff h =>
    obtain ⟨more, c, hc⟩ := h.exists_completion
    refine ⟨more, String.ofList [c], ?_⟩
    rw [hc, encode_ofList_cons, String.ofList_nil, encode_empty, List.append_nil]

/-- What is spoiled stays so, whatever follows. -/
theorem Stuck.append {octets : List UInt8} {k : Nat} (h : Stuck octets (some k))
    (more : List UInt8) : Stuck (octets ++ more) (some k) := by
  cases h with
  | lead h => exact .lead h
  | spoiled h hoctet =>
    rw [List.append_assoc]
    exact .spoiled h hoctet

theorem Stuck.not_completable {octets : List UInt8} {k : Nat} (h : Stuck octets (some k)) :
    ¬ Completable octets := by
  rintro ⟨more, hmore⟩
  exact (h.append more).not_isText hmore

/-- The octets that are spoiled could be completed, and one more could not. -/
theorem Stuck.spoiled_eq {octets : List UInt8} {k : Nat} (h : Stuck octets (some k)) :
    (k = 1 ∨ 0 < k ∧ Completable (octets.take k)) ∧
      ∀ n, Completable (octets.take n) → n ≤ k := by
  cases h with
  | @lead octet rest h =>
    refine ⟨.inl rfl, ?_⟩
    intro n hn
    by_contra hlt
    obtain ⟨m, rfl⟩ : ∃ m, n = m + 1 := ⟨n - 1, by omega⟩
    have hstuck : Stuck ((octet :: rest).take (m + 1)) (some 1) := .lead h
    exact hstuck.not_completable hn
  | @spoiled front rest octet p h hoctet =>
    constructor
    · refine .inr ⟨?_, ?_⟩
      · cases h <;> simp
      · rw [List.take_left]
        exact (Stuck.cutOff h).completable
    · intro n hn
      by_contra hlt
      obtain ⟨m, hm⟩ : ∃ m, n - front.length = m + 1 := ⟨n - front.length - 1, by omega⟩
      rw [List.take_append, List.take_of_length_le (by omega), hm, List.take_succ_cons] at hn
      have hstuck : Stuck (front ++ octet :: rest.take m) (some front.length) := .spoiled h hoctet
      exact hstuck.not_completable hn

/-- A text with stuck octets behind it ends where they start. -/
theorem locates_encode_append (text : String) {rest : List UInt8} {spoiled : Option Nat}
    (h : Stuck rest spoiled) :
    Locates (encode text ++ rest) ⟨(encode text).length, spoiled⟩ where
  not_isText := not_isText_encode_append text h
  isText_take := by
    rw [List.take_left]
    exact ⟨text, rfl⟩
  longest := by
    intro n hn
    by_contra hlt
    have hpos : 0 < n - (encode text).length := Nat.sub_pos_of_lt (Nat.lt_of_not_le hlt)
    rw [List.take_append, List.take_of_length_le (by omega)] at hn
    obtain ⟨spoiled', hstuck⟩ := h.take hpos
    exact not_isText_encode_append text hstuck hn
  cutOff := by
    rw [List.drop_left]
    cases spoiled with
    | none => exact iff_of_true rfl h.completable
    | some k => exact iff_of_false (by simp) h.not_completable
  spoiled := by
    rintro k rfl
    rw [List.drop_left]
    exact h.spoiled_eq

/-- Octets have one defect. -/
theorem Locates.unique {octets : List UInt8} {d e : Defect} (hd : Locates octets d)
    (he : Locates octets e) : d = e := by
  have hvalid : d.validUpTo = e.validUpTo :=
    Nat.le_antisymm (he.longest _ hd.isText_take) (hd.longest _ he.isText_take)
  obtain ⟨start, spoiled⟩ := d
  obtain ⟨start', spoiled'⟩ := e
  obtain rfl : start = start' := hvalid
  have hnone : spoiled = none ↔ spoiled' = none := hd.cutOff.trans he.cutOff.symm
  cases spoiled with
  | none => rw [hnone.1 rfl]
  | some k =>
    cases spoiled' with
    | none => exact absurd (hnone.2 rfl) (by simp)
    | some k' =>
      obtain ⟨hk, hmost⟩ := hd.spoiled k rfl
      obtain ⟨hk', hmost'⟩ := he.spoiled k' rfl
      have hle : k ≤ k' := by
        obtain rfl | ⟨-, hc⟩ := hk
        · omega
        · exact hmost' k hc
      have hge : k' ≤ k := by
        obtain rfl | ⟨-, hc⟩ := hk'
        · omega
        · exact hmost k' hc
      rw [Nat.le_antisymm hle hge]

/-- **Where decoding fails.** -/
theorem decode_eq_error_iff {octets : List UInt8} {d : Defect} :
    decode octets = .error d ↔ Locates octets d := by
  obtain ⟨text, rest, rfl, rfl | ⟨spoiled, hstuck⟩⟩ := exists_encode_append octets
  · rw [List.append_nil, decode_encode]
    refine iff_of_false (by simp) ?_
    intro h
    exact h.not_isText ⟨text, rfl⟩
  · rw [decode_encode_append_stuck text hstuck, Except.error.injEq]
    have hlocates := locates_encode_append text hstuck
    constructor
    · rintro rfl
      exact hlocates
    · exact hlocates.unique

/-- A slash in more octets than it needs. -/
example : decode [0x2E, 0xC0, 0xAF] = .error ⟨1, some 1⟩ := by decide

/-- A surrogate, and a number beyond all code points. -/
example : decode [0xED, 0xA0, 0x80] = .error ⟨0, some 1⟩ ∧
    decode [0xF4, 0x90, 0x80, 0x80] = .error ⟨0, some 1⟩ := by decide

/-- Two octets of three, at the end and before a letter. -/
example : decode [0xE2, 0x82] = .error ⟨0, none⟩ ∧
    decode [0xE2, 0x82, 0x41] = .error ⟨0, some 2⟩ := by decide

end RobotClient.Text.Utf8
