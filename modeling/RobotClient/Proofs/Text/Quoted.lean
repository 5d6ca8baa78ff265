import Mathlib
import RobotClient.Proofs.Text.Split
import RobotClient.Text.Quoted

set_option autoImplicit false

/-! # Quoting tells texts apart

How a character is written between quotes shows which one it is, whatever follows: it stands for
itself, behind a backslash, or by its number, which has an end of its own. So quoted texts are
different for different texts, and it can be seen where they end. Main statements:
`quotedChar_inj` and `quoted_append_inj`. -/

namespace RobotClient.Text

/-! ## Codes -/

section Codes

variable {α β : Type}

/-- No code word is the front of another one. -/
structure PrefixFree (code : α → List β) : Prop where
  append_inj {a b : α} {s t : List β} : code a ++ s = code b ++ t → a = b ∧ s = t

/-- Code words one after the other can be read up to a mark that none of them starts with. -/
theorem PrefixFree.flatMap_append_inj {code : α → List β} (hcode : PrefixFree code) {mark : β}
    (hmark : ∀ a s t, code a ++ s ≠ mark :: t) {as bs : List α} {s t : List β}
    (h : as.flatMap code ++ mark :: s = bs.flatMap code ++ mark :: t) : as = bs ∧ s = t := by
  induction as generalizing bs with
  | nil =>
    cases bs with
    | nil => exact ⟨rfl, (List.cons.inj h).2⟩
    | cons b bs =>
      rw [List.flatMap_cons, List.append_assoc] at h
      exact absurd h.symm (hmark b _ s)
  | cons a as ih =>
    cases bs with
    | nil =>
      rw [List.flatMap_cons, List.append_assoc] at h
      exact absurd h (hmark a _ t)
    | cons b bs =>
      simp only [List.flatMap_cons, List.append_assoc] at h
      obtain ⟨rfl, hrest⟩ := hcode.append_inj h
      obtain ⟨rfl, hst⟩ := ih hrest
      exact ⟨rfl, hst⟩

end Codes

/-! ## Hexadecimal numbers -/

/-- The last digit of a number with the digits in front of it. -/
theorem hexDigits_eq (n : Nat) :
    hexDigits n = (if n < 16 then [] else hexDigits (n / 16)) ++ [Nat.digitChar (n % 16)] := by
  rw [hexDigits, Nat.toDigits_eq_if (by decide)]
  split
  · next h => rw [Nat.mod_eq_of_lt h]; rfl
  · rfl

theorem hexDigits_ne_nil (n : Nat) : hexDigits n ≠ [] := by
  rw [hexDigits_eq]
  simp

theorem digitChar_inj {m n : Nat} (hm : m < 16) (hn : n < 16)
    (h : Nat.digitChar m = Nat.digitChar n) : m = n := by
  have hall : ∀ m < 16, ∀ n < 16, Nat.digitChar m = Nat.digitChar n → m = n := by decide
  exact hall m hm n hn h

theorem hexDigits_inj {m n : Nat} (h : hexDigits m = hexDigits n) : m = n := by
  induction m using Nat.strongRecOn generalizing n with
  | ind m ih =>
    rw [hexDigits_eq m, hexDigits_eq n] at h
    obtain ⟨hfront, hlast⟩ := List.append_inj' h rfl
    have hdigit : m % 16 = n % 16 :=
      digitChar_inj (Nat.mod_lt m (by decide)) (Nat.mod_lt n (by decide)) (List.cons.inj hlast).1
    have hrest : m / 16 = n / 16 := by
      split at hfront <;> split at hfront
      · omega
      · exact absurd hfront.symm (hexDigits_ne_nil _)
      · exact absurd hfront (hexDigits_ne_nil _)
      · exact ih (m / 16) (by omega) hfront
    omega

/-- The brace that ends a number is no digit of it. -/
theorem brace_not_mem_hexDigits (n : Nat) : Char.ofNat 0x7D ∉ hexDigits n := by
  induction n using Nat.strongRecOn with
  | ind n ih =>
    have hlast : ∀ d < 16, Char.ofNat 0x7D ≠ Nat.digitChar d := by decide
    rw [hexDigits_eq, List.mem_append, List.mem_singleton, not_or]
    refine ⟨?_, hlast _ (Nat.mod_lt n (by decide))⟩
    split
    · exact List.not_mem_nil
    · exact ih (n / 16) (by omega)

theorem prefixFree_escapeByNumber : PrefixFree escapeByNumber := by
  refine ⟨fun {c d s t} h => ?_⟩
  simp only [escapeByNumber, List.append_assoc, List.cons_append, List.nil_append,
    List.cons.injEq, true_and] at h
  -- the braces end the numbers at the same place
  have hpieces := congrArg (pieces (Char.ofNat 0x7D)) h
  rw [pieces_append (brace_not_mem_hexDigits _), pieces_append (brace_not_mem_hexDigits _)]
    at hpieces
  have hdigits := (List.cons.inj hpieces).1
  rw [hdigits] at h
  exact ⟨Char.toNat_inj.1 (hexDigits_inj hdigits), (List.cons.inj (List.append_cancel_left h)).2⟩

/-! ## Characters -/

/-- The character that a letter behind a backslash stands for. -/
def letterMeaning (letter : Char) : Char :=
  if letter = '0' then Char.ofNat 0
  else if letter = 't' then '\t'
  else if letter = 'r' then '\r'
  else if letter = 'n' then '\n'
  else letter

/-- Marks that are quotes. -/
def Quotes (marks : List Char) : Prop := ∀ m ∈ marks, m = '"' ∨ m = '\''

/-- A character is written as itself, by a letter behind a backslash, or by its number. -/
theorem escapeChar_cases {marks : List Char} (hmarks : Quotes marks) (c : Char) :
    (escapeChar marks c = [c] ∧ c ≠ '\\' ∧ c ∉ marks) ∨
    (∃ letter, escapeChar marks c = ['\\', letter] ∧ letter ≠ 'u' ∧ letterMeaning letter = c) ∨
    escapeChar marks c = escapeByNumber c := by
  unfold escapeChar
  split
  · next h => exact .inr (.inl ⟨'0', rfl, by decide, h.symm⟩)
  split
  · next h => exact .inr (.inl ⟨'t', rfl, by decide, h.symm⟩)
  split
  · next h => exact .inr (.inl ⟨'r', rfl, by decide, h.symm⟩)
  split
  · next h => exact .inr (.inl ⟨'n', rfl, by decide, h.symm⟩)
  split
  · next h =>
    have hself : c = '\\' ∨ c = '"' ∨ c = '\'' := h.imp_right (hmarks c)
    refine .inr (.inl ⟨c, rfl, ?_⟩)
    rcases hself with rfl | rfl | rfl <;> decide
  next hplain =>
  split
  · exact .inr (.inr rfl)
  split
  · exact .inl ⟨rfl, not_or.1 hplain⟩
  · exact .inr (.inr rfl)

theorem prefixFree_escapeChar {marks : List Char} (hmarks : Quotes marks) :
    PrefixFree (escapeChar marks) := by
  refine ⟨fun {c d s t} h => ?_⟩
  rcases escapeChar_cases hmarks c with ⟨hc, hc', -⟩ | ⟨l, hc, hl, rfl⟩ | hc <;>
    rcases escapeChar_cases hmarks d with ⟨hd, hd', -⟩ | ⟨m, hd, hm, rfl⟩ | hd <;>
    rw [hc, hd] at h
  · simpa using h
  · exact absurd (List.cons.inj h).1 hc'
  · exact absurd (List.cons.inj h).1 hc'
  · exact absurd (List.cons.inj h).1.symm hd'
  · simp only [List.cons_append, List.nil_append, List.cons.injEq, true_and] at h
    exact ⟨congrArg letterMeaning h.1, h.2⟩
  · exact absurd (List.cons.inj (List.cons.inj h).2).1 hl
  · exact absurd (List.cons.inj h).1.symm hd'
  · exact absurd (List.cons.inj (List.cons.inj h).2).1.symm hm
  · exact prefixFree_escapeByNumber.append_inj h

/-- No character is written with a quote in front that needs a backslash. -/
theorem escapeChar_append_ne {marks : List Char} (hmarks : Quotes marks) {mark : Char}
    (hmark : mark ∈ marks) (c : Char) (s t : List Char) : escapeChar marks c ++ s ≠ mark :: t := by
  have hbackslash : mark ≠ '\\' := by rcases hmarks mark hmark with rfl | rfl <;> decide
  intro h
  rcases escapeChar_cases hmarks c with ⟨hc, -, hc'⟩ | ⟨l, hc, -⟩ | hc <;> rw [hc] at h
  · obtain rfl := (List.cons.inj h).1
    exact hc' hmark
  · exact hbackslash (List.cons.inj h).1.symm
  · exact hbackslash (List.cons.inj h).1.symm

/-! ## Quoted texts -/

/-- **A quoted character shows which one it is.** -/
theorem quotedChar_inj {c d : Char} (h : quotedChar c = quotedChar d) : c = d := by
  have hlist := congrArg String.toList h
  simp only [quotedChar, String.toList_ofList, List.cons_append, List.cons.injEq, true_and] at hlist
  exact ((prefixFree_escapeChar (by simp [Quotes])).append_inj hlist).1

/-- **A quoted text shows which one it is and where it ends.** -/
theorem quoted_append_inj {a b s t : String} (h : quoted a ++ s = quoted b ++ t) :
    a = b ∧ s = t := by
  have hmarks : Quotes ['"'] := by simp [Quotes]
  have hlist := congrArg String.toList h
  simp only [quoted, String.toList_append, String.toList_ofList, List.cons_append,
    List.append_assoc, List.nil_append, List.cons.injEq, true_and] at hlist
  obtain ⟨hab, hst⟩ := (prefixFree_escapeChar hmarks).flatMap_append_inj
    (escapeChar_append_ne hmarks List.mem_cons_self) hlist
  exact ⟨String.toList_inj.1 hab, String.toList_inj.1 hst⟩

end RobotClient.Text
