import Mathlib
import RobotClient.Node.Name
import RobotClient.Proofs.Number.Decimal
import RobotClient.Proofs.Text.Split
import RobotClient.Proofs.Text.Utf8

set_option autoImplicit false

/-! # Which texts are names

The checks of a name count octets, look at the first character and search for a bad one; the checks
of a namespace look at both of its ends and cut it at its slashes. Here the texts that pass are told
by a grammar that knows only characters: a token (`IsToken`) is made of ASCII letters, digits and
underscores, and a namespace is the root or a few tokens with a slash in front of each (`slashed`).
Main statement: `validate_eq_ok_iff`. -/

namespace RobotClient

open Number (AsciiDigit isDigit_iff)

/-! ## Characters -/

/-- An ASCII letter, an ASCII digit or an underscore. -/
def WordChar (c : Char) : Prop :=
  'a' ≤ c ∧ c ≤ 'z' ∨ 'A' ≤ c ∧ c ≤ 'Z' ∨ AsciiDigit c ∨ c = '_'

theorem isTokenChar_iff {c : Char} : isTokenChar c = true ↔ WordChar c := by
  simp only [isTokenChar, Char.isAlphanum, Char.isAlpha, Char.isUpper, Char.isLower, WordChar,
    Bool.or_eq_true, Bool.and_eq_true, decide_eq_true_eq, ge_iff_le, isDigit_iff, Char.le_def,
    beq_iff_eq]
  tauto

theorem WordChar.ascii {c : Char} (h : WordChar c) : c.toNat < 0x80 := by
  have below : ∀ {d : Char}, d.toNat < 0x80 → c ≤ d → c.toNat < 0x80 := by
    intro d hd hle
    rw [Char.le_def, UInt32.le_iff_toNat_le] at hle
    exact Nat.lt_of_le_of_lt hle hd
  rcases h with ⟨-, h⟩ | ⟨-, h⟩ | ⟨-, h⟩ | rfl
  · exact below (by decide) h
  · exact below (by decide) h
  · exact below (by decide) h
  · decide

theorem not_wordChar_slash : ¬ WordChar '/' := by
  rw [← isTokenChar_iff]
  decide

/-! ## Tokens -/

/-- A token: letters, digits and underscores, at least one, and no digit in front. -/
structure IsToken (token : String) : Prop where
  ne_empty : token ≠ ""
  chars : ∀ c ∈ token.toList, WordChar c
  lead : ∀ c ∈ token.toList.head?, ¬ AsciiDigit c

theorem IsToken.toList_ne_nil {token : String} (h : IsToken token) : token.toList ≠ [] := by
  intro hnil
  exact h.ne_empty (String.toList_eq_nil_iff.1 hnil)

theorem IsToken.slash_not_mem {token : String} (h : IsToken token) : '/' ∉ token.toList := by
  intro hmem
  exact not_wordChar_slash (h.chars '/' hmem)

theorem IsToken.utf8ByteSize_eq {token : String} (h : IsToken token) :
    token.utf8ByteSize = token.length := by
  apply Text.Utf8.utf8ByteSize_of_ascii
  intro c hc
  exact (h.chars c hc).ascii

/-- A text has no defect as a token exactly if it is one. -/
theorem TokenDefect.of?_eq_none_iff {token : List Char} :
    TokenDefect.of? token = none ↔ IsToken (String.ofList token) := by
  cases token with
  | nil =>
    refine ⟨fun h => absurd h (by simp [TokenDefect.of?]), fun h => ?_⟩
    exact absurd String.ofList_nil h.ne_empty
  | cons first rest =>
    have hgrammar : IsToken (String.ofList (first :: rest)) ↔
        (∀ c ∈ first :: rest, WordChar c) ∧ ¬ AsciiDigit first := by
      constructor
      · intro h
        have hchars := h.chars
        have hlead := h.lead
        rw [String.toList_ofList] at hchars hlead
        exact ⟨hchars, hlead first rfl⟩
      · rintro ⟨hchars, hlead⟩
        refine ⟨?_, ?_, ?_⟩
        · simp
        · rwa [String.toList_ofList]
        · rw [String.toList_ofList]
          rintro c ⟨⟩
          exact hlead
    rw [hgrammar, TokenDefect.of?]
    split
    · next hdigit => simp [isDigit_iff.1 hdigit]
    · next hdigit =>
      rw [isDigit_iff] at hdigit
      simp only [Option.map_eq_none_iff, List.find?_eq_none, Bool.not_eq_true', Bool.not_eq_false,
        isTokenChar_iff, hdigit, not_false_eq_true, and_true]

/-! ## Names -/

/-- A text has no defect as a node's name exactly if it is a token that is not too long. -/
theorem nodeNameDefect?_eq_none_iff {name : String} :
    nodeNameDefect? name = none ↔ name.length ≤ maxNameLength ∧ IsToken name := by
  have htoken : TokenDefect.of? name.toList = none ↔ IsToken name := by
    rw [TokenDefect.of?_eq_none_iff, String.ofList_toList]
  rw [nodeNameDefect?]
  split
  · next hlong =>
    refine ⟨fun h => absurd h (by simp), ?_⟩
    rintro ⟨hlength, htoken⟩
    rw [htoken.utf8ByteSize_eq] at hlong
    exact absurd hlong (Nat.not_lt.2 hlength)
  · next hshort =>
    have hlength := Text.Utf8.length_le_utf8ByteSize name
    rw [Option.map_eq_none_iff, htoken]
    exact ⟨fun h => ⟨by omega, h⟩, fun h => h.2⟩

/-! ## Namespaces -/

/-- The text of tokens, each with a slash in front. -/
def slashed (tokens : List String) : String := String.join (tokens.map ("/" ++ ·))

theorem toList_slashed (tokens : List String) :
    (slashed tokens).toList = (tokens.map String.toList).flatMap ('/' :: ·) := by
  rw [slashed, String.toList_join, List.flatMap_map, List.flatMap_map]
  refine List.flatMap_congr fun token _ => ?_
  rw [String.toList_append]
  rfl

/-- A piece of a namespace has no defect exactly if it is a token. -/
theorem segmentDefect?_eq_none_iff {token : List Char} :
    segmentDefect? token = none ↔ IsToken (String.ofList token) := by
  rw [segmentDefect?]
  split
  · next hempty =>
    rw [List.isEmpty_iff] at hempty
    refine ⟨fun h => absurd h (by simp), fun h => ?_⟩
    exact absurd String.ofList_nil (hempty ▸ h.ne_empty)
  · rw [Option.map_eq_none_iff, TokenDefect.of?_eq_none_iff]

/-- The tokens of a namespace are the pieces of what follows its first slash. -/
theorem pieces_of_slashed {tokens : List String} {rest : List Char}
    (htokens : ∀ token ∈ tokens, IsToken token) (h : (slashed tokens).toList = '/' :: rest) :
    Text.pieces '/' rest = tokens.map String.toList := by
  rw [Text.pieces_eq_iff, ← h, toList_slashed]
  refine ⟨rfl, ?_⟩
  intro part hpart
  obtain ⟨token, htoken, rfl⟩ := List.mem_map.1 hpart
  exact (htokens token htoken).slash_not_mem

theorem utf8ByteSize_slashed {tokens : List String} (htokens : ∀ token ∈ tokens, IsToken token) :
    (slashed tokens).utf8ByteSize = (slashed tokens).length := by
  apply Text.Utf8.utf8ByteSize_of_ascii
  intro c hc
  rw [toList_slashed, List.mem_flatMap] at hc
  obtain ⟨part, hpart, hc⟩ := hc
  obtain ⟨token, htoken, rfl⟩ := List.mem_map.1 hpart
  rcases List.mem_cons.1 hc with rfl | hc
  · decide
  · exact ((htokens token htoken).chars c hc).ascii

/-- A namespace with tokens is no root. -/
theorem rest_ne_nil_of_slashed {tokens : List String} {rest : List Char} (hne : tokens ≠ [])
    (htokens : ∀ token ∈ tokens, IsToken token) (h : (slashed tokens).toList = '/' :: rest) :
    rest ≠ [] := by
  rintro rfl
  have hpieces := pieces_of_slashed htokens h
  obtain ⟨token, tokens, rfl⟩ := List.exists_cons_of_ne_nil hne
  rw [Text.pieces, List.map_cons, List.cons.injEq] at hpieces
  exact (htokens token List.mem_cons_self).toList_ne_nil hpieces.1.symm

/-- Tokens do not end in a slash, nor does a namespace of them. -/
theorem getLast?_ne_of_slashed {tokens : List String} {rest : List Char}
    (htokens : ∀ token ∈ tokens, IsToken token) (h : (slashed tokens).toList = '/' :: rest) :
    rest.getLast? ≠ some '/' := by
  intro hlast
  -- the slash would end one more piece, and that is empty
  obtain ⟨front, rfl⟩ := List.getLast?_eq_some_iff.1 hlast
  have hpieces := pieces_of_slashed htokens h
  rw [Text.pieces_concat] at hpieces
  have hempty : [] ∈ tokens.map String.toList := by
    rw [← hpieces]
    exact List.mem_append_right _ (List.mem_singleton_self [])
  obtain ⟨token, htoken, hnil⟩ := List.mem_map.1 hempty
  exact (htokens token htoken).toList_ne_nil hnil

/-- What passes the checks of a namespace is the root or made of tokens. -/
theorem slashed_of_namespaceDefect? {ns : String} (h : namespaceDefect? ns = none) :
    ns = "/" ∨ ns.length ≤ maxNameLength ∧ ∃ tokens : List String,
      tokens ≠ [] ∧ (∀ token ∈ tokens, IsToken token) ∧ ns = slashed tokens := by
  unfold namespaceDefect? at h
  split at h
  · next rest hrest =>
    split at h
    · next hempty =>
      left
      apply String.toList_inj.1
      rw [hrest, List.isEmpty_iff.1 hempty]
      rfl
    split at h
    · exact absurd h (by simp)
    split at h
    · exact absurd h (by simp)
    · next hshort =>
      right
      have hlength := Text.Utf8.length_le_utf8ByteSize ns
      rw [List.findSome?_eq_none_iff] at h
      refine ⟨by omega, (Text.pieces '/' rest).map String.ofList, ?_, ?_, ?_⟩
      · simpa using Text.pieces_ne_nil '/' rest
      · intro token htoken
        obtain ⟨piece, hpiece, rfl⟩ := List.mem_map.1 htoken
        exact segmentDefect?_eq_none_iff.1 (h piece hpiece)
      · apply String.toList_inj.1
        rw [toList_slashed, List.map_map, hrest, ← Text.flatMap_pieces '/' rest]
        simp [Function.comp_def]
  · exact absurd h (by simp)

theorem namespaceDefect?_slashed {tokens : List String} (hne : tokens ≠ [])
    (htokens : ∀ token ∈ tokens, IsToken token) (hlength : (slashed tokens).length ≤ maxNameLength) :
    namespaceDefect? (slashed tokens) = none := by
  obtain ⟨rest, hrest⟩ : ∃ rest, (slashed tokens).toList = '/' :: rest := by
    obtain ⟨token, tokens, rfl⟩ := List.exists_cons_of_ne_nil hne
    rw [toList_slashed, List.map_cons, List.flatMap_cons]
    exact ⟨_, rfl⟩
  have hshort : ¬ maxNameLength < (slashed tokens).utf8ByteSize := by
    rw [utf8ByteSize_slashed htokens]
    omega
  have hpieces : (Text.pieces '/' rest).findSome? segmentDefect? = none := by
    rw [List.findSome?_eq_none_iff, pieces_of_slashed htokens hrest]
    intro piece hpiece
    obtain ⟨token, htoken, rfl⟩ := List.mem_map.1 hpiece
    rw [segmentDefect?_eq_none_iff, String.ofList_toList]
    exact htokens token htoken
  unfold namespaceDefect?
  simp only [hrest, List.isEmpty_iff, rest_ne_nil_of_slashed hne htokens hrest,
    getLast?_ne_of_slashed htokens hrest, hshort, hpieces, if_false]

/-- A text has no defect as a namespace exactly if it is the root, or made of tokens and not too
    long. -/
theorem namespaceDefect?_eq_none_iff {ns : String} :
    namespaceDefect? ns = none ↔ ns = "/" ∨ ns.length ≤ maxNameLength ∧ ∃ tokens : List String,
      tokens ≠ [] ∧ (∀ token ∈ tokens, IsToken token) ∧ ns = slashed tokens := by
  refine ⟨slashed_of_namespaceDefect?, ?_⟩
  rintro (rfl | ⟨hlength, tokens, hne, htokens, rfl⟩)
  · rfl
  · exact namespaceDefect?_slashed hne htokens hlength

/-! ## The checks -/

theorem validateNodeName_eq_ok_iff {name : String} :
    validateNodeName name = .ok () ↔ nodeNameDefect? name = none := by
  rw [validateNodeName]
  cases nodeNameDefect? name <;> simp

theorem validateNamespace_eq_ok_iff {ns : String} :
    validateNamespace ns = .ok () ↔ namespaceDefect? ns = none := by
  rw [validateNamespace]
  cases namespaceDefect? ns <;> simp

/-- **What can name a node, and what can be a namespace.** A text can name a node exactly if it is a
token of at most 255 characters. It can be a namespace exactly if it is the root, or has at most 255
characters and is made of one or more tokens, each with a slash in front. -/
theorem validate_eq_ok_iff :
    (∀ name : String, validateNodeName name = .ok () ↔
      1 ≤ name.length ∧ name.length ≤ 255 ∧ (∀ c ∈ name.toList, WordChar c) ∧
        ∀ c ∈ name.toList.head?, ¬ AsciiDigit c) ∧
    (∀ ns : String, validateNamespace ns = .ok () ↔
      ns = "/" ∨ ns.length ≤ 255 ∧ ∃ tokens : List String,
        tokens ≠ [] ∧ (∀ token ∈ tokens, IsToken token) ∧ ns = slashed tokens) := by
  constructor
  · intro name
    rw [validateNodeName_eq_ok_iff, nodeNameDefect?_eq_none_iff]
    constructor
    · rintro ⟨hlength, htoken⟩
      have hpos : 0 < name.length := by
        rw [← String.length_toList]
        exact List.length_pos_of_ne_nil htoken.toList_ne_nil
      exact ⟨hpos, hlength, htoken.chars, htoken.lead⟩
    · rintro ⟨hpos, hlength, hchars, hlead⟩
      refine ⟨hlength, ?_, hchars, hlead⟩
      rintro rfl
      exact absurd hpos (by decide)
  · intro ns
    rw [validateNamespace_eq_ok_iff, namespaceDefect?_eq_none_iff]
    rfl

end RobotClient
