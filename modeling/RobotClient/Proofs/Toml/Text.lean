import Mathlib
import RobotClient.Proofs.Text.Split
import RobotClient.Toml.Printer
import RobotClient.Toml.Text

set_option autoImplicit false

/-! # Written TOML texts and keys read back

A spelling fits a text when its quotes and its escapes can hold the text. The chosen spelling always
fits, and a text in a spelling that fits is read back, whatever follows but a quote. On several
lines the quotes in a text are few enough to be told from those around it. -/

namespace RobotClient.Toml

open Json (consText hexValue? hexFour?)

/-! ## Characters -/

theorem isPlain_of_not_isControl {c : Char} (hcontrol : isControl c = false) (hfeed : c ≠ '\n') :
    isPlain c := by
  simp only [isControl, Bool.or_eq_false_iff, Bool.and_eq_false_iff, decide_eq_false_iff_not,
    bne_eq_false_iff_eq, beq_eq_false_iff_ne] at hcontrol
  obtain ⟨(hplain | rfl) | rfl, hdelete⟩ := hcontrol
  · simp only [isPlain, Bool.or_eq_true, Bool.and_eq_true, decide_eq_true_eq, bne_iff_ne]
    exact .inr ⟨by omega, hdelete⟩
  · decide
  · exact absurd rfl hfeed

theorem ne_break_of_isPlain {c : Char} (h : isPlain c) : c ≠ '\n' ∧ c ≠ '\r' := by
  constructor
  · rintro rfl
    revert h
    decide
  · rintro rfl
    revert h
    decide

theorem hexValue?_toUpper_digitChar {k : Nat} (h : k < 16) :
    hexValue? k.digitChar.toUpper = some k := by
  have hall : ∀ k < 16, hexValue? (Nat.digitChar k).toUpper = some k := by decide
  exact hall k h

theorem isControl_lt {c : Char} (h : isControl c) : c.toNat < 0x80 := by
  simp only [isControl, Bool.or_eq_true, Bool.and_eq_true, decide_eq_true_eq, beq_iff_eq] at h
  omega

theorem escapeControl_eq {c : Char} (h : isControl c) :
    ∃ a b, escapeControl c = ['\\', 'u', '0', '0', a, b]
      ∧ (hexFour? '0' '0' a b).bind charOfNumber? = some c := by
  have hlt := isControl_lt h
  have hzero : hexValue? '0' = some 0 := by decide
  refine ⟨(c.toNat / 16).digitChar.toUpper, (c.toNat % 16).digitChar.toUpper, ?_, ?_⟩
  · rw [escapeControl, Nat.toDigits_of_lt_base (by omega), Nat.toDigits_of_lt_base (by omega)]
    rfl
  · have hnumber : ((0 * 16 + 0) * 16 + c.toNat / 16) * 16 + c.toNat % 16 = c.toNat := by omega
    simp only [hexFour?, hzero, hexValue?_toUpper_digitChar (show c.toNat / 16 < 16 by omega),
      hexValue?_toUpper_digitChar (show c.toNat % 16 < 16 by omega), Option.bind_eq_bind,
      Option.bind_some, Option.pure_def, hnumber]
    rw [charOfNumber?, if_pos (by omega), Char.ofNat_toNat]

/-- A letter that stands for a character behind a backslash. -/
structure Names (letter c : Char) : Prop where
  unescape? : unescape? letter = some c
  ne_u : letter ≠ 'u' ∧ letter ≠ 'U'
  not_isSpace : isSpace letter = false
  ne_break : letter ≠ '\n' ∧ letter ≠ '\r'

/-- How a character is written in a spelling with escapes. -/
inductive Escape (long : Bool) (c : Char) : List Char → Prop
  | letter {l : Char} (names : Names l c) : Escape long c ['\\', l]
  | number {a b : Char} (value : (hexFour? '0' '0' a b).bind charOfNumber? = some c) :
      Escape long c ['\\', 'u', '0', '0', a, b]
  | feed (several : long = true) (eq : c = '\n') : Escape long c ['\n']
  | plain (plain : isPlain c) (backslash : c ≠ '\\') (quote : c ≠ '"') : Escape long c [c]

theorem escape_quote (long : Bool) : Escape long '"' ['\\', '"'] :=
  .letter ⟨rfl, by decide, by decide, by decide⟩

theorem escape_escapeChar (long : Bool) {c : Char} (hc : c ≠ '"') :
    Escape long c (escapeChar long c) := by
  unfold escapeChar
  split_ifs with hbackslash htab hfeed hlong hreturn hback hform hcontrol
  · exact .letter ⟨by rw [hbackslash]; rfl, by decide, by decide, by decide⟩
  · exact .letter ⟨by rw [htab]; rfl, by decide, by decide, by decide⟩
  · exact .feed hlong hfeed
  · exact .letter ⟨by rw [hfeed]; rfl, by decide, by decide, by decide⟩
  · exact .letter ⟨by rw [hreturn]; rfl, by decide, by decide, by decide⟩
  · exact .letter ⟨by rw [hback]; rfl, by decide, by decide, by decide⟩
  · exact .letter ⟨by rw [hform]; rfl, by decide, by decide, by decide⟩
  · obtain ⟨a, b, hdigits, hvalue⟩ := escapeControl_eq hcontrol
    rw [hdigits]
    exact .number hvalue
  · have hplain := isPlain_of_not_isControl (by simpa using hcontrol) hfeed
    exact .plain hplain hbackslash hc

/-! ## Texts on one line -/

theorem readBasic_escape {c : Char} {cs : List Char} (h : Escape false c cs) (rest : List Char) :
    readBasic (cs ++ rest) = consText c (readBasic rest) := by
  cases h with
  | @letter l names =>
    rw [List.cons_append, List.cons_append, List.nil_append, readBasic, names.unescape?]
    · rfl
    · intro _ _ _ _ _ hu
      exact absurd hu names.ne_u.1
    · intro _ _ _ _ _ _ _ _ _ hu
      exact absurd hu names.ne_u.2
  | @number a b value =>
    show readBasic ('\\' :: 'u' :: '0' :: '0' :: a :: b :: rest) = _
    obtain ⟨n, hfour, hchar⟩ := Option.bind_eq_some_iff.1 value
    simp [readBasic, hfour, hchar]
  | feed several eq => cases several
  | plain plain backslash quote =>
    rw [List.singleton_append, readBasic]
    · rw [if_pos ⟨plain, backslash⟩]
    all_goals simp_all

/-- A text in escapes is read back. -/
theorem readBasic_escaped (cs rest : List Char) (run : Nat) :
    readBasic (escape false run cs ++ '"' :: rest) = some (cs, rest) := by
  induction cs generalizing run with
  | nil => rfl
  | cons c cs ih =>
    rw [escape]
    split
    · next hquote =>
      have hread := readBasic_escape (escape_quote false) (escape false 0 cs ++ '"' :: rest)
      rw [ih] at hread
      rw [hquote]
      exact hread
    · next hquote =>
      rw [List.append_assoc, readBasic_escape (escape_escapeChar false hquote), ih]
      rfl

/-- A text without control characters and single quotes is read back as it stands. -/
theorem readLiteral_append {cs : List Char} (h : ∀ c ∈ cs, isPlain c ∧ c ≠ '\'')
    (rest : List Char) : readLiteral (cs ++ '\'' :: rest) = some (cs, rest) := by
  induction cs with
  | nil => rfl
  | cons c cs ih =>
    obtain ⟨hplain, hquote⟩ := h c List.mem_cons_self
    rw [List.cons_append, readLiteral, if_neg hquote, if_pos hplain,
      ih fun d hd => h d (List.mem_cons_of_mem _ hd)]
    rfl

/-! ## Texts on several lines -/

/-- A solid character is not the blank end of a line. -/
theorem lineEndsHere_solid {c : Char} (hspace : isSpace c = false)
    (hbreak : c ≠ '\n' ∧ c ≠ '\r') (rest : List Char) : lineEndsHere (c :: rest) = false := by
  have hskip : skipSpaces (c :: rest) = c :: rest := by simp [skipSpaces, hspace]
  rw [lineEndsHere, hskip, lineBreak?]
  · rfl
  · intro _ heq
    exact hbreak.1 (List.cons.inj heq).1
  · intro _ heq
    exact hbreak.2 (List.cons.inj heq).1

theorem readLongBasic_escape {c : Char} {cs : List Char} (h : Escape true c cs)
    (rest : List Char) :
    readLongBasic false (cs ++ rest) = consText c (readLongBasic false rest) := by
  cases h with
  | @letter l names =>
    have hline : lineEndsHere (l :: rest) = false := lineEndsHere_solid names.not_isSpace
      names.ne_break rest
    rw [List.cons_append, List.cons_append, List.nil_append, readLongBasic, hline, names.unescape?]
    · rfl
    · intro _ _ _ _ _ hu
      exact absurd hu names.ne_u.1
    · intro _ _ _ _ _ _ _ _ _ hu
      exact absurd hu names.ne_u.2
  | @number a b value =>
    show readLongBasic false ('\\' :: 'u' :: '0' :: '0' :: a :: b :: rest) = _
    obtain ⟨n, hfour, hchar⟩ := Option.bind_eq_some_iff.1 value
    simp [readLongBasic, hfour, hchar]
  | feed several eq =>
    rw [eq]
    rfl
  | plain plain backslash quote =>
    obtain ⟨hfeed, hreturn⟩ := ne_break_of_isPlain plain
    rw [List.singleton_append, readLongBasic]
    · rw [if_neg (by simp), if_pos ⟨plain, backslash⟩]
    all_goals simp_all

/-- What the two readers of texts on several lines do with quotes: three of them end the text, and
    fewer belong to it. -/
structure EndsAtThree (quote : Char) (read : List Char → Option (List Char × List Char)) :
    Prop where
  inside {cs : List Char} : (∀ rest, cs ≠ quote :: quote :: rest) →
    read (quote :: cs) = consText quote (read cs)
  ends (rest : List Char) : read (quote :: quote :: quote :: rest) = some (extraQuotes quote rest)

theorem endsAtThree_readLongBasic : EndsAtThree '"' (readLongBasic false) where
  inside := by
    intro cs hcs
    rw [readLongBasic]
    · rw [if_neg (by simp), if_pos (by decide)]
    all_goals simp_all
  ends := fun rest => by rw [readLongBasic]

theorem endsAtThree_readLongLiteral : EndsAtThree '\'' readLongLiteral where
  inside := by
    intro cs hcs
    rw [readLongLiteral]
    · rw [if_pos (by decide)]
    all_goals simp_all
  ends := fun rest => by rw [readLongLiteral]

section EndsAtThree

variable {quote : Char} {read : List Char → Option (List Char × List Char)}

/-- Quotes too few to end a text belong to it. -/
theorem EndsAtThree.replicate_append (h : EndsAtThree quote read) {run : Nat} (hrun : run ≤ 2)
    {c : Char} (hc : c ≠ quote) {cs text rest : List Char}
    (hread : read (c :: cs) = some (text, rest)) :
    read (List.replicate run quote ++ c :: cs) = some (List.replicate run quote ++ text, rest) := by
  have hone : read (quote :: c :: cs) = some (quote :: text, rest) := by
    rw [h.inside (by simp [hc]), hread]
    rfl
  have htwo : read (quote :: quote :: c :: cs) = some (quote :: quote :: text, rest) := by
    rw [h.inside (by simp [hc]), hone]
    rfl
  interval_cases run
  · exact hread
  · exact hone
  · exact htwo

/-- Quotes right before the three that end a text belong to it. -/
theorem EndsAtThree.replicate_end (h : EndsAtThree quote read) {run : Nat} (hrun : run ≤ 2)
    {rest : List Char} (hrest : rest.head? ≠ some quote) :
    read (List.replicate run quote ++ quote :: quote :: quote :: rest)
      = some (List.replicate run quote, rest) := by
  have hextra : extraQuotes quote (List.replicate run quote ++ rest)
      = (List.replicate run quote, rest) := by
    interval_cases run <;> rcases rest with _ | ⟨a, _ | ⟨b, rest⟩⟩ <;>
      simp_all [extraQuotes, List.replicate]
  have hswap : List.replicate run quote ++ quote :: quote :: quote :: rest
      = quote :: quote :: quote :: (List.replicate run quote ++ rest) := by
    interval_cases run <;> rfl
  rw [hswap, h.ends, hextra]

end EndsAtThree

/-- What is written for a character does not start with a quote. -/
theorem Escape.exists_cons {long : Bool} {c : Char} {cs : List Char}
    (h : Escape long c cs) : ∃ d ds, cs = d :: ds ∧ d ≠ '"' := by
  cases h with
  | letter => exact ⟨_, _, rfl, by decide⟩
  | number => exact ⟨_, _, rfl, by decide⟩
  | feed => exact ⟨_, _, rfl, by decide⟩
  | plain plain backslash quote => exact ⟨c, [], rfl, quote⟩

/-- A character behind a few quotes is read back with them. -/
theorem readLongBasic_step {run : Nat} (hrun : run ≤ 2) {c : Char} {cs : List Char}
    (h : Escape true c cs) {input text rest : List Char}
    (hread : readLongBasic false input = some (text, rest)) :
    readLongBasic false (List.replicate run '"' ++ (cs ++ input))
      = some (List.replicate run '"' ++ c :: text, rest) := by
  obtain ⟨d, ds, hcons, hd⟩ := h.exists_cons
  have hmore := readLongBasic_escape h input
  rw [hread, hcons] at hmore
  rw [hcons]
  exact endsAtThree_readLongBasic.replicate_append hrun hd hmore

/-- A text in escapes is read back, the quotes before it being part of it. -/
theorem readLongBasic_escaped (cs : List Char) {rest : List Char} (hrest : rest.head? ≠ some '"')
    {run : Nat} (hrun : run ≤ 2) :
    readLongBasic false
        (List.replicate run '"' ++ (escape true run cs ++ '"' :: '"' :: '"' :: rest))
      = some (List.replicate run '"' ++ cs, rest) := by
  induction cs generalizing run with
  | nil =>
    rw [escape, List.nil_append, List.append_nil]
    exact endsAtThree_readLongBasic.replicate_end hrun hrest
  | cons c cs ih =>
    rw [escape]
    split_ifs with hquote hfew
    · -- one more quote that stands for itself
      have hlt : run < 2 := by simpa using hfew
      have hmore := ih (show run + 1 ≤ 2 by omega)
      rw [List.replicate_succ', List.append_assoc, List.append_assoc] at hmore
      rw [hquote]
      exact hmore
    · have hmore := readLongBasic_step hrun (escape_quote true) (ih (Nat.zero_le 2))
      rw [hquote]
      exact hmore
    · rw [List.append_assoc]
      exact readLongBasic_step hrun (escape_escapeChar true hquote) (ih (Nat.zero_le 2))

/-- A run is no shorter than the quotes it starts with. -/
theorem le_longestRun (mark : Char) (current : Nat) (cs : List Char) :
    current ≤ longestRun mark current cs := by
  induction cs generalizing current with
  | nil => exact Nat.le_refl _
  | cons c cs ih =>
    rw [longestRun]
    split
    · exact Nat.le_trans (Nat.le_succ current) (ih (current + 1))
    · exact Nat.le_max_left _ _

theorem not_mem_of_longestRun {mark : Char} {cs : List Char} (h : longestRun mark 0 cs = 0) :
    mark ∉ cs := by
  induction cs with
  | nil => simp
  | cons c cs ih =>
    rw [longestRun] at h
    split at h
    · have := le_longestRun mark (0 + 1) cs
      omega
    · next hne =>
      rw [List.mem_cons, not_or]
      exact ⟨Ne.symm hne, ih (by omega)⟩

theorem readLongLiteral_cons {c : Char} (hquote : c ≠ '\'') (hplain : isPlain c)
    (rest : List Char) : readLongLiteral (c :: rest) = consText c (readLongLiteral rest) := by
  obtain ⟨hfeed, hreturn⟩ := ne_break_of_isPlain hplain
  rw [readLongLiteral]
  · rw [if_pos hplain]
  all_goals simp_all

/-- A text with runs of at most two quotes is read back as it stands, the quotes before it being
    part of it. -/
theorem readLongLiteral_append {cs : List Char} (hplain : ∀ c ∈ cs, isPlain c ∨ c = '\n')
    {rest : List Char} (hrest : rest.head? ≠ some '\'') {run : Nat}
    (hrun : longestRun '\'' run cs ≤ 2) :
    readLongLiteral (List.replicate run '\'' ++ (cs ++ '\'' :: '\'' :: '\'' :: rest))
      = some (List.replicate run '\'' ++ cs, rest) := by
  have hfew : run ≤ 2 := Nat.le_trans (le_longestRun '\'' run cs) hrun
  induction cs generalizing run with
  | nil =>
    rw [List.nil_append, List.append_nil]
    exact endsAtThree_readLongLiteral.replicate_end hfew hrest
  | cons c cs ih =>
    have hmore := fun d hd => hplain d (List.mem_cons_of_mem c hd)
    rw [longestRun] at hrun
    split at hrun
    · next hquote =>
      have hread := ih hmore hrun (Nat.le_trans (le_longestRun _ _ _) hrun)
      rw [List.replicate_succ', List.append_assoc, List.append_assoc] at hread
      rw [hquote]
      exact hread
    · next hquote =>
      have hread := ih hmore (Nat.le_trans (Nat.le_max_right _ _) hrun) (Nat.zero_le 2)
      have hstep : ∀ input,
          readLongLiteral (c :: input) = consText c (readLongLiteral input) := by
        intro input
        obtain hc | rfl := hplain c List.mem_cons_self
        · exact readLongLiteral_cons hquote hc input
        · rfl
      have hcons := (hstep _).trans (congrArg (consText c) hread)
      exact endsAtThree_readLongLiteral.replicate_append hfew hquote hcons

/-! ## Spellings -/

/-- Whether a spelling can hold a text. -/
def Spelling.Fits : Spelling → List Char → Prop
  | .basic, _ | .longBasic, _ => True
  | .literal, cs => ∀ c ∈ cs, isPlain c ∧ c ≠ '\''
  | .longLiteral, cs => (∀ c ∈ cs, isPlain c ∨ c = '\n') ∧ longestRun '\'' 0 cs ≤ 2

theorem plain_or_feed {cs : List Char} (h : cs.any isControl = false) :
    ∀ c ∈ cs, isPlain c ∨ c = '\n' := by
  intro c hc
  have hcontrol : isControl c = false := by
    simpa using List.any_eq_false.1 h c hc
  by_cases hfeed : c = '\n'
  · exact .inr hfeed
  · exact .inl (isPlain_of_not_isControl hcontrol hfeed)

/-- The spelling of a value fits it. -/
theorem Spelling.fits_ofValue (cs : List Char) : (ofValue cs).Fits cs := by
  unfold ofValue
  dsimp only
  split_ifs with hbasic hliteral hlongBasic hlongLiteral hfeed
  · trivial
  · simp only [Bool.and_eq_true, Bool.not_eq_true', beq_iff_eq] at hliteral
    obtain ⟨⟨hcontrol, hsingles⟩, hfeed⟩ := hliteral
    intro c hc
    refine ⟨(plain_or_feed hcontrol c hc).resolve_right ?_, ?_⟩
    · rintro rfl
      simp [hc] at hfeed
    · rintro rfl
      exact not_mem_of_longestRun hsingles hc
  · trivial
  · simp only [Bool.and_eq_true, Bool.not_eq_true', decide_eq_true_eq] at hlongLiteral
    exact ⟨plain_or_feed hlongLiteral.1, hlongLiteral.2⟩
  · trivial
  · trivial

/-- The spelling of a key fits it, and stands on one line. -/
theorem Spelling.fits_ofKey (cs : List Char) :
    (ofKey cs).Fits cs ∧ (ofKey cs = .basic ∨ ofKey cs = .literal) := by
  unfold ofKey
  dsimp only
  split_ifs with hbasic hliteral
  · exact ⟨trivial, .inl rfl⟩
  · simp only [Bool.and_eq_true, Bool.not_eq_true'] at hliteral
    obtain ⟨hcontrol, hsingle⟩ := hliteral
    refine ⟨fun c hc => ?_, .inr rfl⟩
    have hc' := List.any_eq_false.1 hcontrol c hc
    simp only [Bool.or_eq_true, beq_iff_eq, not_or, Bool.not_eq_true] at hc'
    refine ⟨isPlain_of_not_isControl hc'.1 hc'.2, ?_⟩
    rintro rfl
    simp [hc] at hsingle
  · exact ⟨trivial, .inl rfl⟩

/-! ## Texts -/

theorem readText_basic {cs : List Char} (h : ∀ rest, cs ≠ '"' :: '"' :: rest) :
    readText ('"' :: cs) = readBasic cs := by
  rw [readText]
  simp_all

theorem readText_literal {cs : List Char} (h : ∀ rest, cs ≠ '\'' :: '\'' :: rest) :
    readText ('\'' :: cs) = readLiteral cs := by
  rw [readText]
  simp_all

/-- What a text in escapes starts with: a quote of its own only on several lines, and a line break
    only where the text has one. -/
theorem exists_escape_cons (long : Bool) (c : Char) (cs : List Char) :
    ∃ d ds, escape long 0 (c :: cs) = d :: ds ∧ (long = false → d ≠ '"')
      ∧ (c ≠ '\n' → d ≠ '\n' ∧ d ≠ '\r') := by
  rw [escape]
  split_ifs with hquote hlong
  · refine ⟨'"', _, rfl, ?_, fun _ => by decide⟩
    intro hshort
    simp [hshort] at hlong
  · exact ⟨'\\', _, rfl, fun _ => by decide, fun _ => by decide⟩
  · generalize hwritten : escapeChar long c = written
    have hescape := escape_escapeChar long hquote
    rw [hwritten] at hescape
    cases hescape with
    | letter => exact ⟨'\\', _, rfl, fun _ => by decide, fun _ => by decide⟩
    | number => exact ⟨'\\', _, rfl, fun _ => by decide, fun _ => by decide⟩
    | feed several eq => exact ⟨'\n', _, rfl, fun _ => by decide, fun hc => absurd eq hc⟩
    | plain plain => exact ⟨c, _, rfl, fun _ => hquote, fun _ => ne_break_of_isPlain plain⟩

/-- The line break that is written before a text of several lines is dropped, and nothing else. -/
theorem dropLineBreak_opening (cs : List Char) {input : List Char}
    (h : '\n' ∉ cs → ∀ c ∈ input.head?, c ≠ '\n' ∧ c ≠ '\r') :
    dropLineBreak ((if cs.contains '\n' then ['\n'] else []) ++ input) = input := by
  split
  · rfl
  · next hfeed =>
    have hhead := h (by simpa using hfeed)
    have hnone : lineBreak? input = none := by
      cases input with
      | nil => rfl
      | cons c rest =>
        obtain ⟨hc, hc'⟩ := hhead c rfl
        rw [lineBreak?] <;> simp_all
    rw [List.nil_append, dropLineBreak, hnone]
    rfl

/-- **A text in a spelling that fits it is read back**, unless a quote follows. -/
theorem readText_spell {spelling : Spelling} {cs : List Char} (h : spelling.Fits cs)
    {rest : List Char} (hrest : rest.head? ≠ some '"' ∧ rest.head? ≠ some '\'') :
    readText (spell spelling cs ++ rest) = some (cs, rest) := by
  cases spelling with
  | basic =>
    have htext : spell .basic cs ++ rest = '"' :: (escape false 0 cs ++ '"' :: rest) := by
      simp [spell, Spelling.isLong, Spelling.hasEscapes, Spelling.quotes]
    rw [htext, readText_basic, readBasic_escaped cs rest 0]
    cases cs with
    | nil =>
      rintro more heq
      simp_all [escape]
    | cons c cs =>
      obtain ⟨d, ds, hcons, hd, -⟩ := exists_escape_cons false c cs
      simp_all
  | literal =>
    have htext : spell .literal cs ++ rest = '\'' :: (cs ++ '\'' :: rest) := by
      simp [spell, Spelling.isLong, Spelling.hasEscapes, Spelling.quotes]
    rw [htext, readText_literal, readLiteral_append h rest]
    cases cs with
    | nil =>
      intro more heq
      simp_all
    | cons c cs =>
      have hc := (h c List.mem_cons_self).2
      simp_all
  | longBasic =>
    have htext : spell .longBasic cs ++ rest = '"' :: '"' :: '"' ::
        ((if cs.contains '\n' then ['\n'] else [])
          ++ (escape true 0 cs ++ '"' :: '"' :: '"' :: rest)) := by
      simp [spell, Spelling.isLong, Spelling.hasEscapes, Spelling.quotes]
    rw [htext, readText, dropLineBreak_opening cs]
    · exact readLongBasic_escaped cs hrest.1 (Nat.zero_le 2)
    · intro hfeed
      cases cs with
      | nil => simp [escape]
      | cons c cs =>
        obtain ⟨d, ds, hcons, -, hd⟩ := exists_escape_cons true c cs
        rw [hcons]
        rintro e ⟨⟩
        exact hd fun hc => hfeed (by simp [hc])
  | longLiteral =>
    have htext : spell .longLiteral cs ++ rest = '\'' :: '\'' :: '\'' ::
        ((if cs.contains '\n' then ['\n'] else [])
          ++ (cs ++ '\'' :: '\'' :: '\'' :: rest)) := by
      simp [spell, Spelling.isLong, Spelling.hasEscapes, Spelling.quotes]
    rw [htext, readText, dropLineBreak_opening cs]
    · exact readLongLiteral_append h.1 hrest.2 h.2
    · intro hfeed
      cases cs with
      | nil => simp
      | cons c cs =>
        rintro e ⟨⟩
        refine ne_break_of_isPlain ((h.1 c List.mem_cons_self).resolve_right ?_)
        rintro rfl
        exact hfeed List.mem_cons_self

/-- **A written text is read back**, unless a quote follows. -/
theorem readText_writeText (s : String) {rest : List Char}
    (hrest : rest.head? ≠ some '"' ∧ rest.head? ≠ some '\'') :
    readText ((writeText s).toList ++ rest) = some (s.toList, rest) := by
  rw [writeText, String.toList_ofList]
  exact readText_spell (Spelling.fits_ofValue s.toList) hrest

/-! ## Keys -/

/-- **A written key is read back**, unless a character follows that a bare key could hold. -/
theorem readSimpleKey_writeKey (s : String) {rest : List Char}
    (hrest : ∀ c ∈ rest.head?, ¬ isKeyChar c) :
    readSimpleKey ((writeKey s).toList ++ rest) = some (s, rest) := by
  rw [writeKey]
  split
  · next hbare =>
    simp only [Bool.and_eq_true, decide_eq_true_eq, List.all_eq_true] at hbare
    obtain ⟨hne, hbare⟩ := hbare
    have hspan : (s.toList ++ rest).span isKeyChar = (s.toList, rest) :=
      Text.span_append hbare hrest
    obtain ⟨c, cs, hcons⟩ := List.exists_cons_of_ne_nil (String.toList_eq_nil_iff.not.2 hne)
    have hquote : c ≠ '"' ∧ c ≠ '\'' := by
      have hc := hbare c (by simp [hcons])
      constructor
      · rintro rfl
        revert hc
        decide
      · rintro rfl
        revert hc
        decide
    rw [readSimpleKey]
    · have hkey : s.toList.isEmpty = false := by rw [hcons]; rfl
      simp only [hspan, hkey, String.ofList_toList, Bool.false_eq_true, if_false]
    all_goals simp_all
  · obtain ⟨hfits, hbasic | hliteral⟩ := Spelling.fits_ofKey s.toList
    · have hread := readBasic_escaped s.toList rest 0
      rw [hbasic]
      simp [spell, Spelling.isLong, Spelling.hasEscapes, Spelling.quotes, readSimpleKey, hread]
    · rw [hliteral] at hfits ⊢
      have hread := readLiteral_append hfits rest
      simp [spell, Spelling.isLong, Spelling.hasEscapes, Spelling.quotes, readSimpleKey, hread]

end RobotClient.Toml
