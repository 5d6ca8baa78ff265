import Mathlib
import RobotClient.Json.Printer
import RobotClient.Json.Reader
import RobotClient.Proofs.Number.Decimal
import RobotClient.Proofs.Text.Split

set_option autoImplicit false

/-! # Printed JSON reads back

Every value that a document can hold is read back from its print: each character from its escape,
each number from its digits, and a list or an object item by item. Real numbers are left out, for
they are printed in a shorter form than they are kept. -/

namespace RobotClient.Json

/-! ## Texts -/

theorem hexValue?_digitChar {k : Nat} (h : k < 16) : hexValue? k.digitChar = some k := by
  have hall : ∀ k < 16, hexValue? (Nat.digitChar k) = some k := by decide
  exact hall k h

/-- Two digits behind two zeros give the number of a control character. -/
theorem hexFour?_of_digits {a b : Char} {n : Nat} (ha : hexValue? a = some (n / 16))
    (hb : hexValue? b = some (n % 16)) : hexFour? '0' '0' a b = some n := by
  have hzero : hexValue? '0' = some 0 := by decide
  simp only [hexFour?, hzero, ha, hb, Option.bind_eq_bind, Option.bind_some, Option.pure_def,
    Option.some.injEq]
  omega

theorem escapeControl_eq {c : Char} (h : c.toNat < 0x20) :
    ∃ a b, escapeControl c = ['\\', 'u', '0', '0', a, b]
      ∧ hexFour? '0' '0' a b = some c.toNat := by
  refine ⟨(c.toNat / 16).digitChar, (c.toNat % 16).digitChar, ?_,
    hexFour?_of_digits (hexValue?_digitChar (by omega)) (hexValue?_digitChar (by omega))⟩
  rw [escapeControl, Nat.toDigits_of_lt_base (by omega), Nat.toDigits_of_lt_base (by omega)]
  rfl

/-- A character is written by a letter, by its number, or as it stands. -/
theorem escapeChar_cases (c : Char) :
    (∃ letter, escapeChar c = ['\\', letter] ∧ letter ≠ 'u' ∧ unescape? letter = some c)
      ∨ (c.toNat < 0x20 ∧ escapeChar c = escapeControl c)
      ∨ (0x20 ≤ c.toNat ∧ c ≠ '"' ∧ c ≠ '\\' ∧ escapeChar c = [c]) := by
  unfold escapeChar
  split_ifs with hquote hbackslash hfeed hreturn htab hback hform hcontrol
  · exact .inl ⟨'"', rfl, by decide, by rw [hquote]; rfl⟩
  · exact .inl ⟨'\\', rfl, by decide, by rw [hbackslash]; rfl⟩
  · exact .inl ⟨'n', rfl, by decide, hfeed ▸ rfl⟩
  · exact .inl ⟨'r', rfl, by decide, hreturn ▸ rfl⟩
  · exact .inl ⟨'t', rfl, by decide, htab ▸ rfl⟩
  · exact .inl ⟨'b', rfl, by decide, hback ▸ rfl⟩
  · exact .inl ⟨'f', rfl, by decide, hform ▸ rfl⟩
  · exact .inr (.inl ⟨hcontrol, rfl⟩)
  · exact .inr (.inr ⟨by omega, hquote, hbackslash, rfl⟩)

/-- A character is read back from what is written for it. -/
theorem readText_escapeChar (c : Char) (rest : List Char) :
    readText (escapeChar c ++ rest) = consText c (readText rest) := by
  obtain ⟨letter, hescape, hletter, hback⟩ | ⟨hcontrol, hescape⟩
    | ⟨hplain, hquote, hbackslash, hescape⟩ := escapeChar_cases c
  · rw [hescape, List.cons_append, List.cons_append, List.nil_append, readText, hback]
    intro _ _ _ _ _ hu
    exact absurd hu hletter
  · obtain ⟨a, b, hdigits, hfour⟩ := escapeControl_eq hcontrol
    have hlow : isLowSurrogate c.toNat = false := by
      simp only [isLowSurrogate, Bool.and_eq_false_iff, decide_eq_false_iff_not]
      omega
    have hhigh : isHighSurrogate c.toNat = false := by
      simp only [isHighSurrogate, Bool.and_eq_false_iff, decide_eq_false_iff_not]
      omega
    rw [hescape, hdigits]
    simp [readText, hfour, hlow, hhigh, Char.ofNat_toNat]
  · rw [hescape, List.singleton_append, readText]
    · rw [if_neg (by simp only [not_or]; exact ⟨by omega, hbackslash⟩)]
    all_goals simp_all

theorem readText_quote (cs rest : List Char) :
    readText (cs.flatMap escapeChar ++ '"' :: rest) = some (cs, rest) := by
  induction cs with
  | nil => rfl
  | cons c cs ih =>
    rw [List.flatMap_cons, List.append_assoc, readText_escapeChar, ih]
    rfl

/-! ## Numbers -/

/-- The input goes on with nothing that could belong to a number. -/
def Stops (rest : List Char) : Prop :=
  ∀ c ∈ rest.head?, ¬ c.isDigit ∧ c ≠ '.' ∧ c ≠ 'e' ∧ c ≠ 'E'

theorem readWhole_numeral {digits : List Char} {n : Nat} (h : Number.Numeral digits n)
    {rest : List Char} (hrest : Stops rest) : readWhole (digits ++ rest) = some (digits, rest) := by
  obtain hzero | ⟨c, more, hdigits, hc⟩ := h.lead
  · rw [hzero]
    rfl
  · have hspan : (digits ++ rest).span Char.isDigit = (digits, rest) :=
      Text.span_append h.isDigit fun d hd => (hrest d hd).1
    rw [hdigits] at hspan ⊢
    rw [List.cons_append] at hspan ⊢
    rw [readWhole]
    · rw [Number.Binary64.spanDigits, hspan]
      rfl
    · intro _ heq
      exact hc (List.cons.inj heq).1

theorem readFraction_of_stops {rest : List Char} (h : Stops rest) :
    readFraction rest = some (none, rest) := by
  cases rest with
  | nil => rfl
  | cons c rest =>
    rw [readFraction]
    intro _ heq
    exact (h c rfl).2.1 (List.cons.inj heq).1

theorem readPower_of_stops {rest : List Char} (h : Stops rest) :
    readPower rest = some (none, rest) := by
  cases rest with
  | nil => rfl
  | cons c rest =>
    obtain ⟨-, -, he, hE⟩ := h c rfl
    simp [readPower, he, hE]

/-- The parts of a whole number in range give it back. -/
theorem ofParts?_numeral {digits : List Char} {n : Int} (h : Number.Numeral digits n.natAbs)
    (hlo : Number.minSigned ≤ n) (hhi : n ≤ Number.maxUnsigned) :
    ofParts? (decide (n < 0)) digits none none = some (.integer n) := by
  have hvalue : (if decide (n < 0) then -((Number.foldDigits 0 digits : Nat) : Int)
      else (Number.foldDigits 0 digits : Nat)) = n := by
    rw [h.value]
    split
    · next hneg => simp only [decide_eq_true_eq] at hneg; omega
    · next hneg => simp only [decide_eq_true_eq] at hneg; omega
  have hzero : (decide (n < 0) && n == 0) = false := by
    simp only [Bool.and_eq_false_iff, decide_eq_false_iff_not, beq_eq_false_iff_ne]
    omega
  simp only [ofParts?, hvalue, hzero, hlo, hhi, Option.isNone_none, Bool.not_false, decide_true,
    Bool.and_self, if_true]

theorem readNumber_numeral {digits : List Char} {n : Int} (h : Number.Numeral digits n.natAbs)
    (hlo : Number.minSigned ≤ n) (hhi : n ≤ Number.maxUnsigned) {rest : List Char}
    (hrest : Stops rest) :
    readNumber ((if n < 0 then ['-'] else []) ++ digits ++ rest) = some (.integer n, rest) := by
  have hwhole := readWhole_numeral h hrest
  have hparts := ofParts?_numeral h hlo hhi
  by_cases hneg : n < 0
  · simp only [hneg, decide_true] at hparts
    simp [readNumber, hneg, hwhole, hparts, readFraction_of_stops hrest, readPower_of_stops hrest]
  · simp only [hneg, decide_false] at hparts
    obtain ⟨c, more, hdigits⟩ := List.exists_cons_of_ne_nil h.ne_nil
    have hc : c ≠ '-' := by
      rintro rfl
      have := h.isDigit '-' (by simp [hdigits])
      revert this
      decide
    rw [if_neg hneg, List.nil_append, hdigits, List.cons_append]
    rw [hdigits] at hwhole hparts
    rw [readNumber]
    · simp only [List.cons_append] at hwhole
      simp [hwhole, hparts, readFraction_of_stops hrest, readPower_of_stops hrest]
    · intro _ heq
      exact hc (List.cons.inj heq).1

/-- **A whole number in range is read back from its print.** -/
theorem readNumber_printInteger {n : Int} (hlo : Number.minSigned ≤ n)
    (hhi : n ≤ Number.maxUnsigned) {rest : List Char} (hrest : Stops rest) :
    readNumber (printInteger n ++ rest) = some (.integer n, rest) := by
  rw [printInteger, Number.toList_toString_int]
  exact readNumber_numeral (Number.numeral_toDigits n.natAbs) hlo hhi hrest

/-! ## Blanks -/

@[simp] theorem skipSpaces_newline (level : Nat) (cs : List Char) :
    skipSpaces (newline level ++ cs) = skipSpaces cs := by
  have hblank : ∀ c ∈ newline level, isSpace c := by
    intro c hc
    obtain rfl | hc := List.mem_cons.1 hc
    · decide
    · rw [List.eq_of_mem_replicate hc]
      decide
  exact List.dropWhile_append_of_pos hblank

theorem skipSpaces_solid {c : Char} (h : isSpace c = false) (cs : List Char) :
    skipSpaces (c :: cs) = c :: cs := by
  simp [skipSpaces, h]

/-- Blanks in front of a value do not count. -/
theorem readValue_congr {cs ds : List Char} (h : skipSpaces cs = skipSpaces ds) (depth : Nat) :
    readValue depth cs = readValue depth ds := by
  cases depth <;> simp only [readValue, h]

theorem expect_newline (c : Char) (level : Nat) (cs : List Char) :
    expect c (newline level ++ cs) = expect c cs := by
  simp only [expect, skipSpaces_newline]

theorem stops_newline (level : Nat) (cs : List Char) : Stops (newline level ++ cs) := by
  intro c hc
  obtain rfl : '\n' = c := by simpa [newline] using hc
  decide

theorem stops_comma (cs : List Char) : Stops (',' :: cs) := by
  intro c hc
  obtain rfl : ',' = c := by simpa using hc
  decide

/-! ## Items -/

/-- A print starts with a visible character that is not the one that closes its list. -/
def Opens (close : Char) (cs : List Char) : Prop :=
  ∃ c rest, cs = c :: rest ∧ isSpace c = false ∧ c ≠ close

section Items

variable {α : Type} {item : List Char → Option (α × List Char)} {print : α → List Char}
  {close : Char} {inner outer : Nat}

/-- Items with a line for each and the closing character, before the rest of the input. -/
def printLines (print : α → List Char) (close : Char) (inner outer : Nat) (x : α) (xs : List α)
    (rest : List Char) : List Char :=
  newline inner ++ (print x
    ++ (xs.flatMap (fun y => ',' :: newline inner ++ print y) ++ (newline outer ++ close :: rest)))

/-- Items with a line for each are read back when each of them is. -/
theorem readItems_lines (hclose : isSpace close = false) (hcomma : close ≠ ',') (rest : List Char)
    (x : α) (xs : List α)
    (hread : ∀ y ∈ x :: xs, ∀ rest, Stops rest → item (print y ++ rest) = some (y, rest))
    (hnewline : ∀ cs, item (newline inner ++ cs) = item cs) {count : Nat}
    (hcount : xs.length < count) :
    readItems item close count (printLines print close inner outer x xs rest)
      = some (x :: xs, rest) := by
  induction xs generalizing x count with
  | nil =>
    obtain ⟨count, rfl⟩ := Nat.exists_eq_succ_of_ne_zero (Nat.ne_of_gt hcount)
    have hfirst := hread x List.mem_cons_self _ (stops_newline outer (close :: rest))
    rw [printLines, readItems, hnewline, List.flatMap_nil, List.nil_append, hfirst]
    simp [skipSpaces_solid hclose]
  | cons y ys ih =>
    rw [List.length_cons] at hcount
    obtain ⟨count, rfl⟩ := Nat.exists_eq_succ_of_ne_zero (Nat.ne_zero_of_lt hcount)
    have hlength : ys.length < count := Nat.lt_of_succ_lt_succ hcount
    have hmore := ih y (fun z hz => hread z (List.mem_cons_of_mem _ hz)) hlength
    have hfirst : ∀ cs, item (print x ++ ',' :: cs) = some (x, ',' :: cs) := by
      intro cs
      exact hread x List.mem_cons_self _ (stops_comma cs)
    have hskip : ∀ cs, skipSpaces (',' :: cs) = ',' :: cs := skipSpaces_solid (by decide)
    rw [printLines, readItems, hnewline, List.flatMap_cons]
    rw [List.cons_append, List.cons_append, List.cons_append, hfirst]
    rw [printLines] at hmore
    simp only [Option.bind_eq_bind, Option.bind_some, hskip, Ne.symm hcomma, if_false, if_true,
      List.append_assoc, hmore]
    rfl

/-- A list with a line for each item is read back when each of them is. -/
theorem readAll_lines (hclose : isSpace close = false) (hcomma : close ≠ ',') (rest : List Char)
    (x : α) (xs : List α)
    (hread : ∀ y ∈ x :: xs, ∀ rest, Stops rest → item (print y ++ rest) = some (y, rest))
    (hnewline : ∀ cs, item (newline inner ++ cs) = item cs) (hopens : Opens close (print x)) :
    readAll item close (printLines print close inner outer x xs rest) = some (x :: xs, rest) := by
  obtain ⟨c, cs, hprint, hsolid, hne⟩ := hopens
  have hlength : ∀ ys : List α,
      ys.length ≤ (ys.flatMap fun y => ',' :: newline inner ++ print y).length := by
    intro ys
    induction ys with
    | nil => exact Nat.le_refl 0
    | cons y ys ih =>
      simp only [List.flatMap_cons, List.length_append, List.length_cons]
      omega
  have hskip : skipSpaces (printLines print close inner outer x xs rest) = c :: (cs
      ++ (xs.flatMap (fun y => ',' :: newline inner ++ print y)
        ++ (newline outer ++ close :: rest))) := by
    rw [printLines, skipSpaces_newline, hprint, List.cons_append, skipSpaces_solid hsolid]
  rw [readAll, hskip]
  simp only [if_neg hne]
  refine readItems_lines hclose hcomma rest x xs hread hnewline ?_
  have := hlength xs
  simp only [List.length_append]
  omega

end Items

/-! ## Values -/

/-- A value that a document can hold, nested at most so deep: its numbers are whole and in range,
    and the members of an object have names of their own. -/
inductive Writable : Nat → Json → Prop
  | null {depth : Nat} : Writable depth .null
  | bool {depth : Nat} (b : Bool) : Writable depth (.bool b)
  | integer {depth : Nat} {n : Int} (above : Number.minSigned ≤ n)
      (below : n ≤ Number.maxUnsigned) : Writable depth (.integer n)
  | text {depth : Nat} (s : String) : Writable depth (.text s)
  | list {depth : Nat} {items : List Json} (each : ∀ item ∈ items, Writable depth item) :
      Writable (depth + 1) (.list items)
  | object {depth : Nat} {members : List (String × Json)} (names : (members.map Prod.fst).Nodup)
      (each : ∀ member ∈ members, Writable depth member.2) :
      Writable (depth + 1) (.object members)

theorem printPrettyItems_eq_flatMap (level : Nat) (items : List Json) :
    printPrettyItems level items
      = items.flatMap fun item => ',' :: newline level ++ printPretty level item := by
  induction items with
  | nil => rw [printPrettyItems, List.flatMap_nil]
  | cons item items ih => rw [printPrettyItems, ih, List.flatMap_cons]

/-- A member of an object as it is printed. -/
def printMember (level : Nat) (member : String × Json) : List Char :=
  quote member.1 ++ ([':', ' '] ++ printPretty level member.2)

theorem printPrettyMembers_eq_flatMap (level : Nat) (members : List (String × Json)) :
    printPrettyMembers level members
      = members.flatMap fun member => ',' :: newline level ++ printMember level member := by
  induction members with
  | nil => rw [printPrettyMembers, List.flatMap_nil]
  | cons member members ih =>
    rw [printPrettyMembers, ih, List.flatMap_cons, printMember]
    simp only [List.append_assoc, List.cons_append]

/-- Members with names of their own are kept as they are read. -/
theorem foldl_insertMember {all members : List (String × Json)}
    (h : ((all ++ members).map Prod.fst).Nodup) :
    members.foldl (fun all m => insertMember all m.1 m.2) all = all ++ members := by
  induction members generalizing all with
  | nil => simp
  | cons member members ih =>
    have hnew : all.filter (·.1 != member.1) = all := by
      refine List.filter_eq_self.2 fun other hother => ?_
      simp only [List.map_append, List.map_cons] at h
      have hne := (List.nodup_append.1 h).2.2 other.1 (List.mem_map_of_mem hother) member.1
        List.mem_cons_self
      simpa using hne
    have happend : all ++ member :: members = (all ++ [member]) ++ members := by simp
    rw [List.foldl_cons, insertMember, hnew, happend]
    rw [happend] at h
    exact ih h

/-- The first character of a number. -/
theorem printInteger_eq_cons (n : Int) :
    ∃ c rest, printInteger n = c :: rest ∧ (c = '-' ∨ c.isDigit) := by
  have hnumeral := Number.numeral_toDigits n.natAbs
  rw [printInteger, Number.toList_toString_int]
  split
  · exact ⟨'-', Nat.toDigits 10 n.natAbs, rfl, .inl rfl⟩
  · obtain ⟨c, rest, hdigits⟩ := List.exists_cons_of_ne_nil hnumeral.ne_nil
    exact ⟨c, rest, hdigits, .inr (hnumeral.isDigit c (by simp [hdigits]))⟩

/-- A character that may start a number starts nothing else. -/
theorem starts_number {c : Char} (h : c = '-' ∨ c.isDigit) :
    isSpace c = false ∧ c ≠ '"' ∧ c ≠ '[' ∧ c ≠ ']' ∧ c ≠ Char.ofNat 0x7B := by
  have hdigit : ∀ d : Char, d.isDigit = false → c = d → c = '-' := by
    rintro d hd rfl
    simpa [hd] using h
  have hne : ∀ d : Char, d.isDigit = false → d ≠ '-' → c ≠ d := by
    intro d hd hminus hc
    exact hminus (hc.symm.trans (hdigit d hd hc))
  refine ⟨?_, hne _ (by decide) (by decide), hne _ (by decide) (by decide),
    hne _ (by decide) (by decide), hne _ (by decide) (by decide)⟩
  simp [isSpace, hne ' ' (by decide) (by decide), hne '\n' (by decide) (by decide),
    hne '\t' (by decide) (by decide), hne '\r' (by decide) (by decide)]

theorem opens_printPretty {depth : Nat} {value : Json} (h : Writable depth value) (level : Nat) :
    Opens ']' (printPretty level value) := by
  cases h with
  | null => exact ⟨'n', _, rfl, by decide, by decide⟩
  | bool b =>
    cases b with
    | true => exact ⟨'t', _, rfl, by decide, by decide⟩
    | false => exact ⟨'f', _, rfl, by decide, by decide⟩
  | integer =>
    obtain ⟨c, rest, hprint, hc⟩ := printInteger_eq_cons _
    exact ⟨c, rest, hprint, (starts_number hc).1, (starts_number hc).2.2.2.1⟩
  | text s => exact ⟨'"', _, rfl, by decide, by decide⟩
  | @list depth items each =>
    cases items with
    | nil => exact ⟨'[', _, rfl, by decide, by decide⟩
    | cons item items => exact ⟨'[', _, by rw [printPretty]; rfl, by decide, by decide⟩
  | @object depth members names each =>
    cases members with
    | nil => exact ⟨Char.ofNat 0x7B, _, rfl, by decide, by decide⟩
    | cons member members =>
      exact ⟨Char.ofNat 0x7B, _, by rw [printPretty]; rfl, by decide, by decide⟩

/-- A member is read back when its value is. -/
theorem readMember_printMember {depth level : Nat} {member : String × Json} {rest : List Char}
    (h : readValue depth (printPretty level member.2 ++ rest) = some (member.2, rest)) :
    readMember (readValue depth) (printMember level member ++ rest) = some (member, rest) := by
  have hquote : ∀ cs, expect '"' ('"' :: cs) = some cs := fun cs => rfl
  have hcolon : ∀ cs, expect ':' (':' :: cs) = some cs := fun cs => rfl
  have hblank : ∀ cs, readValue depth (' ' :: cs) = readValue depth cs := by
    intro cs
    have hskip : skipSpaces (' ' :: cs) = skipSpaces cs := rfl
    exact readValue_congr hskip depth
  simp only [readMember, printMember, quote, List.cons_append, List.append_assoc, List.nil_append,
    hquote, hcolon, hblank, readText_quote, h, Option.bind_eq_bind, Option.bind_some]
  rw [String.ofList_toList]
  rfl

theorem readValue_list {depth : Nat} {cs rest : List Char} {items : List Json}
    (h : readAll (readValue depth) ']' cs = some (items, rest)) :
    readValue (depth + 1) ('[' :: cs) = some (.list items, rest) := by
  have hskip : skipSpaces ('[' :: cs) = '[' :: cs := rfl
  simp [readValue, hskip, h]

theorem readValue_object {depth : Nat} {cs rest : List Char} {members : List (String × Json)}
    (names : (members.map Prod.fst).Nodup)
    (h : readAll (readMember (readValue depth)) (Char.ofNat 0x7D) cs = some (members, rest)) :
    readValue (depth + 1) (Char.ofNat 0x7B :: cs) = some (.object members, rest) := by
  have hskip : skipSpaces (Char.ofNat 0x7B :: cs) = Char.ofNat 0x7B :: cs := rfl
  have hmembers : members.foldl (fun all m => insertMember all m.1 m.2) [] = members :=
    foldl_insertMember names
  simp [readValue, hskip, h, hmembers]

/-- **A value is read back from its print**, whatever follows that cannot belong to a number. -/
theorem readValue_printPretty {depth : Nat} {value : Json} (h : Writable depth value) (level : Nat)
    {rest : List Char} (hrest : Stops rest) :
    readValue depth (printPretty level value ++ rest) = some (value, rest) := by
  induction h generalizing level rest with
  | @null depth =>
    show readValue depth ('n' :: 'u' :: 'l' :: 'l' :: rest) = _
    cases depth <;> simp [readValue, skipSpaces, isSpace, Text.dropMark?]
  | @bool depth b =>
    cases b with
    | true =>
      show readValue depth ('t' :: 'r' :: 'u' :: 'e' :: rest) = _
      cases depth <;> simp [readValue, skipSpaces, isSpace, Text.dropMark?]
    | false =>
      show readValue depth ('f' :: 'a' :: 'l' :: 's' :: 'e' :: rest) = _
      cases depth <;> simp [readValue, skipSpaces, isSpace, Text.dropMark?]
  | @integer depth n above below =>
    have hnumber := readNumber_printInteger above below hrest
    obtain ⟨c, digits, hprint, hc⟩ := printInteger_eq_cons n
    obtain ⟨hsolid, hquote, hbracket, -, hbrace⟩ := starts_number hc
    show readValue depth (printInteger n ++ rest) = _
    rw [hprint, List.cons_append] at hnumber ⊢
    have hstart : (c = '-' || c.isDigit) = true := by simpa using hc
    cases depth <;> simp only [readValue, skipSpaces_solid hsolid, if_neg hquote, if_neg hbracket,
      if_neg hbrace, hstart, if_true, hnumber]
  | @text depth s =>
    show readValue depth ('"' :: (s.toList.flatMap escapeChar ++ ['"'] ++ rest)) = _
    have htext := readText_quote s.toList rest
    cases depth <;> simp [readValue, skipSpaces, isSpace, htext]
  | @list depth items each ih =>
    cases items with
    | nil =>
      have hempty : readAll (readValue depth) ']' (']' :: rest) = some ([], rest) := rfl
      exact readValue_list hempty
    | cons item items =>
      have hread : ∀ y ∈ item :: items, ∀ rest, Stops rest →
          readValue depth (printPretty (level + 1) y ++ rest) = some (y, rest) :=
        fun y hy rest hrest => ih y hy (level + 1) hrest
      have hnewline : ∀ cs, readValue depth (newline (level + 1) ++ cs) = readValue depth cs :=
        fun cs => readValue_congr (skipSpaces_newline _ cs) depth
      have hall : readAll (readValue depth) ']'
          (printLines (printPretty (level + 1)) ']' (level + 1) level item items rest)
            = some (item :: items, rest) :=
        readAll_lines (by decide) (by decide) rest item items hread hnewline
          (opens_printPretty (each item List.mem_cons_self) (level + 1))
      rw [printPretty, printPrettyItems_eq_flatMap]
      simpa only [printLines, List.append_assoc, List.cons_append, List.nil_append]
        using readValue_list hall
  | @object depth members names each ih =>
    cases members with
    | nil =>
      have hempty : readAll (readMember (readValue depth)) (Char.ofNat 0x7D)
          (Char.ofNat 0x7D :: rest) = some ([], rest) := rfl
      exact readValue_object names hempty
    | cons member members =>
      have hread : ∀ m ∈ member :: members, ∀ rest, Stops rest →
          readMember (readValue depth) (printMember (level + 1) m ++ rest) = some (m, rest) :=
        fun m hm rest hrest => readMember_printMember (ih m hm (level + 1) hrest)
      have hnewline : ∀ cs, readMember (readValue depth) (newline (level + 1) ++ cs)
          = readMember (readValue depth) cs :=
        fun cs => by simp only [readMember, expect_newline]
      have hopens : Opens (Char.ofNat 0x7D) (printMember (level + 1) member) :=
        ⟨'"', _, rfl, by decide, by decide⟩
      have hall : readAll (readMember (readValue depth)) (Char.ofNat 0x7D)
          (printLines (printMember (level + 1)) (Char.ofNat 0x7D) (level + 1) level member members
            rest) = some (member :: members, rest) :=
        readAll_lines (by decide) (by decide) rest member members hread hnewline hopens
      have hobject := readValue_object names hall
      rw [printPretty, printPrettyMembers_eq_flatMap]
      simpa only [printLines, printMember, List.append_assoc, List.cons_append, List.nil_append]
        using hobject

/-- A printed value is a document of its own. -/
theorem parse?_pretty {value : Json} (h : Writable maxDepth value) :
    parse? value.pretty = some value := by
  have hread : readValue maxDepth (printPretty 0 value ++ []) = some (value, []) :=
    readValue_printPretty h 0 (by simp [Stops])
  rw [List.append_nil] at hread
  rw [parse?, pretty, String.toList_ofList, hread]
  rfl

end RobotClient.Json
