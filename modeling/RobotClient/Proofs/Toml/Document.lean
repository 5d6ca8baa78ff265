import Mathlib
import RobotClient.Config.Document
import RobotClient.Proofs.Toml.Scalar
import RobotClient.Proofs.Toml.Text
import RobotClient.Proofs.Toml.Tree
import RobotClient.Toml.Reader

set_option autoImplicit false

/-! # Written TOML tables read back

A document that is written line by line is read line by line, and what its lines do is told apart
from how they are spelled: a heading and its pairs put a table with their values at the end of the
place that the heading names. -/

namespace RobotClient.Toml

/-! ## Lines -/

/-- A text starts with neither a blank, a comment nor the end of a line. -/
def Solid (cs : List Char) : Prop :=
  ∃ c rest, cs = c :: rest ∧ isSpace c = false ∧ c ≠ '#' ∧ c ≠ '\n' ∧ c ≠ '\r'

theorem Solid.append {cs : List Char} (h : Solid cs) (more : List Char) : Solid (cs ++ more) := by
  obtain ⟨c, rest, rfl, hc⟩ := h
  exact ⟨c, rest ++ more, rfl, hc⟩

theorem Solid.ne_nil {cs : List Char} (h : Solid cs) : cs ≠ [] := by
  obtain ⟨c, rest, rfl, -⟩ := h
  exact List.cons_ne_nil c rest

/-- What starts a text is not passed over, however many lines could be. -/
theorem Solid.skipLines {cs : List Char} (h : Solid cs) (count : Nat) :
    skipLines count cs = some cs := by
  obtain ⟨c, rest, rfl, hspace, hcomment, hfeed, hreturn⟩ := h
  have hskip : skipSpaces (c :: rest) = c :: rest := by simp [skipSpaces, hspace]
  have hbreak : lineBreak? (c :: rest) = none := by
    rw [lineBreak?] <;> simp_all
  cases count with
  | zero => rfl
  | succ count =>
    rw [Toml.skipLines, hskip]
    simp [hcomment, hbreak]

theorem Solid.skipAllLines {cs : List Char} (h : Solid cs) : skipAllLines cs = some cs :=
  h.skipLines _

/-- A blank line before a text is passed over. -/
theorem Solid.skipAllLines_feed {cs : List Char} (h : Solid cs) :
    Toml.skipAllLines ('\n' :: cs) = some cs := by
  have hcount : 2 * ('\n' :: cs).length = (2 * cs.length + 1) + 1 := by
    simp only [List.length_cons]
    omega
  rw [Toml.skipAllLines, hcount, Toml.skipLines]
  exact h.skipLines _

/-- A text is written as lines that are read back one by one, with blank lines between them. -/
inductive Written : List Char → List Line → Prop
  | nil : Written [] []
  | line {text cs : List Char} {l : Line} {lines : List Line} (solid : Solid text)
      (reads : ∀ rest, readLine (text ++ '\n' :: rest) = some (l, '\n' :: rest))
      (more : Written cs lines) : Written (text ++ '\n' :: cs) (l :: lines)
  | blank {cs : List Char} {lines : List Line} (solid : Solid cs) (more : Written cs lines) :
      Written ('\n' :: cs) lines

theorem Written.append {cs ds : List Char} {lines more : List Line} (h : Written cs lines)
    (hmore : Written ds more) : Written (cs ++ ds) (lines ++ more) := by
  induction h with
  | nil => exact hmore
  | line solid reads _ ih =>
    rw [List.append_assoc]
    exact .line solid reads ih
  | blank solid _ ih => exact .blank (solid.append ds) ih

theorem Written.length_le {cs : List Char} {lines : List Line} (h : Written cs lines) :
    lines.length ≤ cs.length := by
  induction h with
  | nil => exact Nat.le_refl 0
  | line =>
    simp only [List.length_append, List.length_cons]
    omega
  | blank =>
    simp only [List.length_cons]
    omega

/-- Written lines do to a draft what they do one after another. -/
theorem readLines_written {cs : List Char} {lines : List Line} (h : Written cs lines) {d d' : Draft}
    (hd : lines.foldlM Draft.apply d = some d') {count : Nat} (hcount : lines.length < count) :
    readLines d count cs = some d' := by
  induction h generalizing d count with
  | nil =>
    obtain ⟨count, rfl⟩ := Nat.exists_eq_succ_of_ne_zero (Nat.ne_zero_of_lt hcount)
    exact hd
  | @line text cs l lines solid reads more ih =>
    obtain ⟨count, rfl⟩ := Nat.exists_eq_succ_of_ne_zero (Nat.ne_zero_of_lt hcount)
    obtain ⟨next, hnext, hrest⟩ := Option.bind_eq_some_iff.1 hd
    have hskip := (solid.append ('\n' :: cs)).skipAllLines
    have hmore := ih hrest (Nat.lt_of_succ_lt_succ hcount)
    have hend : endOfLine ('\n' :: cs) = some cs := rfl
    rw [readLines, hskip]
    simp only [Option.bind_eq_bind, Option.bind_some]
    split
    · next hnil => exact absurd hnil (solid.append _).ne_nil
    · simp only [reads, Option.bind_some, hnext, hend, hmore]
  | @blank cs lines solid more ih =>
    obtain ⟨count, rfl⟩ := Nat.exists_eq_succ_of_ne_zero (Nat.ne_zero_of_lt hcount)
    have hmore := ih hd hcount
    rw [readLines, solid.skipAllLines] at hmore
    rw [readLines, solid.skipAllLines_feed]
    exact hmore

/-! ## Pairs -/

/-- A text spells a value to the end of its line. -/
structure Spells (text : String) (value : Json) : Prop where
  reads (rest : List Char) :
    readValue maxDepth (text.toList ++ '\n' :: rest) = some (value, '\n' :: rest)
  solid : ∀ rest, skipSpaces (text.toList ++ rest) = text.toList ++ rest

theorem skipSpaces_cons {c : Char} (h : isSpace c = false) (cs : List Char) :
    skipSpaces (c :: cs) = c :: cs := by
  simp [skipSpaces, h]

theorem exists_spell_cons (spelling : Spelling) (cs : List Char) :
    ∃ c rest, spell spelling cs = c :: rest ∧ (c = '"' ∨ c = '\'') := by
  cases spelling with
  | basic => exact ⟨'"', _, rfl, .inl rfl⟩
  | literal => exact ⟨'\'', _, rfl, .inr rfl⟩
  | longBasic => exact ⟨'"', _, rfl, .inl rfl⟩
  | longLiteral => exact ⟨'\'', _, rfl, .inr rfl⟩

theorem spells_text (s : String) : Spells (writeText s) (.text s) := by
  obtain ⟨c, cs, hcons, hquote⟩ := exists_spell_cons (.ofValue s.toList) s.toList
  have hwritten : (writeText s).toList = c :: cs := by
    rw [writeText, String.toList_ofList, hcons]
  refine ⟨fun rest => ?_, fun rest => ?_⟩
  · have hread := readText_writeText s (show ('\n' :: rest).head? ≠ some '"'
      ∧ ('\n' :: rest).head? ≠ some '\'' by simp)
    rw [hwritten, List.cons_append] at hread ⊢
    rw [readValue.eq_def]
    simp only [if_pos hquote, hread, Option.map_some, String.ofList_toList]
  · rw [hwritten, List.cons_append]
    refine skipSpaces_cons ?_ _
    obtain rfl | rfl := hquote <;> decide

theorem not_isWordChar_feed (rest : List Char) : ∀ c ∈ ('\n' :: rest).head?, ¬ isWordChar c := by
  rintro c ⟨⟩
  decide

/-- A word is a value when it is read as one. -/
theorem spells_word {text : String} {value : Json} (hne : text.toList ≠ [])
    (hword : ∀ c ∈ text.toList, isWordChar c)
    (h : ∀ rest, readScalar (text.toList ++ '\n' :: rest) = some (value, '\n' :: rest)) :
    Spells text value := by
  obtain ⟨c, cs, hcons⟩ := List.exists_cons_of_ne_nil hne
  have hne : ∀ d : Char, isWordChar d = false → c ≠ d := by
    rintro d hd rfl
    have hc := hword c (by rw [hcons]; exact List.mem_cons_self)
    rw [hd] at hc
    cases hc
  refine ⟨fun rest => ?_, fun rest => ?_⟩
  · have hread := h rest
    rw [hcons, List.cons_append] at hread ⊢
    have hquote : ¬ (c = '"' ∨ c = '\'') :=
      not_or.2 ⟨hne '"' (by decide), hne '\'' (by decide)⟩
    rw [readValue.eq_def]
    simp only [if_neg hquote, if_neg (hne '[' (by decide)),
      if_neg (hne (Char.ofNat 0x7B) (by decide)), hread]
  · rw [hcons, List.cons_append]
    refine skipSpaces_cons ?_ _
    simp [isSpace, hne ' ' (by decide), hne '\t' (by decide)]

theorem spells_bool (b : Bool) : Spells (toString b) (.bool b) :=
  spells_word (by cases b <;> decide) (isWordChar_bool b) fun rest =>
    readScalar_bool b (not_isWordChar_feed rest)

theorem spells_integer {n : Int} (hlo : Number.minSigned ≤ n) (hhi : n ≤ Number.maxSigned) :
    Spells (toString n) (.integer n) := by
  have hnumeral := Number.numeral_toDigits n.natAbs
  have hwritten := Number.toList_toString_int n
  refine spells_word ?_ ?_ fun rest => ?_
  · rw [hwritten]
    simp [hnumeral.ne_nil]
  · rw [hwritten]
    exact isWordChar_numeral hnumeral
  · rw [hwritten]
    exact readScalar_numeral hnumeral hlo hhi (not_isWordChar_feed rest)

/-! ## Tables -/

/-- What a written key starts with. -/
theorem exists_writeKey_cons (key : String) :
    ∃ c rest, (writeKey key).toList = c :: rest ∧ (isKeyChar c ∨ c = '"' ∨ c = '\'') := by
  rw [writeKey]
  split
  · next hbare =>
    simp only [Bool.and_eq_true, decide_eq_true_eq, List.all_eq_true] at hbare
    obtain ⟨c, rest, hcons⟩ := List.exists_cons_of_ne_nil (String.toList_eq_nil_iff.not.2 hbare.1)
    exact ⟨c, rest, hcons, .inl (hbare.2 c (by rw [hcons]; exact List.mem_cons_self))⟩
  · obtain ⟨c, rest, hcons, hquote⟩ := exists_spell_cons (.ofKey key.toList) key.toList
    exact ⟨c, rest, by rw [String.toList_ofList, hcons], .inr hquote⟩

/-- What a written key starts with neither ends a line nor opens a heading. -/
theorem writeKey_solid (key : String) :
    ∃ c rest, (writeKey key).toList = c :: rest ∧ isSpace c = false ∧ c ≠ '#' ∧ c ≠ '\n'
      ∧ c ≠ '\r' ∧ c ≠ '[' := by
  obtain ⟨c, rest, hcons, hc⟩ := exists_writeKey_cons key
  have hne : ∀ d : Char, isKeyChar d = false → d ≠ '"' → d ≠ '\'' → c ≠ d := by
    rintro d hkey hdouble hsingle rfl
    rw [hkey] at hc
    obtain hc | hc | hc := hc
    · cases hc
    · exact hdouble hc
    · exact hsingle hc
  refine ⟨c, rest, hcons, ?_, hne _ (by decide) (by decide) (by decide),
    hne _ (by decide) (by decide) (by decide), hne _ (by decide) (by decide) (by decide),
    hne _ (by decide) (by decide) (by decide)⟩
  simp [isSpace, hne ' ' (by decide) (by decide) (by decide),
    hne '\t' (by decide) (by decide) (by decide)]

/-- A written key before its value is read back. -/
theorem readKey_writeKey (count : Nat) (key : String) (rest : List Char) :
    readKey (count + 1) ((writeKey key).toList ++ ' ' :: '=' :: rest)
      = some ([key], '=' :: rest) := by
  obtain ⟨c, cs, hcons, hspace, -⟩ := writeKey_solid key
  have hskip : skipSpaces ((writeKey key).toList ++ ' ' :: '=' :: rest)
      = (writeKey key).toList ++ ' ' :: '=' :: rest := by
    rw [hcons]
    exact skipSpaces_cons hspace _
  have hread : readSimpleKey ((writeKey key).toList ++ ' ' :: '=' :: rest)
      = some (key, ' ' :: '=' :: rest) := by
    refine readSimpleKey_writeKey key ?_
    rintro d ⟨⟩
    decide
  rw [readKey, hskip, hread]
  rfl

/-- A pair without the end of its line. -/
def pairText (key text : String) : List Char :=
  (writeKey key).toList ++ ' ' :: '=' :: ' ' :: text.toList

theorem toList_entry (key text : String) :
    (entry key text).toList = pairText key text ++ ['\n'] := by
  simp [entry, pairText]

theorem solid_pairText (key text : String) : Solid (pairText key text) := by
  obtain ⟨c, cs, hcons, hspace, hcomment, hfeed, hreturn, -⟩ := writeKey_solid key
  refine Solid.append ⟨c, cs, hcons, hspace, hcomment, hfeed, hreturn⟩ _

/-- A pair on a line of its own is read back. -/
theorem readLine_pairText (key : String) {text : String} {value : Json} (h : Spells text value)
    (rest : List Char) :
    readLine (pairText key text ++ '\n' :: rest) = some (.pair [key] value, '\n' :: rest) := by
  obtain ⟨c, cs, hcons, -, -, -, -, hbracket⟩ := writeKey_solid key
  have hkey : readKey maxDepth (pairText key text ++ '\n' :: rest)
      = some ([key], '=' :: ' ' :: (text.toList ++ '\n' :: rest)) := by
    rw [pairText, List.append_assoc]
    exact readKey_writeKey 78 key _
  have hequals : after? '=' (skipSpaces ('=' :: ' ' :: (text.toList ++ '\n' :: rest)))
      = some (' ' :: (text.toList ++ '\n' :: rest)) := rfl
  have hblank : skipSpaces (' ' :: (text.toList ++ '\n' :: rest)) = text.toList ++ '\n' :: rest :=
    h.solid ('\n' :: rest)
  have hpair : readPair (readValue maxDepth) (pairText key text ++ '\n' :: rest)
      = some (([key], value), '\n' :: rest) := by
    simp only [readPair, hkey, hequals, hblank, h.reads, Option.bind_eq_bind, Option.bind_some]
    rfl
  rw [readLine]
  · rw [hpair]
    rfl
  all_goals
    rw [pairText, hcons]
    simp_all

/-- Pairs are written one a line. -/
theorem written_pairs {entries : List (String × String)} {members : List (String × Json)}
    (h : List.Forall₂ (fun e m => e.1 = m.1 ∧ Spells e.2 m.2) entries members) :
    Written (String.join (entries.map fun (k, v) => entry k v)).toList
      (members.map fun member => .pair [member.1] member.2) := by
  induction h with
  | nil => exact .nil
  | @cons e m entries members hhead _ ih =>
    obtain ⟨key, text⟩ := e
    obtain ⟨rfl, hspells⟩ := hhead
    have htext : (String.join (((m.1, text) :: entries).map fun (k, v) => entry k v)).toList
        = pairText m.1 text
          ++ '\n' :: (String.join (entries.map fun (k, v) => entry k v)).toList := by
      rw [List.map_cons, String.join_cons, String.toList_append, toList_entry]
      simp
    rw [htext]
    exact .line (solid_pairText _ _) (readLine_pairText _ hspells) ih

/-- What a table with values does to a draft. -/
def tableLines (path : List String) (members : List (String × Json)) : List Line :=
  .heading path false :: members.map fun member => .pair [member.1] member.2

/-- A table is written as its heading and its pairs. -/
theorem written_table {heading : String} {path : List String}
    (hheading : ∀ rest, readLine ('[' :: heading.toList ++ ']' :: '\n' :: rest)
      = some (.heading path false, '\n' :: rest))
    {entries : List (String × String)} {members : List (String × Json)}
    (h : List.Forall₂ (fun e m => e.1 = m.1 ∧ Spells e.2 m.2) entries members) :
    Written (table heading entries).toList (tableLines path members) := by
  have htext : (table heading entries).toList = ('[' :: heading.toList ++ [']'])
      ++ '\n' :: (String.join (entries.map fun (k, v) => entry k v)).toList := by
    simp [table]
  rw [htext]
  refine .line ⟨'[', _, rfl, by decide, by decide, by decide, by decide⟩ ?_ (written_pairs h)
  intro rest
  rw [List.append_assoc]
  exact hheading rest

/-! ## Drafts -/

open Entries (IsPlace)

/-- The pairs of a table go to its end. -/
theorem foldlM_pairs {path : List String} {put : Entries → Entries} (h : IsPlace path put)
    {inner : Entries} {members : List (String × Json)}
    (hnames : (inner.keys ++ members.map Prod.fst).Nodup) :
    (members.map fun member => Line.pair [member.1] member.2).foldlM Draft.apply
        { root := put inner, path }
      = some { root := put (inner ++ ofMembers members), path } := by
  induction members generalizing inner with
  | nil =>
    rw [ofMembers, List.map_nil, List.map_nil, List.append_nil]
    rfl
  | cons member members ih =>
    have hnew : member.1 ∉ inner.keys := by
      intro hmem
      exact (List.nodup_append.1 hnames).2.2 _ hmem _ List.mem_cons_self rfl
    have hstep : Draft.apply { root := put inner, path } (.pair [member.1] member.2)
        = some { root := put (inner ++ [(member.1, .value member.2)]), path } := by
      rw [Draft.apply, h.within_eq, Entries.insert_of_not_mem hnew]
      rfl
    have hmore : ((inner ++ [(member.1, Entry.value member.2)]).keys
        ++ members.map Prod.fst).Nodup := by
      simpa [Entries.keys] using hnames
    have hrest := ih hmore
    rw [List.append_assoc] at hrest
    rw [List.map_cons, List.foldlM_cons, hstep]
    exact hrest

/-- **A table with values goes to the end of the place that its heading names.** -/
theorem foldlM_tableLines {path : List String} {put : Entries → Entries} (h : IsPlace path put)
    {inner : Entries} {key : String} (hkey : key ∉ inner.keys) {members : List (String × Json)}
    (hnames : (members.map Prod.fst).Nodup) (opened : List String) :
    (tableLines (path ++ [key]) members).foldlM Draft.apply { root := put inner, path := opened }
      = some { root := put (inner ++ [(key, .table .heading (ofMembers members))])
               path := path ++ [key] } := by
  have hheading : Draft.apply { root := put inner, path := opened } (.heading (path ++ [key]) false)
      = some { root := put (inner ++ [(key, .table .heading [])]), path := path ++ [key] } := by
    simp [Draft.apply, h.within_eq, Entries.openTable_of_not_mem hkey]
  have hpairs : (members.map fun member => Line.pair [member.1] member.2).foldlM Draft.apply
      { root := put (inner ++ [(key, .table .heading [])]), path := path ++ [key] }
        = some { root := put (inner ++ [(key, .table .heading (ofMembers members))])
                 path := path ++ [key] } :=
    foldlM_pairs (h.child hkey .heading) hnames
  rw [tableLines, List.foldlM_cons, hheading]
  exact hpairs

end RobotClient.Toml
