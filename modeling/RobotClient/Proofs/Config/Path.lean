import Mathlib
import RobotClient.Config.Loader
import RobotClient.Proofs.Text.Lowercase
import RobotClient.Proofs.Text.Split

set_option autoImplicit false

/-! # The places that keys name

A key of a layer is a path in writing, and a variable's name is a key in other writing. Neither
writing is ambiguous: names lead to one place only if they are one name. -/

namespace RobotClient.Config

/-! ## Names in a key -/

/-- A character of a plain name: an ASCII letter, a digit or an underscore. -/
def isPlainChar (c : Char) : Bool := c.isAlphanum || c == '_'

/-- The name is made of ASCII letters, digits and underscores. -/
def Plain (name : String) : Prop := ∀ c ∈ name.toList, isPlainChar c

instance (name : String) : Decidable (Plain name) :=
  decidable_of_iff (name.toList.all isPlainChar = true) List.all_eq_true

/-- The names that a key leads through: its parts at the dots, or the key as it stands if one of
    them is empty. -/
def keyNames (key : String) : List String :=
  let parts := Text.splitAll '.' key
  if "" ∈ parts then [key] else parts

/-- The names with dots between them are the key. -/
theorem intercalate_keyNames (key : String) :
    ['.'].intercalate ((keyNames key).map String.toList) = key.toList := by
  rw [keyNames]
  split
  · simp
  · simp only [Text.splitAll, List.map_map, Function.comp_def, String.toList_ofList, List.map_id']
    exact Text.intercalate_pieces '.' key.toList

theorem keyNames_injective : Function.Injective keyNames := by
  intro key other h
  refine String.toList_inj.1 ?_
  rw [← intercalate_keyNames key, ← intercalate_keyNames other, h]

theorem keyNames_ne_nil (key : String) : keyNames key ≠ [] := by
  rw [keyNames]
  split
  · simp
  · simpa [Text.splitAll] using Text.pieces_ne_nil '.' key.toList

/-! ## Reading a key -/

/-- A character that a key of names and dots may have. -/
def isPathChar (c : Char) : Bool := isNameChar c || c == '.'

/-- The steps through the pieces of a text, unless one of them is empty. -/
def pieceSteps (cs : List Char) : Option (List Step) :=
  if [] ∈ Text.pieces '.' cs then none
  else some ((Text.pieces '.' cs).map fun piece => .key (String.ofList piece))

/-- The name at the front is the first of the pieces, and a dot follows unless it is the last. -/
theorem span_isNameChar {cs : List Char} (h : ∀ c ∈ cs, isPathChar c) :
    ∃ name rest, cs.span isNameChar = (name, rest) ∧
      (rest = [] ∧ Text.pieces '.' cs = [name] ∨
        ∃ cs', rest = '.' :: cs' ∧ cs'.length < cs.length ∧ (∀ c ∈ cs', c ∈ cs) ∧
          Text.pieces '.' cs = name :: Text.pieces '.' cs') := by
  simp only [List.span_eq_takeWhile_dropWhile]
  induction cs with
  | nil => exact ⟨[], [], rfl, .inl ⟨rfl, rfl⟩⟩
  | cons c cs ih =>
    by_cases hc : isNameChar c
    · obtain ⟨name, rest, hspan, hrest⟩ := ih fun d hd => h d (List.mem_cons_of_mem _ hd)
      simp only [Prod.mk.injEq] at hspan
      have hdot : c ≠ '.' := by rintro rfl; exact absurd hc (by decide)
      refine ⟨c :: name, rest, by simp [hc, hspan.1, hspan.2], ?_⟩
      obtain ⟨hnil, hpieces⟩ | ⟨cs', hcs', hlength, hmem, hpieces⟩ := hrest
      · exact .inl ⟨hnil, by simp [Text.pieces, hdot, hpieces]⟩
      · refine .inr ⟨cs', hcs', Nat.lt_succ_of_lt hlength, ?_, by simp [Text.pieces, hdot, hpieces]⟩
        intro d hd
        exact List.mem_cons_of_mem _ (hmem d hd)
    · -- the name is empty, for the text starts with a dot
      obtain rfl : c = '.' := by simpa [isPathChar, hc] using h c List.mem_cons_self
      refine ⟨[], '.' :: cs, by simp [hc], .inr ⟨cs, rfl, by simp, ?_, by simp [Text.pieces]⟩⟩
      intro d hd
      exact List.mem_cons_of_mem _ hd

/-- A name and what is read behind it are the steps through the pieces if the rest is. -/
theorem bind_readName {cs : List Char} (h : ∀ c ∈ cs, isPathChar c)
    {f : List Char → Option (List Step)} (hnil : f [] = some [])
    (hdot : ∀ cs', cs'.length < cs.length → (∀ c ∈ cs', isPathChar c) →
      f ('.' :: cs') = pieceSteps cs') :
    (do let (name, rest) ← readName cs; return .key name :: (← f rest)) = pieceSteps cs := by
  obtain ⟨name, rest, hspan, hrest⟩ := span_isNameChar h
  have hread : readName cs = if name.isEmpty then none else some (String.ofList name, rest) := by
    rw [readName, hspan]
  rw [hread]
  obtain ⟨rfl, hpieces⟩ | ⟨cs', rfl, hlength, hmem, hpieces⟩ := hrest
  · cases name <;> simp [pieceSteps, hpieces, hnil]
  · have hnext := hdot cs' hlength fun c hc => h c (hmem c hc)
    cases name with
    | nil => simp [pieceSteps, hpieces]
    | cons c name =>
      by_cases hempty : [] ∈ Text.pieces '.' cs' <;>
        simp [pieceSteps, hpieces, hnext, hempty]

theorem readSteps_dot {count : Nat} {cs : List Char} (hcount : cs.length < count)
    (h : ∀ c ∈ cs, isPathChar c) : readSteps count ('.' :: cs) = pieceSteps cs := by
  induction count generalizing cs with
  | zero => omega
  | succ count ih =>
    have hstep : readSteps (count + 1) ('.' :: cs)
        = do let (name, rest) ← readName cs; return .key name :: (← readSteps count rest) := rfl
    rw [hstep]
    refine bind_readName h (by simp [readSteps]) ?_
    intro cs' hlength hcs'
    exact ih (by omega) hcs'

/-- **A key of names and dots leads through its names.** -/
theorem pathOf_eq {key : String} (h : ∀ c ∈ key.toList, isPathChar c) :
    pathOf key = (keyNames key).map .key := by
  have hread : pathOf key = (pieceSteps key.toList).getD [.key key] := by
    rw [pathOf]
    refine congrArg (Option.getD · _) ?_
    refine bind_readName (f := fun rest => readSteps rest.length rest) h (by simp [readSteps]) ?_
    intro cs' _ hcs'
    exact readSteps_dot (Nat.lt_succ_self _) hcs'
  have hempty : "" ∈ Text.splitAll '.' key ↔ [] ∈ Text.pieces '.' key.toList := by
    rw [Text.splitAll, List.mem_map]
    constructor
    · rintro ⟨piece, hpiece, heq⟩
      obtain rfl : piece = [] := by simpa using congrArg String.toList heq
      exact hpiece
    · intro hnil
      exact ⟨[], hnil, rfl⟩
  rw [hread, pieceSteps, keyNames]
  by_cases hnil : [] ∈ Text.pieces '.' key.toList
  · rw [if_pos hnil, if_pos (hempty.2 hnil)]
    rfl
  · rw [if_neg hnil, if_neg fun hmem => hnil (hempty.1 hmem)]
    simp [Text.splitAll]

/-! ## Plain names -/

theorem ascii_of_isPlainChar {c : Char} (h : isPlainChar c) : c.toNat < 0x80 := by
  simp only [isPlainChar, Char.isAlphanum, Char.isAlpha, Char.isUpper, Char.isLower, Char.isDigit,
    Bool.or_eq_true, Bool.and_eq_true, decide_eq_true_eq, beq_iff_eq] at h
  obtain (((h | h) | h) | rfl) := h
  · exact Nat.lt_of_le_of_lt h.2 (by decide)
  · exact Nat.lt_of_le_of_lt h.2 (by decide)
  · exact Nat.lt_of_le_of_lt h.2 (by decide)
  · decide

theorem isPathChar_of_isPlainChar {c : Char} (h : isPlainChar c) : isPathChar c := by
  simp only [isPlainChar, Bool.or_eq_true] at h
  obtain h | h := h <;> simp [isPathChar, isNameChar, h]

theorem isPlainChar_toLower {c : Char} (h : isPlainChar c) : isPlainChar c.toLower := by
  by_cases hc : c.isUpper
  · have hlow : c.toLower.isAlpha := by
      rw [Char.isAlpha_toLower_eq_isAlpha]
      simp [Char.isAlpha, hc]
    simp [isPlainChar, Char.isAlphanum, hlow]
  · rwa [Char.toLower_eq_of_not_isUpper hc]

/-- The lower case of a plain name is a plain name without capitals. -/
theorem Plain.lower_char {name : String} (h : Plain name) {c : Char}
    (hc : c ∈ (Text.lower name).toList) : isPlainChar c ∧ c.toLower = c := by
  rw [Text.toList_lower_of_ascii fun d hd => ascii_of_isPlainChar (h d hd)] at hc
  obtain ⟨d, hd, rfl⟩ := List.mem_map.1 hc
  exact ⟨isPlainChar_toLower (h d hd), Char.toLower_toLower_eq_toLower d⟩

theorem keyNames_of_plain {key : String} (h : Plain key) : keyNames key = [key] := by
  have hdot : '.' ∉ key.toList := by
    intro hmem
    exact absurd (h _ hmem) (by decide)
  rw [keyNames, Text.splitAll, Text.pieces_of_not_mem hdot]
  split <;> simp

/-- A plain name in any case leads one step, to its lower case. -/
theorem Plain.pathOf_lower {key : String} (h : Plain key) :
    pathOf (Text.lower key) = [.key (Text.lower key)] := by
  have hplain : Plain (Text.lower key) := fun c hc => (h.lower_char hc).1
  rw [pathOf_eq fun c hc => isPathChar_of_isPlainChar (hplain c hc), keyNames_of_plain hplain]
  rfl

/-! ## Variables -/

/-- Each dot made two underscores. -/
def undotted (cs : List Char) : List Char := cs.flatMap fun c => if c = '.' then ['_', '_'] else [c]

theorem undotted_dotted {cs : List Char} (h : '.' ∉ cs) : undotted (dotted cs) = cs := by
  fun_induction dotted cs with
  | case1 rest ih =>
    have hrest : '.' ∉ rest := by simp at h; exact h
    simpa [undotted] using ih hrest
  | case2 c rest _ ih =>
    simp only [List.mem_cons, not_or] at h
    simpa [undotted, Ne.symm h.1] using ih h.2
  | case3 => rfl

theorem mem_dotted {cs : List Char} {c : Char} (h : c ∈ dotted cs) : c ∈ cs ∨ c = '.' := by
  fun_induction dotted cs with
  | case1 rest ih =>
    obtain rfl | hmem := List.mem_cons.1 h
    · exact .inr rfl
    · exact (ih hmem).imp_left fun hrest => List.mem_cons_of_mem _ (List.mem_cons_of_mem _ hrest)
  | case2 d rest _ ih =>
    obtain rfl | hmem := List.mem_cons.1 h
    · exact .inl List.mem_cons_self
    · exact (ih hmem).imp_left (List.mem_cons_of_mem _)
  | case3 => simp at h

/-- A plain variable that is a setting has a key behind its start, with dots in it for pairs of
    underscores. -/
theorem exists_of_variableKey? {name key : String} (h : variableKey? name = some key) :
    ∃ rest, (Text.lower name).toList = variableStart.toList ++ rest ∧ key.toList = dotted rest := by
  obtain ⟨rest, hrest, rfl⟩ := Option.map_eq_some_iff.1 h
  exact ⟨rest, Text.dropMark?_eq_some_iff.1 hrest, by simp⟩

/-- A key tells the variable that sets it, up to case. -/
theorem lower_eq_of_variableKey? {name other key : String} (hname : Plain name)
    (hother : Plain other) (h : variableKey? name = some key) (h' : variableKey? other = some key) :
    Text.lower name = Text.lower other := by
  have hback : ∀ {n : String}, Plain n → variableKey? n = some key →
      (Text.lower n).toList = variableStart.toList ++ undotted key.toList := by
    intro n hn hkey
    obtain ⟨rest, hlower, hrest⟩ := exists_of_variableKey? hkey
    have hdot : '.' ∉ rest := by
      intro hmem
      have hmem' : '.' ∈ (Text.lower n).toList := by simp [hlower, hmem]
      exact absurd (hn.lower_char hmem').1 (by decide)
    rw [hlower, hrest, undotted_dotted hdot]
  exact String.toList_inj.1 ((hback hname h).trans (hback hother h').symm)

theorem variableKey_char {name key : String} (hname : Plain name)
    (h : variableKey? name = some key) {c : Char} (hc : c ∈ key.toList) :
    isPathChar c ∧ c.toNat < 0x80 ∧ c.toLower = c := by
  obtain ⟨rest, hlower, hrest⟩ := exists_of_variableKey? h
  rw [hrest] at hc
  obtain hmem | rfl := mem_dotted hc
  · have hchar := hname.lower_char (by simp [hlower, hmem] : c ∈ (Text.lower name).toList)
    exact ⟨isPathChar_of_isPlainChar hchar.1, ascii_of_isPlainChar hchar.1, hchar.2⟩
  · decide

/-- The key of a plain variable leads through its names, as it is in lower case already. -/
theorem pathOf_lower_variableKey {name key : String} (hname : Plain name)
    (h : variableKey? name = some key) : pathOf (Text.lower key) = (keyNames key).map .key := by
  have hlower : Text.lower key = key :=
    Text.lower_eq_self fun c hc => (variableKey_char hname h hc).2
  rw [hlower]
  exact pathOf_eq fun c hc => (variableKey_char hname h hc).1

end RobotClient.Config
