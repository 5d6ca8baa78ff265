import RobotClient.Proofs.Node.Name
import RobotClient.Proofs.Text.Quoted

set_option autoImplicit false

/-! # Why a name is refused

The check of a name reports the first defect that it comes upon. The name has that defect
(`NameDefect.IsOf`), and as every defect is worded in its own way, whoever reads a reason can tell
which one it is. The one thing that the wording gets wrong is the unit of a length: names are
measured in octets, and a name of too many octets need not have too many characters (`Overcounted`).
Main statement: `rejection_reasons`. -/

namespace RobotClient

open Number (AsciiDigit isDigit_iff)

/-! ## Defects -/

/-- Whether a text that should be a token has a defect. -/
def TokenDefect.IsOf (token : String) : TokenDefect → Prop
  | .empty => token = ""
  | .leadingDigit => ∃ c ∈ token.toList.head?, AsciiDigit c
  | .badCharacter c => ∃ front back : String, token = front ++ String.singleton c ++ back ∧
      ¬ WordChar c ∧ ∀ d ∈ front.toList, WordChar d

/-- The tokens of a namespace stand each behind a slash. -/
def IsTokenOf (ns token : String) : Prop :=
  ∃ tokens : List String, ns = slashed tokens ∧ (∀ t ∈ tokens, '/' ∉ t.toList) ∧ token ∈ tokens

/-- Whether a text that should be a name has a defect, as the defect is worded. -/
def NameDefect.IsOf (name : String) : NameDefect → Prop
  | .tooLong => 255 < name.length
  | .token d => d.IsOf name
  | .notAbsolute => name.toList.head? ≠ some '/'
  | .trailingSlash => ∃ front : String, name = front ++ "/"
  | .repeatedSlash => ∃ before after : String, name = before ++ "//" ++ after
  | .innerToken text d => IsTokenOf name text ∧ d.IsOf text

/-- Whether a check may find a defect in a text that should be a name: it measures a length in
    octets. -/
def NameDefect.FoundIn (name : String) : NameDefect → Prop
  | .tooLong => 255 < name.utf8ByteSize
  | d => d.IsOf name

/-- A text of too many octets, but not of too many characters. -/
def Overcounted (text : String) : Prop := text.length ≤ 255 ∧ 255 < text.utf8ByteSize

theorem NameDefect.FoundIn.isOf {name : String} {d : NameDefect} (h : d.FoundIn name)
    (hcount : d = .tooLong → ¬ Overcounted name) : d.IsOf name := by
  cases d with
  | tooLong => exact not_le.1 fun hlength => hcount rfl ⟨hlength, h⟩
  | token | notAbsolute | trailingSlash | repeatedSlash | innerToken => exact h

/-! ## The checks find defects -/

theorem TokenDefect.isOf_of_of? {token : List Char} {d : TokenDefect}
    (h : TokenDefect.of? token = some d) : d.IsOf (String.ofList token) := by
  cases token with
  | nil =>
    obtain rfl : TokenDefect.empty = d := by simpa [TokenDefect.of?] using h
    rfl
  | cons first rest =>
    rw [TokenDefect.of?] at h
    split at h
    · next hdigit =>
      obtain rfl := Option.some.inj h
      exact ⟨first, by simp, isDigit_iff.1 hdigit⟩
    · obtain ⟨c, hfound, rfl⟩ := Option.map_eq_some_iff.1 h
      obtain ⟨hbad, front, back, hsplit, hfront⟩ := List.find?_eq_some_iff_append.1 hfound
      refine ⟨String.ofList front, String.ofList back, ?_, ?_, ?_⟩
      · rw [hsplit]
        exact String.toList_inj.1 (by simp)
      · rw [← isTokenChar_iff]
        simpa using hbad
      · intro d hd
        rw [String.toList_ofList] at hd
        rw [← isTokenChar_iff]
        simpa using hfront d hd

theorem NameDefect.foundIn_of_nodeNameDefect? {name : String} {d : NameDefect}
    (h : nodeNameDefect? name = some d) : d.FoundIn name := by
  rw [nodeNameDefect?] at h
  split at h
  · next hlong =>
    obtain rfl := Option.some.inj h
    exact hlong
  · obtain ⟨d, hd, rfl⟩ := Option.map_eq_some_iff.1 h
    have hisOf := TokenDefect.isOf_of_of? hd
    rwa [String.ofList_toList] at hisOf

/-- An empty piece of a namespace that does not end in a slash lies between two slashes. -/
theorem exists_doubleSlash {rest : List Char} (hne : rest ≠ []) (hlast : rest.getLast? ≠ some '/')
    (hempty : [] ∈ Text.pieces '/' rest) :
    ∃ before after : List Char, '/' :: rest = before ++ ['/', '/'] ++ after := by
  obtain ⟨front, back, hpieces⟩ := List.append_of_mem hempty
  have hrest := Text.flatMap_pieces '/' rest
  rw [hpieces, List.flatMap_append, List.flatMap_cons] at hrest
  cases back with
  | nil =>
    -- the piece is the last one, so the namespace ends in its slash
    rw [List.flatMap_nil, List.append_nil] at hrest
    cases hfront : front.flatMap ('/' :: ·) with
    | nil =>
      rw [hfront] at hrest
      exact absurd (List.cons.inj hrest).2.symm hne
    | cons c cs =>
      rw [hfront, List.cons_append] at hrest
      refine absurd ?_ hlast
      rw [← (List.cons.inj hrest).2, List.getLast?_append]
      rfl
  | cons piece back =>
    refine ⟨front.flatMap ('/' :: ·), piece ++ back.flatMap ('/' :: ·), ?_⟩
    rw [← hrest, List.flatMap_cons]
    simp

/-- The pieces behind the first slash are the tokens of a namespace. -/
theorem isTokenOf_of_mem_pieces {ns : String} {rest piece : List Char}
    (hns : ns.toList = '/' :: rest) (hpiece : piece ∈ Text.pieces '/' rest) :
    IsTokenOf ns (String.ofList piece) := by
  refine ⟨(Text.pieces '/' rest).map String.ofList, ?_, ?_, List.mem_map_of_mem hpiece⟩
  · apply String.toList_inj.1
    rw [toList_slashed, List.map_map, hns, ← Text.flatMap_pieces '/' rest]
    simp [Function.comp_def]
  · intro token htoken
    obtain ⟨part, hpart, rfl⟩ := List.mem_map.1 htoken
    rw [String.toList_ofList]
    exact Text.not_mem_of_mem_pieces part hpart

theorem notAbsolute_of_ne_cons {ns : String} (h : ∀ rest, ns.toList = '/' :: rest → False) :
    NameDefect.notAbsolute.IsOf ns := by
  intro hhead
  obtain ⟨rest, hrest⟩ := List.head?_eq_some_iff.1 hhead
  exact h rest hrest

theorem trailingSlash_iff {ns : String} {rest : List Char} (hns : ns.toList = '/' :: rest)
    (hne : rest ≠ []) : NameDefect.trailingSlash.IsOf ns ↔ rest.getLast? = some '/' := by
  obtain ⟨c, cs, rfl⟩ := List.exists_cons_of_ne_nil hne
  rw [← List.getLast?_cons_cons (a := '/'), ← hns, List.getLast?_eq_some_iff]
  constructor
  · rintro ⟨front, rfl⟩
    exact ⟨front.toList, by simp⟩
  · rintro ⟨front, hfront⟩
    exact ⟨String.ofList front, String.toList_inj.1 (by simp [hfront])⟩

theorem NameDefect.foundIn_of_namespaceDefect? {ns : String} {d : NameDefect}
    (h : namespaceDefect? ns = some d) : d.FoundIn ns := by
  unfold namespaceDefect? at h
  split at h
  · next rest hns =>
    split at h
    · exact absurd h (by simp)
    next hne =>
    rw [List.isEmpty_iff] at hne
    split at h
    · next hlast =>
      obtain rfl := Option.some.inj h
      exact (trailingSlash_iff hns hne).2 hlast
    next hlast =>
    split at h
    · next hlong =>
      obtain rfl := Option.some.inj h
      exact hlong
    · obtain ⟨piece, hpiece, hdefect⟩ := List.exists_of_findSome?_eq_some h
      rw [segmentDefect?] at hdefect
      split at hdefect
      · next hempty =>
        obtain rfl := Option.some.inj hdefect
        rw [List.isEmpty_iff] at hempty
        obtain ⟨before, after, hslashes⟩ := exists_doubleSlash hne hlast (hempty ▸ hpiece)
        refine ⟨String.ofList before, String.ofList after, String.toList_inj.1 ?_⟩
        rw [hns, hslashes]
        simp
      · obtain ⟨d, hd, rfl⟩ := Option.map_eq_some_iff.1 hdefect
        exact ⟨isTokenOf_of_mem_pieces hns hpiece, TokenDefect.isOf_of_of? hd⟩
  · next hns =>
    obtain rfl := Option.some.inj h
    exact notAbsolute_of_ne_cons hns

theorem nodeNameDefect?_eq_tooLong {name : String} (h : 255 < name.utf8ByteSize) :
    nodeNameDefect? name = some .tooLong := by
  rw [nodeNameDefect?]
  exact if_pos h

/-- The length of a namespace is found to be too great if there are too many octets, after a look at
    its first and its last character. -/
theorem namespaceDefect?_eq_tooLong_iff {ns : String} :
    namespaceDefect? ns = some .tooLong ↔ ¬ NameDefect.notAbsolute.IsOf ns ∧
      ¬ NameDefect.trailingSlash.IsOf ns ∧ 255 < ns.utf8ByteSize := by
  unfold namespaceDefect?
  split
  · next rest hns =>
    have habsolute : ¬ NameDefect.notAbsolute.IsOf ns := by simp [NameDefect.IsOf, hns]
    split
    · next hempty =>
      obtain rfl : ns = "/" := String.toList_inj.1 (by rw [hns, List.isEmpty_iff.1 hempty]; rfl)
      have hshort : ¬ 255 < "/".utf8ByteSize := by decide
      simp [hshort]
    next hne =>
    rw [List.isEmpty_iff] at hne
    rw [trailingSlash_iff hns hne]
    split
    · next hlast => simp [hlast]
    next hlast =>
    split
    · next hlong => exact iff_of_true rfl ⟨habsolute, hlast, hlong⟩
    next hlong =>
    have hnone : (Text.pieces '/' rest).findSome? segmentDefect? ≠ some .tooLong := by
      intro h
      obtain ⟨piece, -, hpiece⟩ := List.exists_of_findSome?_eq_some h
      rw [segmentDefect?] at hpiece
      split at hpiece
      · exact absurd hpiece (by simp)
      · obtain ⟨d, -, hd⟩ := Option.map_eq_some_iff.1 hpiece
        exact absurd hd (by simp)
    exact iff_of_false hnone fun h => hlong h.2.2
  · next hns =>
    simp [notAbsolute_of_ne_cons hns]

/-! ## Every defect is worded in its own way -/

/-- What is common to the wordings of one kind of defect. -/
def TokenDefect.lead : TokenDefect → String
  | .empty => "must not be empty"
  | .leadingDigit => "must not start with a number"
  | .badCharacter _ => "must contain only alphanumeric characters and underscores, found "

/-- What is common to the wordings of one kind of defect. -/
def NameDefect.lead : NameDefect → String
  | .tooLong => "longer than "
  | .token d => d.lead
  | .notAbsolute => "must be absolute"
  | .trailingSlash => "must not end with '/'"
  | .repeatedSlash => "must not contain repeated '/'"
  | .innerToken _ _ => "token "

theorem TokenDefect.lead_prefix_reason (d : TokenDefect) : d.lead.toList <+: d.reason.toList := by
  cases d with
  | empty | leadingDigit => exact List.prefix_rfl
  | badCharacter c =>
    unfold reason lead
    rw [String.toList_append]
    exact List.prefix_append _ _

theorem NameDefect.lead_prefix_reason (d : NameDefect) : d.lead.toList <+: d.reason.toList := by
  cases d with
  | notAbsolute | trailingSlash | repeatedSlash => exact List.prefix_rfl
  | tooLong =>
    have hreason :
        tooLong.reason = "longer than " ++ (toString maxNameLength ++ " characters") := by
      rw [← String.append_assoc]
      rfl
    rw [hreason, String.toList_append]
    exact List.prefix_append _ _
  | token d => exact d.lead_prefix_reason
  | innerToken text d =>
    rw [reason, String.append_assoc, String.append_assoc, String.toList_append]
    exact List.prefix_append _ _

/-- Wordings that are the same agree in what is common to each kind. -/
theorem TokenDefect.leads_of_reason {d d' : TokenDefect} (h : d.reason = d'.reason) :
    d.lead.toList <+: d'.lead.toList ∨ d'.lead.toList <+: d.lead.toList :=
  List.prefix_or_prefix_of_prefix d.lead_prefix_reason (h ▸ d'.lead_prefix_reason)

theorem NameDefect.leads_of_reason {d d' : NameDefect} (h : d.reason = d'.reason) :
    d.lead.toList <+: d'.lead.toList ∨ d'.lead.toList <+: d.lead.toList :=
  List.prefix_or_prefix_of_prefix d.lead_prefix_reason (h ▸ d'.lead_prefix_reason)

theorem TokenDefect.reason_inj {d d' : TokenDefect} (h : d.reason = d'.reason) : d = d' := by
  have hlead := leads_of_reason h
  cases d <;> cases d'
  case badCharacter.badCharacter c c' =>
    unfold reason at h
    rw [Text.quotedChar_inj ((String.append_right_inj _).1 h)]
  all_goals first
    | rfl
    | exact absurd hlead (by simp only [lead]; decide)

theorem NameDefect.reason_inj {d d' : NameDefect} (h : d.reason = d'.reason) : d = d' := by
  have hlead := leads_of_reason h
  cases d <;> cases d'
  case token.token d d' => rw [TokenDefect.reason_inj h]
  case innerToken.innerToken text d text' d' =>
    simp only [reason, String.append_assoc, String.append_right_inj] at h
    obtain ⟨rfl, hrest⟩ := Text.quoted_append_inj h
    rw [String.append_right_inj] at hrest
    rw [TokenDefect.reason_inj hrest]
  -- tokens have three kinds of defects of their own
  case token.tooLong d | token.notAbsolute d | token.trailingSlash d | token.repeatedSlash d
      | token.innerToken d _ _ | tooLong.token d | notAbsolute.token d | trailingSlash.token d
      | repeatedSlash.token d | innerToken.token _ _ d =>
    cases d <;> exact absurd hlead (by simp only [lead, TokenDefect.lead]; decide)
  all_goals first
    | rfl
    | exact absurd hlead (by simp only [lead]; decide)

/-! ## Refusals -/

theorem validateNodeName_eq_error_iff {name : String} {e : ClientError} :
    validateNodeName name = .error e ↔
      ∃ d, nodeNameDefect? name = some d ∧ e = .invalidNodeName name d.reason := by
  rw [validateNodeName]
  cases nodeNameDefect? name <;> simp [eq_comm]

theorem validateNamespace_eq_error_iff {ns : String} {e : ClientError} :
    validateNamespace ns = .error e ↔
      ∃ d, namespaceDefect? ns = some d ∧ e = .invalidNamespace ns d.reason := by
  rw [validateNamespace]
  cases namespaceDefect? ns <;> simp [eq_comm]

/-- **Reasons are true, but for the unit of a length.** A refusal quotes the text and gives the
wording of a defect that was found as its reason; no other defect is worded so. The text has that
defect, unless it has too many octets and not too many characters: the name of a node is then
refused for a length that it does not have, and so is a namespace that is absolute and does not end
in a slash. -/
theorem rejection_reasons (text : String) :
    (∀ e, validateNodeName text = .error e →
      ∃ d : NameDefect, e = .invalidNodeName text d.reason ∧ d.FoundIn text) ∧
    ((∀ d : NameDefect, validateNodeName text = .error (.invalidNodeName text d.reason) →
      d.IsOf text) ↔ ¬ Overcounted text) ∧
    (∀ e, validateNamespace text = .error e →
      ∃ d : NameDefect, e = .invalidNamespace text d.reason ∧ d.FoundIn text) ∧
    ((∀ d : NameDefect, validateNamespace text = .error (.invalidNamespace text d.reason) →
      d.IsOf text) ↔ ¬ (Overcounted text ∧ ¬ NameDefect.notAbsolute.IsOf text ∧
        ¬ NameDefect.trailingSlash.IsOf text)) := by
  refine ⟨?_, ⟨?_, ?_⟩, ?_, ⟨?_, ?_⟩⟩
  · intro e h
    obtain ⟨d, hd, he⟩ := validateNodeName_eq_error_iff.1 h
    exact ⟨d, he, NameDefect.foundIn_of_nodeNameDefect? hd⟩
  · intro htrue hcount
    have hdefect := nodeNameDefect?_eq_tooLong hcount.2
    have hlength := htrue _ (validateNodeName_eq_error_iff.2 ⟨_, hdefect, rfl⟩)
    exact absurd hlength (not_lt.2 hcount.1)
  · intro hcount d h
    obtain ⟨d', hd, he⟩ := validateNodeName_eq_error_iff.1 h
    obtain ⟨-, hreason⟩ := ClientError.invalidNodeName.inj he
    rw [NameDefect.reason_inj hreason]
    exact (NameDefect.foundIn_of_nodeNameDefect? hd).isOf fun _ => hcount
  · intro e h
    obtain ⟨d, hd, he⟩ := validateNamespace_eq_error_iff.1 h
    exact ⟨d, he, NameDefect.foundIn_of_namespaceDefect? hd⟩
  · rintro htrue ⟨hcount, habsolute, hslash⟩
    have hdefect := namespaceDefect?_eq_tooLong_iff.2 ⟨habsolute, hslash, hcount.2⟩
    have hlength := htrue _ (validateNamespace_eq_error_iff.2 ⟨_, hdefect, rfl⟩)
    exact absurd hlength (not_lt.2 hcount.1)
  · intro hcount d h
    obtain ⟨d', hd, he⟩ := validateNamespace_eq_error_iff.1 h
    obtain ⟨-, hreason⟩ := ClientError.invalidNamespace.inj he
    rw [NameDefect.reason_inj hreason]
    refine (NameDefect.foundIn_of_namespaceDefect? hd).isOf ?_
    rintro rfl hfew
    obtain ⟨habsolute, hslash, -⟩ := namespaceDefect?_eq_tooLong_iff.1 hd
    exact hcount ⟨hfew, habsolute, hslash⟩

theorem rejection_reasons_leadingDigit :
    let d : NameDefect := .innerToken "9b" .leadingDigit
    validateNamespace "/a/9b" = .error (.invalidNamespace "/a/9b" d.reason) ∧
      IsTokenOf "/a/9b" "9b" ∧ ∃ c ∈ "9b".toList.head?, AsciiDigit c := by
  intro d
  have hrefused : validateNamespace "/a/9b" = .error (.invalidNamespace "/a/9b" d.reason) := by rfl
  have hcount : ¬ Overcounted "/a/9b" := fun hcount => absurd hcount.2 (by decide)
  obtain ⟨-, -, -, hreasons⟩ := rejection_reasons "/a/9b"
  exact ⟨hrefused, hreasons.2 (fun h => hcount h.1) d hrefused⟩

theorem utf8ByteSize_replicate (n : Nat) (c : Char) :
    (String.ofList (List.replicate n c)).utf8ByteSize = n * c.utf8Size := by
  rw [String.utf8ByteSize_ofList]
  induction n with
  | zero => simp
  | succ n ih => rw [List.replicate_succ, String.utf8Len_cons, ih, Nat.succ_mul]

/-- A name of 128 characters of two octets each is refused for having more than 255 characters. -/
theorem refused_tooLong_short :
    let name := String.ofList (List.replicate 128 'é')
    validateNodeName name = .error (.invalidNodeName name "longer than 255 characters") ∧
      name.length = 128 := by
  intro name
  have hsize : name.utf8ByteSize = 256 := utf8ByteSize_replicate 128 'é'
  have hdefect : nodeNameDefect? name = some .tooLong := by
    rw [nodeNameDefect?, hsize]
    rfl
  refine ⟨validateNodeName_eq_error_iff.2 ⟨.tooLong, hdefect, rfl⟩, ?_⟩
  rw [String.length_ofList, List.length_replicate]

end RobotClient
