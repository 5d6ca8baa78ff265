import Mathlib.Data.List.Sort
import RobotClient.Proofs.Arguments.Composition
import RobotClient.Proofs.Arguments.Grammar

set_option autoImplicit false

/-! # Why a vector is refused

A token of a reserved block stands where a flag may stand, or it is the value of the flag before it;
`Place` tells which, whatever the tokens are. A flag without a value that it can read is complained
about, and the first complaint is reported. Without one, all tokens that stand for a flag and are
none are reported together. Main statement: `Arguments.parse_refusal`. -/

namespace RobotClient

open Text (SplitsAt splitOnce?_eq_none_iff splitOnce?_eq_some_iff)

/-! ## Values that a flag cannot read -/

/-- What follows a flag is no value that it can read: nothing, the mark that closes the block, or a
    text that says nothing after this flag. -/
def Flag.Lacks (flag : Flag) (next : Option String) : Prop :=
  next = none ∨ next = some "--" ∨ ∃ value, next = some value ∧ ∀ s, ¬ flag.Says value s

/-- What is said about a flag, spelled `token`, for what follows it. -/
inductive Flag.Complains (flag : Flag) (token : String) : Option String → String → Prop where
  | missing {next : Option String} : next = none ∨ next = some "--" →
      Complains flag token next
        ("Couldn't parse trailing " ++ token ++ " flag. No " ++ flag.valueName ++ " found.")
  | notAssignment {value : String} : flag = .remap ∨ flag = .parameter → value ≠ "--" →
      (∀ a : Assignment, ¬ a.Written value) → Complains flag token (some value)
        ("Couldn't parse " ++ token ++ " value '" ++ value ++ "': expected [node:]name:=value")
  | emptyLogger {value level : String} : flag = .logLevel → value ≠ "--" →
      SplitsAt ":=" value "" level → Complains flag token (some value)
        ("Couldn't parse log level '" ++ value ++ "': empty logger name")
  | loggerSeverity {value logger level : String} : flag = .logLevel → value ≠ "--" →
      SplitsAt ":=" value logger level → logger ≠ "" → (∀ s : Severity, ¬ s.Spelled level) →
      Complains flag token (some value)
        ("Couldn't parse log level '" ++ value ++ "': "
          ++ ("unknown log severity '" ++ Text.asciiLower level ++ "'"))
  | severity {value : String} : flag = .logLevel → value ≠ "--" →
      (∀ left right, value ≠ left ++ ":=" ++ right) → (∀ s : Severity, ¬ s.Spelled value) →
      Complains flag token (some value)
        ("Couldn't parse log level '" ++ value ++ "': "
          ++ ("unknown log severity '" ++ Text.asciiLower value ++ "'"))

theorem Severity.ofText?_eq_none_iff {text : String} :
    Severity.ofText? text = none ↔ ∀ s : Severity, ¬ s.Spelled text := by
  simp only [Option.eq_none_iff_forall_ne_some, Ne, Severity.ofText?_eq_some_iff]

theorem Assignment.ofText?_eq_none_iff {text : String} :
    Assignment.ofText? text = none ↔ ∀ a : Assignment, ¬ a.Written text := by
  simp only [Option.eq_none_iff_forall_ne_some, Ne, Assignment.ofText?_eq_some_iff]

theorem Flag.complains_of_read {flag : Flag} {token value : String} {d : ArgumentDefect}
    (hv : value ≠ "--") (hread : flag.read token value = .error d) :
    flag.Complains token (some value) d.message := by
  cases flag with
  | remap | parameter =>
    rw [Flag.read] at hread
    cases htext : Assignment.ofText? value with
    | some a => simp [htext] at hread
    | none =>
      obtain rfl : ArgumentDefect.notAssignment token value = d := by simpa [htext] using hread
      exact .notAssignment (by simp) hv (Assignment.ofText?_eq_none_iff.1 htext)
  | logLevel =>
    rw [Flag.read, Setting.ofLogLevel] at hread
    split at hread
    · next logger level hmark =>
      rw [splitOnce?_eq_some_iff] at hmark
      split at hread
      · next hlogger =>
        obtain rfl := Except.error.inj hread
        exact .emptyLogger rfl hv (hlogger ▸ hmark)
      · next hlogger =>
        split at hread
        · simp at hread
        · next hnone =>
          obtain rfl := Except.error.inj hread
          exact .loggerSeverity rfl hv hmark hlogger (Severity.ofText?_eq_none_iff.1 hnone)
    · next hmark =>
      split at hread
      · simp at hread
      · next hnone =>
        obtain rfl := Except.error.inj hread
        exact .severity rfl hv (splitOnce?_eq_none_iff.1 hmark)
          (Severity.ofText?_eq_none_iff.1 hnone)
  | parameterFile | logConfigFile | logFileName | enclave => simp [Flag.read] at hread

/-- The outcome of reading what follows a flag. -/
def Flag.result (flag : Flag) (token : String) : Option String → Except ArgumentDefect Setting
  | none => .error (.missingValue token flag)
  | some value =>
    if value = blockClose then .error (.missingValue token flag) else flag.read token value

theorem Flag.result_of_missing {flag : Flag} {token : String} {next : Option String}
    (h : next = none ∨ next = some "--") :
    flag.result token next = .error (.missingValue token flag) := by
  rcases h with rfl | rfl <;> rfl

theorem Flag.result_of_ne {flag : Flag} {token value : String} (hv : value ≠ "--") :
    flag.result token (some value) = flag.read token value := if_neg hv

/-- What is said about a flag is the defect that its reader finds. -/
theorem Flag.complains_iff {flag : Flag} {token detail : String} {next : Option String} :
    flag.Complains token next detail ↔
      ∃ d, flag.result token next = .error d ∧ d.message = detail := by
  constructor
  · intro h
    cases h with
    | missing h => exact ⟨_, Flag.result_of_missing h, rfl⟩
    | @notAssignment value hflag hv hnone =>
      refine ⟨.notAssignment token value, ?_, rfl⟩
      rw [Flag.result_of_ne hv]
      rcases hflag with rfl | rfl <;>
        rw [Flag.read, Assignment.ofText?_eq_none_iff.2 hnone] <;> rfl
    | @emptyLogger value _ hflag hv hmark =>
      subst hflag
      refine ⟨.emptyLogger value, ?_, rfl⟩
      rw [Flag.result_of_ne hv]
      simp [Flag.read, Setting.ofLogLevel, splitOnce?_eq_some_iff.2 hmark]
    | @loggerSeverity value _ level hflag hv hmark hlogger hnone =>
      subst hflag
      refine ⟨.unknownSeverity value level, ?_, rfl⟩
      simp only [Flag.result_of_ne hv, Flag.read, Setting.ofLogLevel,
        splitOnce?_eq_some_iff.2 hmark, if_neg hlogger, Severity.ofText?_eq_none_iff.2 hnone]
    | @severity value hflag hv hmark hnone =>
      subst hflag
      refine ⟨.unknownSeverity value value, ?_, rfl⟩
      simp only [Flag.result_of_ne hv, Flag.read, Setting.ofLogLevel,
        splitOnce?_eq_none_iff.2 hmark, Severity.ofText?_eq_none_iff.2 hnone]
  · rintro ⟨d, hresult, rfl⟩
    by_cases hmissing : next = none ∨ next = some "--"
    · rw [Flag.result_of_missing hmissing] at hresult
      obtain rfl := Except.error.inj hresult
      exact .missing hmissing
    obtain ⟨value, rfl⟩ : ∃ value, next = some value :=
      Option.ne_none_iff_exists'.1 fun h => hmissing (.inl h)
    have hv : value ≠ "--" := fun h => hmissing (.inr (congrArg some h))
    rw [Flag.result_of_ne hv] at hresult
    exact Flag.complains_of_read hv hresult

/-- Something is said about a flag exactly if it lacks a value. -/
theorem Flag.exists_complains_iff {flag : Flag} {token : String} {next : Option String} :
    (∃ detail, flag.Complains token next detail) ↔ flag.Lacks next := by
  have herror : (∃ detail, flag.Complains token next detail) ↔
      ∀ s, flag.result token next ≠ .ok s := by
    simp only [Flag.complains_iff]
    cases flag.result token next <;> simp
  rw [herror]
  cases next with
  | none => simp [Flag.result, Flag.Lacks]
  | some value =>
    by_cases hv : value = "--"
    · simp [Flag.result, Flag.Lacks, hv, blockClose]
    · simp [Flag.result_of_ne hv, Flag.Lacks, hv, Flag.read_eq_ok_iff]

/-! ## What is said at each index -/

namespace Arguments

/-- What a token says at its place, with the next token in sight. The value of a flag and the marks
    around blocks say nothing. -/
def Place.said : Place → String → Option String → Option Item
  | .outside, token, _ => if token = blockOpen then none else some (.plain token)
  | .atValue, _, _ => none
  | .inside, token, next =>
    if token = blockClose ∨ token = blockOpen then none
    else match Flag.ofToken? token with
      | some flag => some (Item.ofResult (flag.result token next))
      | none => some ((Setting.ofToggle? token).elim (.unknown token) .setting)

/-- What is said at an index of a vector that is read from a place on. -/
def Place.saidAt (place : Place) (tokens : List String) (i : Nat) : Option Item :=
  tokens[i]?.bind fun token => (place.after (tokens.take i)).said token tokens[i + 1]?

theorem Place.saidAt_zero (place : Place) (token : String) (tokens : List String) :
    place.saidAt (token :: tokens) 0 = place.said token tokens[0]? := rfl

theorem Place.saidAt_succ (place : Place) (token : String) (tokens : List String) (i : Nat) :
    place.saidAt (token :: tokens) (i + 1) = (place.next token).saidAt tokens i := rfl

/-- The items that are said at the indices of a vector, in order. -/
def Place.allSaid (place : Place) (tokens : List String) : List Item :=
  (List.range tokens.length).filterMap (place.saidAt tokens)

theorem Place.allSaid_cons (place : Place) (token : String) (tokens : List String) :
    place.allSaid (token :: tokens)
      = (place.said token tokens[0]?).toList ++ (place.next token).allSaid tokens := by
  have hlater : place.saidAt (token :: tokens) ∘ (· + 1) = (place.next token).saidAt tokens :=
    funext fun i => place.saidAt_succ token tokens i
  rw [allSaid, List.length_cons, List.range_succ_eq_map, List.filterMap_cons, List.filterMap_map,
    saidAt_zero]
  cases place.said token tokens[0]? <;> simp [allSaid, ← hlater]

/-- A vector has the items that are said at its indices. -/
theorem items_eq_allSaid (inBlock : Bool) (tokens : List String) :
    items inBlock tokens = (if inBlock then Place.inside else .outside).allSaid tokens := by
  fun_induction items inBlock tokens with
  | case1 inBlock => rfl
  | case2 tokens ih => simpa [Place.allSaid_cons, Place.said, Place.next] using ih
  | case3 token tokens hplain ih =>
    simpa [Place.allSaid_cons, Place.said, Place.next, hplain] using ih
  | case4 inBlock tokens hin ih =>
    obtain rfl : inBlock = true := by simpa using hin
    simpa [Place.allSaid_cons, Place.said, Place.next] using ih
  | case5 inBlock tokens hin hclose ih =>
    obtain rfl : inBlock = true := by simpa using hin
    have hflag : Flag.ofToken? blockOpen = none := by decide
    simpa [Place.allSaid_cons, Place.said, Place.next, hclose, hflag] using ih
  | case6 inBlock token hin hclose hopen flag hflag =>
    obtain rfl : inBlock = true := by simpa using hin
    simp [Place.allSaid, Place.saidAt, Place.after_nil, Place.said, hclose, hopen, hflag,
      Flag.result, Item.ofResult]
  | case7 inBlock token hin hclose hopen flag hflag tokens ih =>
    -- the mark that stands for the value says nothing, as it does anywhere in a block
    obtain rfl : inBlock = true := by simpa using hin
    simpa [Place.allSaid_cons, Place.said, Place.next, hclose, hopen, hflag, Flag.result,
      Item.ofResult] using ih
  | case8 inBlock token hin hclose hopen flag hflag value tokens hvalue ih =>
    obtain rfl : inBlock = true := by simpa using hin
    simpa [Place.allSaid_cons, Place.said, Place.next, hclose, hopen, hflag, hvalue,
      Flag.result] using ih
  | case9 inBlock token tokens hin hclose hopen hflag setting htoggle ih =>
    obtain rfl : inBlock = true := by simpa using hin
    simpa [Place.allSaid_cons, Place.said, Place.next, hclose, hopen, hflag, htoggle] using ih
  | case10 inBlock token tokens hin hclose hopen hflag htoggle ih =>
    obtain rfl : inBlock = true := by simpa using hin
    simpa [Place.allSaid_cons, Place.said, Place.next, hclose, hopen, hflag, htoggle] using ih

/-! ## Places of defects and of unknown tokens -/

/-- The token stands in a reserved block, where a flag may stand. -/
def FlagAt (tokens : List String) (i : Nat) (token : String) : Prop :=
  tokens[i]? = some token ∧ Place.outside.after (tokens.take i) = .inside

/-- The flag lacks a value. -/
def LacksAt (tokens : List String) (i : Nat) : Prop :=
  ∃ token flag, FlagAt tokens i token ∧ token ∈ Flag.spellings flag ∧ flag.Lacks tokens[i + 1]?

/-- The flag lacks a value, and this is what is said about it. -/
def ComplainsAt (tokens : List String) (i : Nat) (detail : String) : Prop :=
  ∃ token flag, FlagAt tokens i token ∧ token ∈ Flag.spellings flag ∧
    flag.Complains token tokens[i + 1]? detail

/-- The token is no mark and no flag. -/
def Unrecognized (token : String) : Prop :=
  token ≠ "--" ∧ token ≠ "--ros-args" ∧ (∀ flag, token ∉ Flag.spellings flag) ∧
    ∀ setting, (token, setting) ∉ Setting.toggles

/-- The token stands for a flag and is none. -/
def UnknownAt (tokens : List String) (i : Nat) (token : String) : Prop :=
  FlagAt tokens i token ∧ Unrecognized token

theorem exists_complainsAt_iff {tokens : List String} {i : Nat} :
    (∃ detail, ComplainsAt tokens i detail) ↔ LacksAt tokens i := by
  constructor
  · rintro ⟨detail, token, flag, hat, hflag, h⟩
    exact ⟨token, flag, hat, hflag, Flag.exists_complains_iff.1 ⟨detail, h⟩⟩
  · rintro ⟨token, flag, hat, hflag, h⟩
    obtain ⟨detail, h⟩ := Flag.exists_complains_iff.2 h
    exact ⟨detail, token, flag, hat, hflag, h⟩

theorem Place.said_eq_defect_iff {place : Place} {token : String} {next : Option String}
    {d : ArgumentDefect} :
    place.said token next = some (.defect d) ↔
      place = .inside ∧
        ∃ flag, token ∈ Flag.spellings flag ∧ flag.result token next = .error d := by
  simp only [← Flag.ofToken?_eq_some_iff]
  cases place with
  | outside | atValue => simp [said]
  | inside =>
    have hclose : Flag.ofToken? blockClose = none := by decide
    have hopen : Flag.ofToken? blockOpen = none := by decide
    rw [said]
    split
    · next hmark => rcases hmark with rfl | rfl <;> simp [hclose, hopen]
    · cases hflag : Flag.ofToken? token with
      | none => cases Setting.ofToggle? token <;> simp
      | some flag => cases hresult : flag.result token next <;> simp [Item.ofResult, hresult]

theorem Place.said_eq_unknown_iff {place : Place} {token text : String} {next : Option String} :
    place.said token next = some (.unknown text) ↔
      place = .inside ∧ Unrecognized token ∧ text = token := by
  have hflag : Flag.ofToken? token = none ↔ ∀ flag, token ∉ Flag.spellings flag := by
    simp only [Option.eq_none_iff_forall_ne_some, Ne, Flag.ofToken?_eq_some_iff]
  have htoggle : Setting.ofToggle? token = none ↔ ∀ s, (token, s) ∉ Setting.toggles := by
    simp only [Option.eq_none_iff_forall_ne_some, Ne, Setting.ofToggle?_eq_some_iff]
  rw [Unrecognized, ← hflag, ← htoggle]
  cases place with
  | outside | atValue => simp [said]
  | inside =>
    rw [said]
    split
    · next hmark => rcases hmark with rfl | rfl <;> simp [blockClose, blockOpen]
    · next hmark =>
      obtain ⟨hclose, hopen⟩ := not_or.1 hmark
      cases Flag.ofToken? token with
      | some flag =>
        cases hresult : flag.result token next <;> simp [Item.ofResult, hresult]
      | none =>
        cases Setting.ofToggle? token <;>
          simp [eq_comm, show token ≠ "--" from hclose, show token ≠ "--ros-args" from hopen]

/-- A defect is said where a flag is complained about, and is what is said about it. -/
theorem complainsAt_iff {tokens : List String} {i : Nat} {detail : String} :
    ComplainsAt tokens i detail ↔
      ∃ d, Place.outside.saidAt tokens i = some (.defect d) ∧ d.message = detail := by
  simp only [Place.saidAt, Option.bind_eq_some_iff, Place.said_eq_defect_iff, ComplainsAt, FlagAt,
    Flag.complains_iff]
  constructor
  · rintro ⟨token, flag, ⟨hat, hplace⟩, hflag, d, hresult, hd⟩
    exact ⟨d, ⟨token, hat, hplace, flag, hflag, hresult⟩, hd⟩
  · rintro ⟨d, ⟨token, hat, hplace, flag, hflag, hresult⟩, hd⟩
    exact ⟨token, flag, ⟨hat, hplace⟩, hflag, d, hresult, hd⟩

theorem unknownAt_iff {tokens : List String} {i : Nat} {token : String} :
    UnknownAt tokens i token ↔ Place.outside.saidAt tokens i = some (.unknown token) := by
  simp only [Place.saidAt, Option.bind_eq_some_iff, Place.said_eq_unknown_iff, UnknownAt, FlagAt]
  constructor
  · rintro ⟨⟨hat, hplace⟩, hnone⟩
    exact ⟨token, hat, hplace, hnone, rfl⟩
  · rintro ⟨token, hat, hplace, hnone, rfl⟩
    exact ⟨⟨hat, hplace⟩, hnone⟩

/-! ## The defects and the unknown tokens of a vector -/

/-- The first result over an initial segment of the indices stands at the first index that has
    one. -/
theorem filterMap_range_eq_cons {α : Type} {n : Nat} {f : Nat → Option α} {a : α} {rest : List α}
    (h : (List.range n).filterMap f = a :: rest) : ∃ i, f i = some a ∧ ∀ j < i, f j = none := by
  obtain ⟨front, i, back, hsplit, hnone, hi, -⟩ := List.filterMap_eq_cons_iff.1 h
  refine ⟨i, hi, fun j hj => hnone j ?_⟩
  have hin : i ∈ List.range n := by simp [hsplit]
  have hjn : j ∈ front ++ i :: back := hsplit ▸ List.mem_range.2 (hj.trans (List.mem_range.1 hin))
  -- what comes after an index is larger
  have hlater : ∀ k ∈ back, i < k := by
    have hsorted : (front ++ i :: back).Pairwise (· < ·) := hsplit ▸ List.pairwise_lt_range
    exact (List.pairwise_cons.1 (List.pairwise_append.1 hsorted).2.1).1
  rcases List.mem_append.1 hjn with hfront | hback
  · exact hfront
  · rcases List.mem_cons.1 hback with rfl | hback
    · exact absurd hj (lt_irrefl j)
    · exact absurd hj (hlater j hback).not_gt

theorem map_some_filterMap {α β : Type} (f : α → Option β) (as : List α) :
    (as.filterMap f).map some = (as.filter fun a => (f a).isSome).map f := by
  induction as with
  | nil => rfl
  | cons a as ih => cases h : f a <;> simp [h, ih]

/-- The defect that is said at an index. -/
def defectAt? (tokens : List String) (i : Nat) : Option ArgumentDefect :=
  (Place.outside.saidAt tokens i).bind fun | .defect d => some d | _ => none

/-- The unknown token that is said at an index. -/
def unknownAt? (tokens : List String) (i : Nat) : Option String :=
  (Place.outside.saidAt tokens i).bind fun | .unknown token => some token | _ => none

theorem defectAt?_eq_some_iff {tokens : List String} {i : Nat} {d : ArgumentDefect} :
    defectAt? tokens i = some d ↔ Place.outside.saidAt tokens i = some (.defect d) := by
  rw [defectAt?]
  cases Place.outside.saidAt tokens i with
  | none => simp
  | some item => cases item <;> simp

theorem unknownAt?_eq_some_iff {tokens : List String} {i : Nat} {token : String} :
    unknownAt? tokens i = some token ↔ UnknownAt tokens i token := by
  rw [unknownAt_iff, unknownAt?]
  cases Place.outside.saidAt tokens i with
  | none => simp
  | some item => cases item <;> simp

theorem defects_items (tokens : List String) :
    Item.defects (items false tokens)
      = (List.range tokens.length).filterMap (defectAt? tokens) := by
  rw [items_eq_allSaid, Item.defects, Place.allSaid, List.filterMap_filterMap]
  rfl

theorem unknowns_items (tokens : List String) :
    Item.unknowns (items false tokens)
      = (List.range tokens.length).filterMap (unknownAt? tokens) := by
  rw [items_eq_allSaid, Item.unknowns, Place.allSaid, List.filterMap_filterMap]
  rfl

/-- The first defect is what is said about the leftmost flag that lacks a value. -/
theorem complainsAt_of_defects {tokens : List String} {d : ArgumentDefect}
    {rest : List ArgumentDefect} (h : Item.defects (items false tokens) = d :: rest) :
    ∃ i, ComplainsAt tokens i d.message ∧ ∀ j < i, ¬ LacksAt tokens j := by
  rw [defects_items] at h
  obtain ⟨i, hi, hfirst⟩ := filterMap_range_eq_cons h
  refine ⟨i, complainsAt_iff.2 ⟨d, defectAt?_eq_some_iff.1 hi, rfl⟩, ?_⟩
  intro j hj hlacks
  obtain ⟨detail, hcomplains⟩ := exists_complainsAt_iff.2 hlacks
  obtain ⟨d', hsaid, -⟩ := complainsAt_iff.1 hcomplains
  have hnone := hfirst j hj
  rw [defectAt?_eq_some_iff.2 hsaid] at hnone
  exact absurd hnone (by simp)

theorem defects_eq_nil_iff {tokens : List String} :
    Item.defects (items false tokens) = [] ↔ ∀ i, ¬ LacksAt tokens i := by
  constructor
  · intro h i hlacks
    obtain ⟨detail, hcomplains⟩ := exists_complainsAt_iff.2 hlacks
    obtain ⟨d, hsaid, -⟩ := complainsAt_iff.1 hcomplains
    obtain ⟨token, hat, -⟩ := Option.bind_eq_some_iff.1 hsaid
    rw [defects_items, List.filterMap_eq_nil_iff] at h
    have hnone := h i (List.mem_range.2 (List.getElem?_eq_some_iff.1 hat).1)
    rw [defectAt?_eq_some_iff.2 hsaid] at hnone
    exact absurd hnone (by simp)
  · intro h
    cases hdefects : Item.defects (items false tokens) with
    | nil => rfl
    | cons d rest =>
      obtain ⟨i, hi, -⟩ := complainsAt_of_defects hdefects
      exact absurd (exists_complainsAt_iff.1 ⟨_, hi⟩) (h i)

/-- The tokens at the given indices, where all unknown tokens stand and no others. -/
def UnknownsAt (tokens : List String) (positions : List Nat) (unknown : List String) : Prop :=
  positions.Pairwise (· < ·) ∧ (∀ i, i ∈ positions ↔ ∃ token, UnknownAt tokens i token) ∧
    unknown.map some = positions.map (tokens[·]?)

theorem unknownsAt_unknowns (tokens : List String) :
    ∃ positions, UnknownsAt tokens positions (Item.unknowns (items false tokens)) := by
  rw [unknowns_items]
  refine ⟨(List.range tokens.length).filter fun i => (unknownAt? tokens i).isSome,
    List.pairwise_lt_range.filter _, ?_, ?_⟩
  · intro i
    rw [List.mem_filter, Option.isSome_iff_exists, List.mem_range]
    simp only [unknownAt?_eq_some_iff, and_iff_right_iff_imp]
    rintro ⟨token, ⟨hat, -⟩, -⟩
    exact (List.getElem?_eq_some_iff.1 hat).1
  · rw [map_some_filterMap]
    refine List.map_congr_left fun i hi => ?_
    obtain ⟨token, htoken⟩ := Option.isSome_iff_exists.1 (List.mem_filter.1 hi).2
    rw [htoken, (unknownAt?_eq_some_iff.1 htoken).1.1]

theorem UnknownsAt.unique {tokens unknown unknown' : List String} {positions positions' : List Nat}
    (h : UnknownsAt tokens positions unknown) (h' : UnknownsAt tokens positions' unknown') :
    unknown = unknown' := by
  obtain ⟨hsorted, hmem, heq⟩ := h
  obtain ⟨hsorted', hmem', heq'⟩ := h'
  obtain rfl : positions = positions' :=
    hsorted.eq_of_mem_iff hsorted' fun i => (hmem i).trans (hmem' i).symm
  exact List.map_injective_iff.2 (Option.some_injective _) (heq.trans heq'.symm)

theorem unknowns_eq_iff {tokens unknown : List String} :
    Item.unknowns (items false tokens) = unknown ↔
      ∃ positions, UnknownsAt tokens positions unknown := by
  obtain ⟨positions, hunknowns⟩ := unknownsAt_unknowns tokens
  constructor
  · rintro rfl
    exact ⟨positions, hunknowns⟩
  · rintro ⟨positions', h⟩
    exact hunknowns.unique h

theorem unknowns_eq_nil_iff {tokens : List String} :
    Item.unknowns (items false tokens) = [] ↔ ∀ i token, ¬ UnknownAt tokens i token := by
  obtain ⟨positions, -, hmem, heq⟩ := unknownsAt_unknowns tokens
  have hlength := congrArg List.length heq
  rw [List.length_map, List.length_map] at hlength
  rw [← List.length_eq_zero_iff, hlength, List.length_eq_zero_iff, List.eq_nil_iff_forall_not_mem]
  simp only [hmem, not_exists]

/-! ## The error that is reported -/

theorem ofItems?_eq_invalid_iff {items : List Item} {detail : String} :
    ofItems? items = .error (.invalidArguments detail) ↔
      ∃ d rest, Item.defects items = d :: rest ∧ d.message = detail := by
  rw [ofItems?]
  cases Item.defects items with
  | cons d rest => simp
  | nil => cases Item.unknowns items <;> simp

theorem ofItems?_eq_unknown_iff {items : List Item} {unknown : List String} :
    ofItems? items = .error (.unknownArguments unknown) ↔
      Item.defects items = [] ∧ unknown ≠ [] ∧ Item.unknowns items = unknown := by
  rw [ofItems?]
  cases Item.defects items with
  | cons d rest => simp
  | nil =>
    cases Item.unknowns items with
    | nil => simp +contextual [eq_comm]
    | cons token tokens =>
      simp only [Except.error.injEq, ClientError.unknownArguments.injEq, true_and]
      exact ⟨fun h => ⟨h ▸ List.cons_ne_nil _ _, h⟩, fun h => h.2⟩

theorem parse_eq_invalid_iff {tokens : List String} {detail : String} :
    parse tokens = .error (.invalidArguments detail) ↔
      ∃ i, ComplainsAt tokens i detail ∧ ∀ j < i, ¬ LacksAt tokens j := by
  rw [parse, ofItems?_eq_invalid_iff]
  constructor
  · rintro ⟨d, rest, hdefects, rfl⟩
    exact complainsAt_of_defects hdefects
  · rintro ⟨i, hi, hfirst⟩
    have hlacks := exists_complainsAt_iff.1 ⟨detail, hi⟩
    obtain ⟨d, rest, hdefects⟩ := List.exists_cons_of_ne_nil
      (mt defects_eq_nil_iff.1 fun h => h i hlacks)
    refine ⟨d, rest, hdefects, ?_⟩
    obtain ⟨j, hj, hfirst'⟩ := complainsAt_of_defects hdefects
    have hlacks' := exists_complainsAt_iff.1 ⟨_, hj⟩
    obtain rfl : i = j := by
      rcases Nat.lt_trichotomy i j with h | h | h
      · exact absurd hlacks (hfirst' i h)
      · exact h
      · exact absurd hlacks' (hfirst j h)
    -- one flag is complained about in one way
    obtain ⟨d₁, hsaid, rfl⟩ := complainsAt_iff.1 hi
    obtain ⟨d₂, hsaid', heq⟩ := complainsAt_iff.1 hj
    rw [hsaid] at hsaid'
    obtain rfl : d₁ = d₂ := by simpa using hsaid'
    exact heq.symm

theorem parse_eq_unknown_iff {tokens unknown : List String} :
    parse tokens = .error (.unknownArguments unknown) ↔
      (∀ i, ¬ LacksAt tokens i) ∧ unknown ≠ [] ∧
        ∃ positions, UnknownsAt tokens positions unknown := by
  rw [parse, ofItems?_eq_unknown_iff, defects_eq_nil_iff, unknowns_eq_iff]

theorem exists_parse_eq_ok_iff {tokens : List String} :
    (∃ p, parse tokens = .ok p) ↔
      (∀ i, ¬ LacksAt tokens i) ∧ ∀ i token, ¬ UnknownAt tokens i token := by
  simp only [parse, ofItems?_eq_ok_iff, ← defects_eq_nil_iff, ← unknowns_eq_nil_iff,
    exists_and_left, exists_eq, and_true]

/-- **Which error is reported.** A vector is refused for a flag without a value, or with one that it
cannot read, exactly if there is one, and then for the leftmost, with a message that names the flag
as it is spelled, the value, or both; the unknown tokens around it do not matter. Without such a
flag it is refused exactly if tokens stand for flags and are none, and those of all blocks are
named in order, each as often as it stands there. Every other vector is accepted. Whoever asks for
the plain arguments alone gets the same error. -/
theorem parse_refusal (tokens : List String) :
    ((∃ detail, parse tokens = .error (.invalidArguments detail)) ↔ ∃ i, LacksAt tokens i) ∧
    (∀ detail, parse tokens = .error (.invalidArguments detail) ↔
      ∃ i, ComplainsAt tokens i detail ∧ ∀ j < i, ¬ LacksAt tokens j) ∧
    ((∃ unknown, parse tokens = .error (.unknownArguments unknown)) ↔
      (∀ i, ¬ LacksAt tokens i) ∧ ∃ i token, UnknownAt tokens i token) ∧
    (∀ unknown, parse tokens = .error (.unknownArguments unknown) ↔
      (∀ i, ¬ LacksAt tokens i) ∧ unknown ≠ [] ∧
        ∃ positions, UnknownsAt tokens positions unknown) ∧
    ((∃ p, parse tokens = .ok p) ↔
      (∀ i, ¬ LacksAt tokens i) ∧ ∀ i token, ¬ UnknownAt tokens i token) ∧
    ∀ e, plainArguments tokens = .error e ↔ parse tokens = .error e := by
  refine ⟨?_, fun _ => parse_eq_invalid_iff, ?_, fun _ => parse_eq_unknown_iff,
    exists_parse_eq_ok_iff, ?_⟩
  · have hsome : (∃ i, LacksAt tokens i) ↔ Item.defects (items false tokens) ≠ [] := by
      simp [Ne, defects_eq_nil_iff]
    rw [hsome]
    simp only [parse, ofItems?_eq_invalid_iff]
    cases Item.defects (items false tokens) <;> simp
  · have hsome : (∃ i token, UnknownAt tokens i token) ↔
        Item.unknowns (items false tokens) ≠ [] := by
      simp [Ne, unknowns_eq_nil_iff]
    rw [hsome, ← defects_eq_nil_iff]
    simp only [parse, ofItems?_eq_unknown_iff]
    simp only [exists_and_left, exists_eq_right']
  · intro e
    rw [plainArguments]
    cases parse tokens <;> simp [Except.map]

example : parse ["--ros-args", "--nope", "-r", "-e", "--log-level"]
    = .error (.invalidArguments "Couldn't parse -r value '-e': expected [node:]name:=value") := by
  rfl

end Arguments
end RobotClient
