import RobotClient.Arguments.Reader
import RobotClient.Proofs.Arguments.Canonical

set_option autoImplicit false

/-! # Assignments

The mark `:=` between the two sides of an assignment shares its colon with the mark that ends a
node, and either side may hold more of both. Which texts are assignments, and of what, is told here
by where these marks may stand (`Assignment.Splits`). A text is an assignment in one way at most,
and in the other cases a flag that takes an assignment complains about it. Main statement:
`Assignment.splits_uniquely`. -/

namespace RobotClient

open Text (SplitsAt Unbordered splitsAt_iff_of_unbordered)

/-! ## Parts -/

/-- What stands in front of the mark between the sides of an assignment. -/
def Assignment.target (a : Assignment) : String :=
  match a.node with
  | some node => node ++ ":" ++ a.name
  | none => a.name

/-- The text has the parts of the assignment, with the mark between the sides at its first place,
    and the colon behind the node at its first place. -/
structure Assignment.Splits (a : Assignment) (text : String) : Prop where
  eq_append : text = a.target ++ ":=" ++ a.value
  unmarked (before after : String) : a.target ≠ before ++ ":=" ++ after
  name_ne_empty : a.name ≠ ""
  value_ne_empty : a.value ≠ ""
  node_ne_empty : a.node ≠ some ""
  node_colon_free {node : String} : a.node = some node → ':' ∉ node.toList
  name_colon_free : a.node = none → ':' ∉ a.name.toList

theorem unbordered_assign : Unbordered ":=" := by
  intro front border back hfront hborder
  match front, border with
  | [], _ => exact .inl rfl
  | _, [] => exact .inr rfl
  | [c], [d] =>
    -- the one character would be both the front and the end of the mark
    have hcolon : ':' = d := by simpa using congrArg List.head? hborder
    have hequals : '=' = d := by simpa using congrArg List.getLast? hfront
    exact absurd (hcolon.trans hequals.symm) (by decide)
  | _ :: _ :: _, _ :: _ => simp at hfront
  | [_], _ :: _ :: _ => simp at hfront

theorem Assignment.written_iff_splits {a : Assignment} {text : String} :
    a.Written text ↔ a.Splits text := by
  have hmark : ∀ {left right : String}, SplitsAt ":=" text left right ↔
      text = left ++ ":=" ++ right ∧ ∀ before after, left ≠ before ++ ":=" ++ after :=
    splitsAt_iff_of_unbordered unbordered_assign (by decide)
  constructor
  · intro h
    cases h with
    | forAll hsplit hfree hname hvalue =>
      obtain ⟨heq, hfirst⟩ := hmark.1 hsplit
      exact ⟨heq, hfirst, hname, hvalue, by simp, by simp, fun _ => hfree⟩
    | forNode hsplit hfree hnode hname hvalue =>
      obtain ⟨heq, hfirst⟩ := hmark.1 hsplit
      refine ⟨heq, hfirst, hname, hvalue, by simpa using hnode, ?_, by simp⟩
      rintro _ ⟨⟩
      exact hfree
  · intro h
    obtain ⟨node, name, value⟩ := a
    have hsplit := hmark.2 ⟨h.eq_append, h.unmarked⟩
    cases node with
    | none => exact .forAll hsplit (h.name_colon_free rfl) h.name_ne_empty h.value_ne_empty
    | some node =>
      have hnode : node ≠ "" := fun hnil => h.node_ne_empty (congrArg some hnil)
      exact .forNode hsplit (h.node_colon_free rfl) hnode h.name_ne_empty h.value_ne_empty

/-! ## Reading -/

namespace Assignment

theorem ofText?_eq_some_iff_splits {a : Assignment} {text : String} :
    ofText? text = some a ↔ a.Splits text :=
  ofText?_eq_some_iff.trans written_iff_splits

theorem Splits.toText_eq {a : Assignment} {text : String} (h : a.Splits text) :
    a.toText = text :=
  (written_iff_splits.2 h).eq_toText.symm

theorem read_of_splits {a : Assignment} {text : String} (h : a.Splits text) (token : String) :
    Flag.remap.read token text = .ok (.remap a) ∧
      Flag.parameter.read token text = .ok (.parameter a) := by
  rw [Flag.read, Flag.read, ofText?_eq_some_iff_splits.2 h]
  exact ⟨rfl, rfl⟩

/-- A flag complains about a text that is no assignment. -/
theorem read_of_not_splits {flag : Flag} {text : String} (hflag : flag = .remap ∨ flag = .parameter)
    (h : ∀ a : Assignment, ¬ a.Splits text) (token : String) :
    flag.read token text = .error (.notAssignment token text) := by
  have hnone : ofText? text = none :=
    Option.eq_none_iff_forall_ne_some.2 fun a ha => h a (ofText?_eq_some_iff_splits.1 ha)
  rcases hflag with rfl | rfl <;> rw [Flag.read, hnone] <;> rfl

theorem parse_of_not_splits {flag : Flag} {token text : String}
    (hflag : flag = .remap ∨ flag = .parameter) (htoken : token ∈ flag.spellings)
    (htext : text ≠ "--") (h : ∀ a : Assignment, ¬ a.Splits text) (rest : List String) :
    Arguments.parse ("--ros-args" :: token :: text :: rest) = .error (.invalidArguments
      ("Couldn't parse " ++ token ++ " value '" ++ text ++ "': expected [node:]name:=value")) := by
  have hitems : items false ("--ros-args" :: token :: text :: rest)
      = .defect (.notAssignment token text) :: items true rest := by
    rw [← show blockOpen = "--ros-args" from rfl, items, if_pos rfl, if_pos rfl,
      items_option htoken htext, read_of_not_splits hflag h token]
    rfl
  rw [Arguments.parse, hitems]
  rfl

/-- **An assignment is split in one way only.** A text is read as an assignment exactly if it has
its parts, and then these are its only parts: written down they are the text, and that is read as
the same parts again. A text without such parts is refused as the value of any flag that takes an
assignment, with a message that names the flag and the text. -/
theorem splits_uniquely (text : String) :
    (∀ a, ofText? text = some a ↔ a.Splits text) ∧
    (∀ a b : Assignment, a.Splits text → b.Splits text → a = b) ∧
    (∀ a : Assignment, a.Splits text → a.toText = text ∧ ofText? a.toText = some a ∧
      ∀ token, Flag.remap.read token text = .ok (.remap a) ∧
        Flag.parameter.read token text = .ok (.parameter a)) ∧
    ((∀ a : Assignment, ¬ a.Splits text) →
      ∀ flag token, flag = .remap ∨ flag = .parameter →
        flag.read token text = .error (.notAssignment token text) ∧
        ∀ rest, token ∈ Flag.spellings flag → text ≠ "--" →
          Arguments.parse ("--ros-args" :: token :: text :: rest) = .error (.invalidArguments
            ("Couldn't parse " ++ token ++ " value '" ++ text
              ++ "': expected [node:]name:=value"))) := by
  refine ⟨fun _ => ofText?_eq_some_iff_splits, ?_, ?_, ?_⟩
  · intro a b ha hb
    rw [← ofText?_eq_some_iff_splits] at ha hb
    exact Option.some.inj (ha.symm.trans hb)
  · intro a h
    refine ⟨h.toText_eq, ?_, read_of_splits h⟩
    rw [h.toText_eq]
    exact ofText?_eq_some_iff_splits.2 h
  · intro h flag token hflag
    refine ⟨read_of_not_splits hflag h token, ?_⟩
    intro rest htoken htext
    exact parse_of_not_splits hflag htoken htext h rest

/-- Behind a node, a name may end in a colon, which the mark between the sides leaves to it. -/
theorem splits_uniquely_doubleColon :
    Splits ⟨some "n", "a:", "b"⟩ "n:a::=b" ∧
      ∀ a : Assignment, a.Splits "n:a::=b" → a = ⟨some "n", "a:", "b"⟩ := by
  obtain ⟨hread, hunique, -⟩ := splits_uniquely "n:a::=b"
  have hsplits : Splits ⟨some "n", "a:", "b"⟩ "n:a::=b" := (hread _).1 (by decide)
  exact ⟨hsplits, fun a ha => hunique a _ ha hsplits⟩

example : ["a::=b", ":=x", "n:=", ":a:=b"].map ofText? = [none, none, none, none] ∧
    ofText? "a:=b:=c" = some ⟨none, "a", "b:=c"⟩ := by
  decide

end Assignment
end RobotClient
