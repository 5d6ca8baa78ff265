import RobotClient.Proofs.Arguments.Canonical
import RobotClient.Proofs.Except

set_option autoImplicit false

/-! # Vectors without their blocks

What is left of a vector when its reserved blocks are taken out: nothing is added, and of what
stands outside the blocks nothing is lost, be it a mark that closes blocks where none is open. No
mark that opens a block is left, so that there is nothing to take out a second time. All of this is
said by the derivation of the vector. Main statement: `Arguments.plainArguments_removal`. -/

namespace RobotClient

variable {inBlock : Bool} {front rest tokens plain : List String} {settings : List Setting}

/-! ## What stays -/

/-- What is left is found in the vector, in the same order. -/
theorem Derives.plain_sublist (h : Derives inBlock tokens plain settings) :
    plain.Sublist tokens := by
  induction h with
  | done => exact .slnil
  | plain _ _ ih => exact ih.cons_cons _
  | opens _ ih | closes _ ih | opensAgain _ ih | toggle _ _ ih => exact ih.cons _
  | option _ _ _ _ ih => exact (ih.cons _).cons _

/-- Up to the mark that opens the first block every token stays. -/
theorem derives_append_iff (hfree : "--ros-args" ∉ front) :
    Derives false (front ++ rest) plain settings ↔
      ∃ later, plain = front ++ later ∧ Derives false rest later settings := by
  induction front generalizing plain with
  | nil => simp
  | cons token front ih =>
    simp only [List.mem_cons, not_or] at hfree
    constructor
    · intro h
      cases h with
      | plain _ hrest =>
        obtain ⟨later, rfl, hlater⟩ := (ih hfree.2).1 hrest
        exact ⟨later, rfl, hlater⟩
      | opens => exact absurd rfl hfree.1
    · rintro ⟨later, rfl, hlater⟩
      exact .plain (Ne.symm hfree.1) ((ih hfree.2).2 ⟨later, rfl, hlater⟩)

/-- A vector without blocks is all plain. -/
theorem derives_of_free (hfree : "--ros-args" ∉ tokens) : Derives false tokens tokens [] := by
  have hall : Derives false (tokens ++ []) (tokens ++ []) [] :=
    (derives_append_iff hfree).2 ⟨[], rfl, .done⟩
  simpa using hall

/-! ## What goes -/

/-- The options of a block, one after the other, with what they set. -/
inductive BlockOptions : List String → List Setting → Prop where
  | done : BlockOptions [] []
  | option {flag : Flag} {token value : String} {setting : Setting} {rest : List String}
      {settings : List Setting} :
      token ∈ flag.spellings → value ≠ "--" → flag.Says value setting →
      BlockOptions rest settings → BlockOptions (token :: value :: rest) (setting :: settings)
  | toggle {token : String} {setting : Setting} {rest : List String} {settings : List Setting} :
      (token, setting) ∈ Setting.toggles → BlockOptions rest settings →
      BlockOptions (token :: rest) (setting :: settings)

/-- Options in a block leave the rest of the vector as it is. -/
theorem BlockOptions.derives_append {options : List String} {given : List Setting}
    (h : BlockOptions options given) (hrest : Derives true rest plain settings) :
    Derives true (options ++ rest) plain (given ++ settings) := by
  induction h with
  | done => exact hrest
  | option hflag hvalue hsays _ ih => exact .option hflag hvalue hsays ih
  | toggle htoggle _ ih => exact .toggle htoggle ih

/-! ## The removal -/

namespace Arguments

theorem parse_of_derives (h : Derives false tokens plain settings) :
    parse tokens = .ok (gather plain settings) := by
  obtain ⟨hdefects, hunknowns, rfl, rfl⟩ := h.items_eq
  exact ofItems?_eq_ok_iff.2 ⟨hdefects, hunknowns, rfl⟩

/-- Taking the blocks out succeeds exactly for a vector with a derivation, and leaves what that says
    is plain. -/
theorem plainArguments_eq_ok_iff :
    plainArguments tokens = .ok plain ↔ ∃ settings, Derives false tokens plain settings := by
  constructor
  · intro h
    rw [plainArguments, map_eq_ok] at h
    obtain ⟨p, hp, rfl⟩ := h
    obtain ⟨hdefects, hunknowns, rfl⟩ := ofItems?_eq_ok_iff.1 hp
    exact ⟨_, derives_items hdefects hunknowns⟩
  · rintro ⟨settings, h⟩
    rw [plainArguments, parse_of_derives h]
    rfl

/-- **Taking the blocks out of a vector.** What is left is found in the vector in the same order. It
holds no mark that opens a block, and all tokens in front of the first of these marks. It says
itself and nothing else, so that taking blocks out a second time changes nothing. A block of options
between vectors without blocks goes and leaves these two, whatever they hold, also the mark that
closes blocks. -/
theorem plainArguments_removal :
    (∀ tokens plain, plainArguments tokens = .ok plain →
      plain.Sublist tokens ∧ "--ros-args" ∉ plain ∧
      (∀ front rest, tokens = front ++ rest → "--ros-args" ∉ front → front <+: plain) ∧
      parse plain = .ok { plain } ∧ plainArguments plain = .ok plain) ∧
    ∀ before options settings after, "--ros-args" ∉ before → "--ros-args" ∉ after →
      BlockOptions options settings →
      plainArguments (before ++ ["--ros-args"] ++ options ++ ["--"] ++ after)
        = .ok (before ++ after) := by
  constructor
  · intro tokens plain h
    obtain ⟨settings, hderives⟩ := plainArguments_eq_ok_iff.1 h
    have hfree : "--ros-args" ∉ plain := fun hmem => hderives.plain_ne _ hmem rfl
    have hagain : Derives false plain plain [] := derives_of_free hfree
    refine ⟨hderives.plain_sublist, hfree, ?_, parse_of_derives hagain,
      plainArguments_eq_ok_iff.2 ⟨[], hagain⟩⟩
    rintro front rest rfl hfront
    obtain ⟨later, rfl, -⟩ := (derives_append_iff hfront).1 hderives
    exact List.prefix_append front later
  · intro before options settings after hbefore hafter hoptions
    have hclosed : Derives true ("--" :: after) after [] := .closes (derives_of_free hafter)
    have hblock : Derives false ("--ros-args" :: (options ++ "--" :: after)) after settings := by
      simpa using Derives.opens (hoptions.derives_append hclosed)
    refine plainArguments_eq_ok_iff.2 ⟨settings, ?_⟩
    simpa using (derives_append_iff hbefore).2 ⟨after, rfl, hblock⟩

/-- A mark that closes blocks on both sides of a block, and a value that looks like the mark that
    opens one. -/
theorem plainArguments_removal_marks :
    plainArguments ["--", "--ros-args", "-e", "--ros-args", "--", "-r", "--"]
        = .ok ["--", "-r", "--"] ∧
      plainArguments ["--", "-r", "--"] = .ok ["--", "-r", "--"] := by
  have hspelling : "-e" ∈ Flag.enclave.spellings := by decide
  have hoptions : BlockOptions ["-e", "--ros-args"] [.enclave "--ros-args"] :=
    .option hspelling (by decide) (.enclave _) .done
  have hleft := plainArguments_removal.2 ["--"] _ _ ["-r", "--"] (by decide) (by decide) hoptions
  exact ⟨hleft, (plainArguments_removal.1 _ _ hleft).2.2.2.2⟩

end Arguments
end RobotClient
