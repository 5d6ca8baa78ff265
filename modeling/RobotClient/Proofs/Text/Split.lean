import Mathlib
import RobotClient.Text.Split

set_option autoImplicit false

/-! # What a split at a mark says

`splitOnce?` walks the characters; here its answers are told by where the mark stands in the text.
It finds the mark whenever the text has it, and of several places it takes the first. Pieces with
the separators between them are the text again, and which pieces a text has is told by that
(`pieces_eq_iff`). -/

namespace RobotClient.Text

/-! ## Characters -/

theorem splitAtMark?_eq_none_iff {mark cs : List Char} :
    splitAtMark? mark cs = none ↔ ∀ left right, cs ≠ left ++ mark ++ right := by
  induction cs with
  | nil => cases mark <;> simp [splitAtMark?]
  | cons c cs ih =>
    rw [splitAtMark?]
    cases hdrop : dropMark? mark (c :: cs) with
    | some rest =>
      refine ⟨fun h => by simp at h, fun h => ?_⟩
      exact absurd (dropMark?_eq_some_iff.1 hdrop) (h [] rest)
    | none =>
      simp only [Option.map_eq_none_iff, ih]
      constructor
      · intro h left right heq
        cases left with
        | nil =>
          rw [dropMark?_eq_some_iff.2 (by simpa using heq)] at hdrop
          simp at hdrop
        | cons d left =>
          simp only [List.cons_append, List.cons.injEq] at heq
          exact h left right heq.2
      · intro h left right heq
        exact h (c :: left) right (by simp [heq])

/-- No occurrence of the mark starts before the split. -/
theorem length_le_of_splitAtMark? {mark cs left right : List Char}
    (h : splitAtMark? mark cs = some (left, right)) {before after : List Char}
    (hcs : cs = before ++ mark ++ after) : left.length ≤ before.length := by
  induction cs generalizing left before with
  | nil =>
    have happend := append_of_splitAtMark? h
    simp only [List.nil_eq, List.append_eq_nil_iff] at happend
    simp [happend.1.1]
  | cons c cs ih =>
    rw [splitAtMark?] at h
    split at h
    · simp only [Option.some.injEq, Prod.mk.injEq] at h
      simp [← h.1]
    · next hdrop =>
      obtain ⟨⟨l, r⟩, hlr, heq⟩ := Option.map_eq_some_iff.1 h
      simp only [Prod.mk.injEq] at heq
      obtain ⟨rfl, rfl⟩ := heq
      cases before with
      | nil =>
        -- the walk would have stopped here
        rw [dropMark?_eq_some_iff.2 (by simpa using hcs)] at hdrop
        simp at hdrop
      | cons d before =>
        simp only [List.cons_append, List.cons.injEq] at hcs
        have := ih hlr hcs.2
        simp only [List.length_cons]
        omega

/-! ## Texts -/

/-- The text has `mark` between `left` and `right`, and nowhere before. -/
structure SplitsAt (mark text left right : String) : Prop where
  eq_append : text = left ++ mark ++ right
  first {before after : String} : text = before ++ mark ++ after → left.length ≤ before.length

/-- A text is split at one place only. -/
theorem SplitsAt.unique {mark text left right left' right' : String}
    (h : SplitsAt mark text left right) (h' : SplitsAt mark text left' right') :
    left = left' ∧ right = right' := by
  have hlength : left.length = left'.length :=
    Nat.le_antisymm (h.first h'.eq_append) (h'.first h.eq_append)
  have heq : left.toList ++ (mark.toList ++ right.toList)
      = left'.toList ++ (mark.toList ++ right'.toList) := by
    have happend := h.eq_append.symm.trans h'.eq_append
    simpa using congrArg String.toList happend
  obtain ⟨hleft, hrest⟩ := List.append_inj heq (by simpa only [String.length_toList] using hlength)
  exact ⟨String.toList_inj.1 hleft, String.toList_inj.1 (List.append_cancel_left hrest)⟩

/-- What stands behind the mark has no part in where a text is split. -/
theorem SplitsAt.replace_right {mark text left right : String} (h : SplitsAt mark text left right)
    (right' : String) : SplitsAt mark (left ++ mark ++ right') left right' := by
  refine ⟨rfl, ?_⟩
  intro before after heq
  refine Nat.le_of_not_lt fun hlt => ?_
  -- a mark that starts earlier ends no later, so the text had it there before the exchange
  have hlist : left.toList ++ mark.toList ++ right'.toList
      = before.toList ++ mark.toList ++ after.toList := by
    simpa using congrArg String.toList heq
  have hlength : (before.toList ++ mark.toList).length ≤ (left.toList ++ mark.toList).length := by
    simp only [List.length_append, String.length_toList]
    omega
  obtain ⟨between, hbetween⟩ :=
    List.prefix_of_prefix_length_le ⟨after.toList, hlist.symm⟩ ⟨right'.toList, rfl⟩ hlength
  have htext : text = before ++ mark ++ (String.ofList between ++ right) := by
    rw [h.eq_append]
    refine String.toList_inj.1 ?_
    simp [← hbetween]
  exact Nat.not_le_of_lt hlt (h.first htext)

/-- A split fails when the text does not have the mark. -/
theorem splitOnce?_eq_none_iff {mark text : String} :
    splitOnce? mark text = none ↔ ∀ left right, text ≠ left ++ mark ++ right := by
  rw [splitOnce?, Option.map_eq_none_iff, splitAtMark?_eq_none_iff]
  constructor
  · rintro h left right rfl
    exact h left.toList right.toList (by simp)
  · intro h left right heq
    exact h (String.ofList left) (String.ofList right)
      (String.toList_inj.1 (by simpa using heq))

/-- **A split is at the first occurrence of the mark.** -/
theorem splitOnce?_eq_some_iff {mark text left right : String} :
    splitOnce? mark text = some (left, right) ↔ SplitsAt mark text left right := by
  have hsound : ∀ left right, splitOnce? mark text = some (left, right) →
      SplitsAt mark text left right := by
    intro left right h
    obtain ⟨⟨l, r⟩, hlr, heq⟩ := Option.map_eq_some_iff.1 h
    simp only [Prod.mk.injEq] at heq
    obtain ⟨rfl, rfl⟩ := heq
    refine ⟨String.toList_inj.1 (by simpa using append_of_splitAtMark? hlr), ?_⟩
    rintro before after rfl
    have hle := length_le_of_splitAtMark? hlr (by simp :
      (before ++ mark ++ after).toList = before.toList ++ mark.toList ++ after.toList)
    simpa only [String.length_ofList, String.length_toList] using hle
  refine ⟨hsound left right, fun h => ?_⟩
  cases hsplit : splitOnce? mark text with
  | none => exact absurd h.eq_append (splitOnce?_eq_none_iff.1 hsplit left right)
  | some parts =>
    obtain ⟨rfl, rfl⟩ := h.unique (hsound parts.1 parts.2 hsplit)
    rfl

/-- A single character splits a text where the left part is free of it. -/
theorem splitsAt_singleton_iff {c : Char} {text left right : String} :
    SplitsAt (String.singleton c) text left right ↔
      text = left ++ String.singleton c ++ right ∧ c ∉ left.toList := by
  constructor
  · intro h
    refine ⟨h.eq_append, fun hmem => ?_⟩
    obtain ⟨before, after, hleft⟩ := List.append_of_mem hmem
    have hearlier : text = String.ofList before ++ String.singleton c
        ++ (String.ofList after ++ String.singleton c ++ right) := by
      rw [h.eq_append]
      exact String.toList_inj.1 (by simp [hleft])
    have hle := h.first hearlier
    have hlength := congrArg List.length hleft
    simp only [String.length_toList, String.length_ofList, List.length_append,
      List.length_cons] at hle hlength
    omega
  · rintro ⟨rfl, hfree⟩
    refine ⟨rfl, ?_⟩
    intro before after heq
    refine Nat.le_of_not_lt fun hlt => ?_
    have hlist : left.toList ++ c :: right.toList = before.toList ++ c :: after.toList := by
      simpa using congrArg String.toList heq
    -- a shorter front of the text is a front of `left`, which then holds the character
    have hget := congrArg (·[before.toList.length]?) hlist
    simp only [List.getElem?_append_right (Nat.le_refl _), Nat.sub_self] at hget
    rw [List.getElem?_append_left (by simpa only [String.length_toList] using hlt)] at hget
    exact hfree (List.mem_of_getElem? hget)

/-- A mark that cannot overlap itself: no front of it is an end of it, but for nothing and the
    whole. -/
def Unbordered (mark : String) : Prop :=
  ∀ front border back : List Char, mark.toList = front ++ border → mark.toList = border ++ back →
    front = [] ∨ border = []

/-- A mark that cannot overlap itself splits a text where the left part is free of it. -/
theorem splitsAt_iff_of_unbordered {mark text left right : String} (hmark : Unbordered mark)
    (hne : mark ≠ "") :
    SplitsAt mark text left right ↔
      text = left ++ mark ++ right ∧ ∀ before after, left ≠ before ++ mark ++ after := by
  constructor
  · intro h
    refine ⟨h.eq_append, ?_⟩
    rintro before after rfl
    have hearlier : text = before ++ mark ++ (after ++ mark ++ right) := by
      rw [h.eq_append]
      simp only [String.append_assoc]
    have hle := h.first hearlier
    have hpos : 0 < mark.length := Nat.pos_of_ne_zero (by simpa using hne)
    simp only [String.length_append] at hle
    omega
  · rintro ⟨rfl, hfree⟩
    refine ⟨rfl, ?_⟩
    intro before after heq
    refine Nat.le_of_not_lt fun hlt => ?_
    have hlist : left.toList ++ (mark.toList ++ right.toList)
        = before.toList ++ (mark.toList ++ after.toList) := by
      simpa using congrArg String.toList heq
    have hlength : before.toList.length < left.toList.length := by
      simpa only [String.length_toList] using hlt
    obtain ⟨d, hleft⟩ : before.toList <+: left.toList :=
      List.prefix_of_prefix_length_le ⟨_, hlist.symm⟩ ⟨_, rfl⟩ hlength.le
    have hd : d ≠ [] := by
      rintro rfl
      rw [← hleft, List.append_nil] at hlength
      exact Nat.lt_irrefl _ hlength
    have hout : ∀ after, d ≠ mark.toList ++ after := by
      rintro after rfl
      exact hfree before (String.ofList after) (String.toList_inj.1 (by simp [← hleft]))
    rw [← hleft, List.append_assoc, List.append_cancel_left_eq] at hlist
    -- behind `before` the left part has the mark, or at its end a front of it
    rcases List.append_eq_append_iff.1 hlist with ⟨border, hfront, hrest⟩ | ⟨behind, hbehind, -⟩
    · rcases List.append_eq_append_iff.1 hrest with ⟨back, hborder, -⟩ | ⟨back, hback, -⟩
      · have hlong := congrArg List.length hfront
        rw [hborder] at hlong
        simp only [List.length_append] at hlong
        exact hd (List.length_eq_zero_iff.1 (by omega))
      · rcases hmark d border back hfront hback with hnil | rfl
        · exact hd hnil
        · exact hout [] (by rw [hfront]; simp)
    · exact hout behind hbehind

/-! ## Pieces -/

/-- Parts with a separator in front of each are the parts with separators between them, and one in
front. -/
theorem cons_intercalate {sep : Char} {parts : List (List Char)} (h : parts ≠ []) :
    sep :: [sep].intercalate parts = parts.flatMap (sep :: ·) := by
  induction parts with
  | nil => exact absurd rfl h
  | cons part parts ih =>
    cases parts with
    | nil => simp
    | cons next parts =>
      have hnext := ih (List.cons_ne_nil next parts)
      rw [List.intercalate_cons_cons, List.flatMap_cons, ← hnext]
      simp

/-- With a separator in front of each, the pieces are the text with one in front. -/
theorem flatMap_pieces (sep : Char) (cs : List Char) :
    (pieces sep cs).flatMap (sep :: ·) = sep :: cs := by
  induction cs with
  | nil => rfl
  | cons c cs ih =>
    obtain ⟨piece, rest, hpieces⟩ := List.exists_cons_of_ne_nil (pieces_ne_nil sep cs)
    rw [hpieces, List.flatMap_cons, List.cons_append, List.cons.injEq] at ih
    rw [pieces, hpieces]
    split
    · next hc => simp [ih.2, hc]
    · simp [ih.2]

/-- The pieces with the separators between them are the text. -/
theorem intercalate_pieces (sep : Char) (cs : List Char) :
    [sep].intercalate (pieces sep cs) = cs := by
  have hcons : sep :: [sep].intercalate (pieces sep cs) = (pieces sep cs).flatMap (sep :: ·) :=
    cons_intercalate (pieces_ne_nil sep cs)
  rw [flatMap_pieces] at hcons
  exact (List.cons.inj hcons).2

theorem pieces_of_not_mem {sep : Char} {cs : List Char} (h : sep ∉ cs) : pieces sep cs = [cs] := by
  induction cs with
  | nil => rfl
  | cons c cs ih =>
    simp only [List.mem_cons, not_or] at h
    simp [pieces, ih h.2, Ne.symm h.1]

/-- A separator behind a piece ends it. -/
theorem pieces_append {sep : Char} {piece : List Char} (h : sep ∉ piece) (rest : List Char) :
    pieces sep (piece ++ sep :: rest) = piece :: pieces sep rest := by
  induction piece with
  | nil => simp [pieces]
  | cons c piece ih =>
    simp only [List.mem_cons, not_or] at h
    rw [List.cons_append, pieces, if_neg (Ne.symm h.1), ih h.2]

theorem not_mem_of_mem_pieces {sep : Char} {cs : List Char} :
    ∀ piece ∈ pieces sep cs, sep ∉ piece := by
  induction cs with
  | nil => simp [pieces]
  | cons c cs ih =>
    obtain ⟨first, rest, hpieces⟩ := List.exists_cons_of_ne_nil (pieces_ne_nil sep cs)
    rw [hpieces] at ih
    rw [pieces, hpieces]
    split
    · exact List.forall_mem_cons.2 ⟨List.not_mem_nil, ih⟩
    · next hc =>
      obtain ⟨hfirst, hrest⟩ := List.forall_mem_cons.1 ih
      exact List.forall_mem_cons.2 ⟨by simp [Ne.symm hc, hfirst], hrest⟩

/-- **The pieces of a text** are the separator-free parts that give it when each has a separator in
front. -/
theorem pieces_eq_iff {sep : Char} {cs : List Char} {parts : List (List Char)} :
    pieces sep cs = parts ↔
      parts.flatMap (sep :: ·) = sep :: cs ∧ ∀ part ∈ parts, sep ∉ part := by
  constructor
  · rintro rfl
    exact ⟨flatMap_pieces sep cs, not_mem_of_mem_pieces⟩
  · rintro ⟨hparts, hfree⟩
    induction parts generalizing cs with
    | nil => exact absurd hparts (by simp)
    | cons part parts ih =>
      rw [List.flatMap_cons, List.cons_append, List.cons.injEq] at hparts
      obtain ⟨hpart, hrest⟩ := List.forall_mem_cons.1 hfree
      cases parts with
      | nil =>
        obtain rfl : part = cs := by simpa using hparts.2
        exact pieces_of_not_mem hpart
      | cons next parts =>
        -- what is left starts with the separator that ends the first part
        have hnext : pieces sep (next ++ parts.flatMap (sep :: ·)) = next :: parts := ih rfl hrest
        rw [← hparts.2, List.flatMap_cons, List.cons_append, pieces_append hpart, hnext]

/-- A separator and a piece at the end are one more piece. -/
theorem pieces_append_cons {sep : Char} {piece : List Char} (h : sep ∉ piece) (cs : List Char) :
    pieces sep (cs ++ sep :: piece) = pieces sep cs ++ [piece] := by
  refine pieces_eq_iff.2 ⟨?_, ?_⟩
  · rw [List.flatMap_append, flatMap_pieces]
    simp
  · intro part hpart
    rcases List.mem_append.1 hpart with hpart | hpart
    · exact not_mem_of_mem_pieces part hpart
    · rw [List.mem_singleton.1 hpart]
      exact h

/-- A separator at the end starts one more piece, which is empty. -/
theorem pieces_concat (sep : Char) (cs : List Char) :
    pieces sep (cs ++ [sep]) = pieces sep cs ++ [[]] :=
  pieces_append_cons List.not_mem_nil cs

/-! ## Fronts -/

/-- A front of things of a kind ends where the rest starts, if that is with another thing. -/
theorem span_append {α : Type} {p : α → Bool} {front rest : List α} (hfront : ∀ c ∈ front, p c)
    (hrest : ∀ c ∈ rest.head?, ¬ p c) : (front ++ rest).span p = (front, rest) := by
  have hstop : rest.takeWhile p = [] ∧ rest.dropWhile p = rest := by
    cases rest with
    | nil => exact ⟨rfl, rfl⟩
    | cons c rest =>
      have hc : ¬ p c := hrest c rfl
      simp [hc]
  rw [List.span_eq_takeWhile_dropWhile, List.takeWhile_append_of_pos hfront,
    List.dropWhile_append_of_pos hfront, hstop.1, hstop.2, List.append_nil]

/-! ## The last occurrence -/

/-- The text before and after the last occurrence of a character. -/
def splitLast? (sep : Char) (s : String) : Option (String × String) :=
  match s.toList.reverse.span (· ≠ sep) with
  | (_, []) => none
  | (back, _ :: front) => some (String.ofList front.reverse, String.ofList back.reverse)

theorem splitLast?_append {sep : Char} {left right : String} (h : sep ∉ right.toList) :
    splitLast? sep (left ++ String.singleton sep ++ right) = some (left, right) := by
  have hspan : (left ++ String.singleton sep ++ right).toList.reverse.span (· ≠ sep)
      = (right.toList.reverse, sep :: left.toList.reverse) := by
    have hlist : (left ++ String.singleton sep ++ right).toList.reverse
        = right.toList.reverse ++ sep :: left.toList.reverse := by simp
    rw [hlist]
    refine span_append (fun c hc => ?_) (by simp)
    have hne : c ≠ sep := by
      rintro rfl
      exact h (List.mem_reverse.1 hc)
    simpa using hne
  rw [splitLast?, hspan]
  simp

end RobotClient.Text
