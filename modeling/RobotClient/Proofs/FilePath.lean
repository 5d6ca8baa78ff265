import Mathlib.Tactic.Common
import RobotClient.FilePath
import RobotClient.Proofs.Text.Split

set_option autoImplicit false

/-! # What a path is made of

The path that a path stands in has the same names but the last one, so what is created for a file
and what is opened then are the same directories. -/

namespace RobotClient.FilePath

/-! ## Names -/

/-- Whether a name between slashes counts. -/
def counts (name : List Char) : Bool := name ≠ [] && name ≠ ['.']

/-- The names on a path, as characters. -/
def names (cs : List Char) : List (List Char) := (Text.pieces '/' cs).filter counts

theorem parts_eq_names (path : String) : parts path = (names path.toList).map String.ofList := by
  rw [parts, names, Text.splitAll, List.filter_map]
  congr 1
  apply List.filter_congr
  intro name _
  have hnil : String.ofList name = "" ↔ name = [] := by
    rw [← String.toList_inj, String.toList_ofList, String.toList_empty]
  have hdot : String.ofList name = "." ↔ name = ['.'] := by
    rw [← String.toList_inj, String.toList_ofList]
    rfl
  simp [counts, hnil, hdot]

/-- A slash and a name at the end are one more name, if that name counts. -/
theorem names_append_cons {name : List Char} (h : '/' ∉ name) (cs : List Char) :
    names (cs ++ '/' :: name) = names cs ++ [name].filter counts := by
  rw [names, Text.pieces_append_cons h, List.filter_append, ← names]

/-! ## Ends -/

theorem names_dropEnd (cs : List Char) : names (dropEnd cs).reverse = names cs.reverse := by
  fun_induction dropEnd cs with
  | case1 rest ih =>
    rw [ih, List.reverse_cons, names_append_cons List.not_mem_nil]
    simp [counts]
  | case2 rest ih =>
    have hends : ('.' :: '/' :: rest).reverse = rest.reverse ++ '/' :: ['.'] := by simp
    rw [ih, hends, names_append_cons (by decide)]
    simp [counts]
  | case3 => rfl

theorem dropEnd_ne_slash (cs rest : List Char) : dropEnd cs ≠ '/' :: rest := by
  fun_induction dropEnd cs with
  | case1 _ ih => exact ih
  | case2 _ ih => exact ih
  | case3 cs hslash _ =>
    intro h
    exact hslash rest h

theorem dropEnd_ne_dot (cs rest : List Char) : dropEnd cs ≠ '.' :: '/' :: rest := by
  fun_induction dropEnd cs with
  | case1 _ ih => exact ih
  | case2 _ ih => exact ih
  | case3 cs _ hdot =>
    intro h
    exact hdot rest h

/-! ## The path that a path stands in -/

/-- **The names of a parent**: all names but the last one. -/
theorem parts_parent (path : String) : parts (parent path) = (parts path).dropLast := by
  set backwards := dropEnd path.toList.reverse with hbackwards
  set last := backwards.takeWhile (· != '/') with hlast
  set rest := backwards.dropWhile (· != '/') with hrest
  have hnames : names path.toList = names backwards.reverse := by
    rw [hbackwards, names_dropEnd, List.reverse_reverse]
  have hparent : parent path = String.ofList (dropEnd rest).reverse := rfl
  have happend : last ++ rest = backwards := List.takeWhile_append_dropWhile
  have hfree : '/' ∉ last.reverse := by
    intro hmem
    simpa using List.mem_takeWhile_imp (List.mem_reverse.1 hmem)
  rw [parts_eq_names, parts_eq_names, hparent, String.toList_ofList, names_dropEnd, hnames,
    ← happend, List.reverse_append, ← List.map_dropLast]
  congr 1
  cases hcases : rest with
  | nil =>
    -- a single name has no parent
    have hsingle : names last.reverse = [last.reverse].filter counts := by
      rw [names, Text.pieces_of_not_mem hfree]
    rw [List.reverse_nil, List.nil_append, hsingle, List.filter_singleton]
    cases counts last.reverse <;> simp [names, Text.pieces, counts]
  | cons c rest' =>
    have hslash : c = '/' := by
      have hhead := List.head?_dropWhile_not (· != '/') backwards
      rw [← hrest, hcases] at hhead
      simpa using hhead
    subst hslash
    have hcounts : last.reverse ≠ [] ∧ last.reverse ≠ ['.'] := by
      constructor
      · intro hnil
        rw [List.reverse_eq_nil_iff.1 hnil, hcases] at happend
        exact dropEnd_ne_slash _ _ happend.symm
      · intro hdot
        rw [List.reverse_eq_iff.1 hdot, hcases] at happend
        exact dropEnd_ne_dot _ _ happend.symm
    rw [List.reverse_cons, List.append_assoc, List.singleton_append, names_append_cons hfree,
      names_append_cons List.not_mem_nil]
    simp [counts, hcounts]

/-- A last name is the last of the names, and does not go back. -/
theorem parts_of_lastName? {path name : String} (h : lastName? path = some name) :
    parts path = (parts path).dropLast ++ [name] ∧ name ≠ ".." := by
  set texts := (Text.splitAll '/' path).filter (· ≠ "") with htexts
  have hparts : parts path = texts.filter (· ≠ ".") := by
    rw [parts, htexts, List.filter_filter]
    congr 1
    funext part
    simp [Bool.and_comm]
  rw [lastName?, ← htexts] at h
  split at h
  · cases h
  · cases h
  · cases h
  · next last hdot hdots hlast =>
    obtain rfl : last = name := Option.some.inj h
    have htexts : texts = texts.dropLast ++ [last] :=
      (List.dropLast_append_getLast? last hlast).symm
    have hkept : [last].filter (· ≠ ".") = [last] :=
      List.filter_eq_self.2 (by simpa using hdot)
    rw [hparts, htexts, List.filter_append, hkept, List.dropLast_concat]
    exact ⟨rfl, hdots⟩

end RobotClient.FilePath
