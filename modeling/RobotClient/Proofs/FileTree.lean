import Mathlib.Tactic.Common
import RobotClient.FileTree
import RobotClient.Proofs.Except
import RobotClient.Proofs.FilePath

set_option autoImplicit false

/-! # What creating leaves alone

Creating directories for a path adds directories above the path and nothing else, and opening the
file then adds at most the file. Files that are there keep their content. -/

namespace RobotClient.FileTree

/-! ## Places of a path -/

/-- The place where names lead from a place on, whatever is there. -/
def walk (place names : List String) : List String :=
  names.foldl (fun place name => if name = ".." then place.dropLast else place ++ [name]) place

@[simp]
theorem walk_nil (place : List String) : walk place [] = place := rfl

theorem walk_cons_dots (place names : List String) :
    walk place (".." :: names) = walk place.dropLast names := rfl

theorem walk_cons_name {name : String} (h : name ≠ "..") (place names : List String) :
    walk place (name :: names) = walk (place ++ [name]) names := by
  rw [walk, List.foldl_cons, if_neg h, walk]

theorem walk_concat {name : String} (h : name ≠ "..") (place names : List String) :
    walk place (names ++ [name]) = walk place names ++ [name] := by
  rw [walk, List.foldl_append, List.foldl_cons, List.foldl_nil, if_neg h, walk]

/-- The place of a path. -/
def placeOf (t : FileTree) (path : String) : List String :=
  walk (t.start path) (FilePath.parts path)

/-- Whether a place is one that a path leads through. -/
def Above (t : FileTree) (path : String) (place : List String) : Prop :=
  ∃ front, front <+: (FilePath.parts path).dropLast ∧ place = walk (t.start path) front

/-! ## Directories -/

theorem isDirectoryAt_of_isPrefix {t : FileTree} {above place : List String} (h : above <+: place)
    (hplace : t.isDirectoryAt place) : t.isDirectoryAt above := by
  simp only [isDirectoryAt, Bool.or_eq_true, List.any_eq_true, Bool.and_eq_true, decide_eq_true_eq,
    List.isPrefixOf_iff_prefix] at hplace ⊢
  rcases hplace with (hwork | ⟨directory, hmem, hdirectory⟩) | ⟨file, hmem, hlength, hfile⟩
  · exact .inl (.inl (h.trans hwork))
  · exact .inl (.inr ⟨directory, hmem, h.trans hdirectory⟩)
  · exact .inr ⟨file, hmem, h.length_le.trans_lt hlength, h.trans hfile⟩

theorem isDirectoryAt_dropLast {t : FileTree} {place : List String} (h : t.isDirectoryAt place) :
    t.isDirectoryAt place.dropLast :=
  isDirectoryAt_of_isPrefix place.dropLast_prefix h

/-- The names of a path start at a directory. -/
theorem isDirectoryAt_start (t : FileTree) (path : String) : t.isDirectoryAt (t.start path) := by
  rw [start]
  split <;> simp [isDirectoryAt]

theorem isDirectoryAt_of_kindAt {t : FileTree} {place : List String}
    (h : t.kindAt place = some .directory) : t.isDirectoryAt place := by
  rw [kindAt] at h
  split at h
  · cases h
  · split at h
    · assumption
    · cases h

/-! ## One more directory or file -/

theorem kindAt_eq_none_iff {t : FileTree} {place : List String} :
    t.kindAt place = none ↔ t.files.lookup place = none ∧ ¬ t.isDirectoryAt place := by
  rw [kindAt]
  cases t.files.lookup place with
  | some content => simp
  | none => simp

section OneMore

variable {t : FileTree} {place : List String} {name : String}

theorem isDirectoryAt_addDirectory (hplace : t.isDirectoryAt place) (name : String)
    (other : List String) :
    { t with directories := t.directories ++ [place ++ [name]] }.isDirectoryAt other
      ↔ t.isDirectoryAt other ∨ other = place ++ [name] := by
  constructor
  · intro h
    simp only [isDirectoryAt, Bool.or_eq_true, List.any_append, List.any_cons, List.any_nil,
      Bool.or_false, List.isPrefixOf_iff_prefix, List.prefix_concat_iff] at h
    rcases h with (hwork | hold | hself | habove) | hfile
    · exact .inl (by simp [isDirectoryAt, hwork])
    · exact .inl (by simp [isDirectoryAt, hold])
    · exact .inr hself
    · exact .inl (isDirectoryAt_of_isPrefix habove hplace)
    · exact .inl (by simp [isDirectoryAt, hfile])
  · intro h
    simp only [isDirectoryAt, Bool.or_eq_true, List.any_append, List.any_cons, List.any_nil,
      Bool.or_false, List.isPrefixOf_iff_prefix] at h ⊢
    rcases h with ((hwork | hold) | hfile) | hself
    · exact .inl (.inl hwork)
    · exact .inl (.inr (.inl hold))
    · exact .inr hfile
    · exact .inl (.inr (.inr (hself ▸ List.prefix_rfl)))

/-- A directory in a directory is all that changes where it is added. -/
theorem kindAt_addDirectory (hplace : t.isDirectoryAt place)
    (hfree : t.kindAt (place ++ [name]) = none) (other : List String) :
    { t with directories := t.directories ++ [place ++ [name]] }.kindAt other
      = if other = place ++ [name] then some .directory else t.kindAt other := by
  have hdirectory := isDirectoryAt_addDirectory hplace name other
  by_cases hother : other = place ++ [name]
  · have hlookup : t.files.lookup other = none := by
      rw [hother]
      exact (kindAt_eq_none_iff.1 hfree).1
    rw [if_pos hother, kindAt, hlookup]
    exact if_pos (hdirectory.2 (.inr hother))
  · rw [if_neg hother, kindAt, kindAt]
    cases t.files.lookup other with
    | some content => rfl
    | none =>
      have hsame : { t with directories := t.directories ++ [place ++ [name]] }.isDirectoryAt other
          = t.isDirectoryAt other :=
        Bool.eq_iff_iff.2 (by simpa [hother] using hdirectory)
      simp only [hsame]

theorem isDirectoryAt_addFile (hplace : t.isDirectoryAt place) (name : String)
    (other : List String) :
    { t with files := t.files ++ [(place ++ [name], [])] }.isDirectoryAt other
      = t.isDirectoryAt other := by
  rw [Bool.eq_iff_iff]
  constructor
  · intro h
    simp only [isDirectoryAt, Bool.or_eq_true, List.any_append, List.any_cons, List.any_nil,
      Bool.or_false, Bool.and_eq_true, decide_eq_true_eq, List.isPrefixOf_iff_prefix,
      List.prefix_concat_iff] at h
    rcases h with hold | hfile | ⟨hlength, hself | habove⟩
    · simp only [isDirectoryAt, Bool.or_eq_true, List.isPrefixOf_iff_prefix]
      exact .inl hold
    · simp only [isDirectoryAt, Bool.or_eq_true, List.isPrefixOf_iff_prefix]
      exact .inr hfile
    · exact absurd (congrArg List.length hself) hlength.ne
    · exact isDirectoryAt_of_isPrefix habove hplace
  · intro h
    simp only [isDirectoryAt, Bool.or_eq_true, List.any_append] at h ⊢
    exact h.imp id .inl

/-- An empty file in a directory is all that changes where it is added. -/
theorem kindAt_addFile (hplace : t.isDirectoryAt place)
    (hfree : t.kindAt (place ++ [name]) = none) (other : List String) :
    { t with files := t.files ++ [(place ++ [name], [])] }.kindAt other
      = if other = place ++ [name] then some (.file []) else t.kindAt other := by
  have hdirectory := isDirectoryAt_addFile hplace name other
  have hlookup : (t.files ++ [(place ++ [name], [])]).lookup other
      = (t.files.lookup other).or (if other = place ++ [name] then some [] else none) := by
    rw [List.lookup_append]
    by_cases hother : other = place ++ [name]
    · simp [hother]
    · rw [List.lookup_cons, beq_false_of_ne hother, if_neg hother, List.lookup_nil]
  rw [kindAt, kindAt, hlookup, hdirectory]
  by_cases hother : other = place ++ [name]
  · rw [hother, (kindAt_eq_none_iff.1 hfree).1]
    simp
  · simp [hother]

end OneMore

/-! ## Missing directories -/

/-- Whether one tree is another one with some more directories, each at one of the places. -/
structure AddsDirectories (t t' : FileTree) (places : List String → Prop) : Prop where
  workDir : t'.workDir = t.workDir
  isDirectoryAt : ∀ place, t.isDirectoryAt place → t'.isDirectoryAt place
  kindAt : ∀ place, t'.kindAt place = t.kindAt place
    ∨ places place ∧ t.kindAt place = none ∧ t'.kindAt place = some .directory

namespace AddsDirectories

variable {t t' t'' : FileTree} {places places' : List String → Prop}

theorem refl (t : FileTree) (places : List String → Prop) : AddsDirectories t t places :=
  ⟨rfl, fun _ h => h, fun _ => .inl rfl⟩

theorem mono (h : AddsDirectories t t' places) (himp : ∀ place, places place → places' place) :
    AddsDirectories t t' places' :=
  ⟨h.workDir, h.isDirectoryAt, fun place => (h.kindAt place).imp id (.imp (himp place) id)⟩

theorem trans (h : AddsDirectories t t' places) (h' : AddsDirectories t' t'' places) :
    AddsDirectories t t'' places where
  workDir := h'.workDir.trans h.workDir
  isDirectoryAt place hplace := h'.isDirectoryAt place (h.isDirectoryAt place hplace)
  kindAt place := by
    rcases h'.kindAt place with hsame' | ⟨hplaces, hfree, hnew⟩
    · rw [hsame']
      exact h.kindAt place
    · rcases h.kindAt place with hsame | ⟨-, -, hnew'⟩
      · exact .inr ⟨hplaces, hsame ▸ hfree, hnew⟩
      · rw [hnew'] at hfree
        cases hfree

/-- What is there stays. -/
theorem kept (h : AddsDirectories t t' places) {place : List String} {kind : Kind}
    (hkind : t.kindAt place = some kind) : t'.kindAt place = some kind := by
  rcases h.kindAt place with hsame | ⟨-, hfree, -⟩
  · rw [hsame, hkind]
  · rw [hkind] at hfree
    cases hfree

/-- One step: a missing directory in a directory. -/
theorem one {place : List String} {name : String} (hplace : t.isDirectoryAt place)
    (hfree : t.kindAt (place ++ [name]) = none) (hplaces : places (place ++ [name])) :
    AddsDirectories t { t with directories := t.directories ++ [place ++ [name]] } places where
  workDir := rfl
  isDirectoryAt other hother := (isDirectoryAt_addDirectory hplace name other).2 (.inl hother)
  kindAt other := by
    rw [kindAt_addDirectory hplace hfree]
    by_cases hother : other = place ++ [name]
    · rw [if_pos hother]
      exact .inr ⟨hother ▸ hplaces, hother ▸ hfree, rfl⟩
    · rw [if_neg hother]
      exact .inl rfl

end AddsDirectories

/-- Creating directories below a directory adds directories where the names lead. -/
theorem createBelow_adds (names : List String) (t : FileTree) (made : Bool) (place : List String)
    (hplace : t.isDirectoryAt place) :
    AddsDirectories t (t.createBelow made place names).2
      fun other => ∃ front, front <+: names ∧ other = walk place front := by
  induction names generalizing t made place with
  | nil => exact .refl t _
  | cons name rest ih =>
    rw [createBelow]
    by_cases hdots : name = ".."
    · -- back to the directory above
      subst hdots
      rw [if_pos rfl]
      refine (ih t made place.dropLast (isDirectoryAt_dropLast hplace)).mono ?_
      rintro other ⟨front, hfront, rfl⟩
      exact ⟨".." :: front, List.cons_prefix_cons.2 ⟨rfl, hfront⟩,
        (walk_cons_dots place front).symm⟩
    · have hbelow : ∀ other, (∃ front, front <+: rest ∧ other = walk (place ++ [name]) front) →
          ∃ front, front <+: name :: rest ∧ other = walk place front := by
        rintro other ⟨front, hfront, rfl⟩
        exact ⟨name :: front, List.cons_prefix_cons.2 ⟨rfl, hfront⟩,
          (walk_cons_name hdots place front).symm⟩
      rw [if_neg hdots]
      split
      · exact .refl t _
      · dsimp only
        split
        · next hkind =>
          exact (ih t made (place ++ [name]) (isDirectoryAt_of_kindAt hkind)).mono hbelow
        · exact .refl t _
        · next hkind =>
          have hplaces := hbelow (place ++ [name]) ⟨[], List.nil_prefix, rfl⟩
          have hmade := (isDirectoryAt_addDirectory hplace name (place ++ [name])).2 (.inr rfl)
          exact (AddsDirectories.one hplace hkind hplaces).trans ((ih _ true _ hmade).mono hbelow)

/-- **Creating directories** adds missing ones above the path and nothing else. -/
theorem createDirectories_adds (t : FileTree) (path : String) :
    AddsDirectories t (t.createDirectories path).2 (t.Above path) := by
  rw [createDirectories]
  split
  · exact .refl t _
  · split
    · exact .refl t _
    · rw [FilePath.parts_parent]
      exact createBelow_adds _ t false (t.start path) (isDirectoryAt_start t path)

/-! ## Opening a file -/

theorem enter_eq_ok {t : FileTree} {place place' names : List String}
    (h : t.enter place names = .ok place') :
    place' = walk place names
      ∧ ∀ front, front <+: names → t.kindAt (walk place front) = some .directory := by
  induction names generalizing place with
  | nil =>
    rw [enter] at h
    split at h
    · cases h
    · cases h
    · next hkind =>
      refine ⟨(Except.ok.inj h).symm, fun front hfront => ?_⟩
      rw [List.prefix_nil.1 hfront]
      exact hkind
  | cons name rest ih =>
    rw [enter] at h
    split at h
    · cases h
    · cases h
    · next hkind =>
      -- a front is empty, or it goes on behind the first name
      have hfronts : ∀ next, next = walk place [name] → t.enter next rest = .ok place' →
          place' = walk place (name :: rest) ∧ ∀ front, front <+: name :: rest →
            t.kindAt (walk place front) = some .directory := by
        rintro next rfl hnext
        obtain ⟨hplace', hbelow⟩ := ih hnext
        refine ⟨hplace', fun front hfront => ?_⟩
        cases front with
        | nil => exact hkind
        | cons first front =>
          obtain ⟨rfl, hrest⟩ := List.cons_prefix_cons.1 hfront
          exact hbelow front hrest
      split at h
      · next hdots => exact hfronts _ (hdots ▸ rfl) h
      · next hdots =>
        split at h
        · cases h
        · exact hfronts _ (walk_cons_name hdots place []).symm h

theorem follow_eq_entry {t : FileTree} {path name : String} {directory : List String} {slash : Bool}
    (h : t.follow path = .ok (.entry directory name slash)) :
    FilePath.lastName? path = some name
      ∧ t.enter (t.start path) (FilePath.parts path).dropLast = .ok directory := by
  rw [follow] at h
  split at h
  · cases h
  · split at h
    · cases h
    · split at h
      · obtain ⟨_, _, hentry⟩ := map_eq_ok.1 h
        cases hentry
      · next name' hname =>
        obtain ⟨directory', hdirectory, hentry⟩ := map_eq_ok.1 h
        cases hentry
        exact ⟨hname, hdirectory⟩

/-- Whether one tree is another one with a file at a place, an empty one unless it was there. -/
structure AddsFile (t t' : FileTree) (place : List String) : Prop where
  file : (∃ content, t.kindAt place = some (.file content) ∧ t'.kindAt place = t.kindAt place)
    ∨ t.kindAt place = none ∧ t'.kindAt place = some (.file [])
  elsewhere : ∀ other, other ≠ place → t'.kindAt other = t.kindAt other

/-- **Opening a file** leads through directories only, and adds at most the file. -/
theorem openForAppend_eq_ok {t t' : FileTree} {path : String}
    (h : t.openForAppend path = .ok t') :
    (∀ place, t.Above path place → t.kindAt place = some .directory)
      ∧ AddsFile t t' (t.placeOf path) := by
  rw [openForAppend] at h
  split at h
  · cases h
  · split at h
    · cases h
    · cases h
    · cases h
    · next directory name hfollow =>
      obtain ⟨hname, henter⟩ := follow_eq_entry hfollow
      obtain ⟨hparts, hdots⟩ := FilePath.parts_of_lastName? hname
      obtain ⟨hdirectory, habove⟩ := enter_eq_ok henter
      have hplace : t.placeOf path = directory ++ [name] := by
        rw [placeOf, hparts, walk_concat hdots, ← hdirectory]
      have hthere : t.isDirectoryAt directory := by
        rw [hdirectory]
        exact isDirectoryAt_of_kindAt (habove _ List.prefix_rfl)
      refine ⟨?_, ?_⟩
      · rintro place ⟨front, hfront, rfl⟩
        exact habove front hfront
      · rw [hplace]
        split at h
        · cases h
        · dsimp only at h
          split at h
          · cases h
          · next content hkind =>
            obtain rfl : t = t' := Except.ok.inj h
            exact ⟨.inl ⟨content, hkind, rfl⟩, fun _ _ => rfl⟩
          · next hkind =>
            obtain rfl := Except.ok.inj h
            have hadded := kindAt_addFile hthere hkind
            refine ⟨.inr ⟨hkind, ?_⟩, fun other hother => ?_⟩
            · rw [hadded, if_pos rfl]
            · rw [hadded, if_neg hother]

/-! ## Directories and a file -/

/-- Whether one tree is another one with the directories above a path and a file there, an empty
one unless it was there. -/
structure AddsPath (t t' : FileTree) (path : String) : Prop where
  above : ∀ place, t.Above path place → t'.kindAt place = some .directory
  file : (∃ content, t.kindAt (t.placeOf path) = some (.file content)
      ∧ t'.kindAt (t.placeOf path) = some (.file content))
    ∨ t.kindAt (t.placeOf path) = none ∧ t'.kindAt (t.placeOf path) = some (.file [])
  elsewhere : ∀ place, ¬ t.Above path place → place ≠ t.placeOf path →
    t'.kindAt place = t.kindAt place
  /-- What is there stays, files with their content. -/
  kept : ∀ place kind, t.kindAt place = some kind → t'.kindAt place = some kind

/-- Directories created for a path and the file opened then are the path. -/
theorem AddsDirectories.open_file {t t' t'' : FileTree} {path : String}
    (hdirectories : AddsDirectories t t' (t.Above path)) (hopen : t'.openForAppend path = .ok t'') :
    AddsPath t t'' path := by
  obtain ⟨habove, hfile⟩ := openForAppend_eq_ok hopen
  have hstart : t'.start path = t.start path := by rw [start, start, hdirectories.workDir]
  have hplace : t'.placeOf path = t.placeOf path := by rw [placeOf, placeOf, hstart]
  have hAbove : t'.Above path = t.Above path := by
    funext place
    rw [Above, Above, hstart]
  rw [hplace] at hfile
  rw [hAbove] at habove
  have hkept : ∀ place kind, t'.kindAt place = some kind → t''.kindAt place = some kind := by
    intro place kind hkind
    by_cases hother : place = t.placeOf path
    · subst hother
      rcases hfile.file with ⟨_, _, hsame⟩ | ⟨hfree, _⟩
      · rw [hsame, hkind]
      · rw [hkind] at hfree
        cases hfree
    · rw [hfile.elsewhere place hother, hkind]
  refine ⟨fun place h => hkept _ _ (habove place h), ?_, ?_,
    fun place kind h => hkept _ _ (hdirectories.kept h)⟩
  · rcases hfile.file with ⟨content, hkind, hsame⟩ | ⟨hfree, hnew⟩
    · rcases hdirectories.kindAt (t.placeOf path) with hbefore | ⟨_, _, hdirectory⟩
      · exact .inl ⟨content, hbefore ▸ hkind, hsame.trans hkind⟩
      · rw [hkind] at hdirectory
        cases hdirectory
    · rcases hdirectories.kindAt (t.placeOf path) with hbefore | ⟨_, _, hdirectory⟩
      · exact .inr ⟨hbefore ▸ hfree, hnew⟩
      · rw [hfree] at hdirectory
        cases hdirectory
  · intro place hplace' hother
    rw [hfile.elsewhere place hother]
    rcases hdirectories.kindAt place with hbefore | ⟨h, _⟩
    · exact hbefore
    · exact absurd h hplace'

end RobotClient.FileTree
