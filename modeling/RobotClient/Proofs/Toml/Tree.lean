import Mathlib
import RobotClient.Toml.Time
import RobotClient.Toml.Tree

set_option autoImplicit false

/-! # Places in the tree of a TOML document

A place is a path of tables, each the last key of the one before it. What is done at a place is done
to the table there and leaves the rest of the tree as it is. A complete tree gives its values
unchanged when none of its tables starts with the key that is reserved for times. -/

namespace RobotClient.Toml

namespace Entries

/-! ## Keys -/

/-- The keys of a table. -/
def keys (entries : Entries) : List String := entries.map Prod.fst

/-- A change at a key leaves the entries before it alone. -/
theorem change_append {key : String} {entries : Entries} (h : key ∉ entries.keys)
    (f : Option Entry → Option Entry) (more : Entries) :
    change key f (entries ++ more) = (change key f more).map (entries ++ ·) := by
  induction entries with
  | nil => simp
  | cons entry rest ih =>
    obtain ⟨k, e⟩ := entry
    simp only [keys, List.map_cons, List.mem_cons, not_or] at h
    rw [List.cons_append, change, if_neg (Ne.symm h.1), ih h.2, Option.map_map]
    rfl

/-- A change at a key that is not there adds it. -/
theorem change_of_not_mem {key : String} {entries : Entries} (h : key ∉ entries.keys)
    (f : Option Entry → Option Entry) :
    change key f entries = (f none).map fun entry => entries ++ [(key, entry)] := by
  have happend := change_append h f []
  rw [List.append_nil] at happend
  rw [happend, change, Option.map_map]
  rfl

theorem insert_of_not_mem {key : String} {entries : Entries} (h : key ∉ entries.keys)
    (value : Json) : insert value [key] entries = some (entries ++ [(key, .value value)]) := by
  rw [insert, change_of_not_mem h]
  rfl

theorem openTable_of_not_mem {key : String} {entries : Entries} (h : key ∉ entries.keys) :
    openTable key entries = some (entries ++ [(key, .table .heading [])]) := by
  rw [openTable, change_of_not_mem h]
  rfl

/-! ## Places -/

theorem within_append (path : List String) (key : String) (f : Entries → Option Entries)
    (entries : Entries) :
    within (path ++ [key]) f entries = within path (within [key] f) entries := by
  induction path generalizing entries with
  | nil => rfl
  | cons k path ih =>
    rw [List.cons_append, within, within]
    congr 1
    funext found
    cases found with
    | none => simp only [ih]
    | some entry => cases entry <;> simp only [ih]

/-- A place of a tree: `put` makes the tree from the table that the path leads to. -/
structure IsPlace (path : List String) (put : Entries → Entries) : Prop where
  within_eq (inner : Entries) (f : Entries → Option Entries) :
    within path f (put inner) = (f inner).map put

theorem isPlace_root : IsPlace [] id where
  within_eq := by
    intro inner f
    simp [within]

/-- A table behind the other entries of a place is a place. -/
theorem IsPlace.child {path : List String} {put : Entries → Entries} (h : IsPlace path put)
    {inner : Entries} {key : String} (hkey : key ∉ inner.keys) (origin : Origin) :
    IsPlace (path ++ [key]) fun entries => put (inner ++ [(key, .table origin entries)]) where
  within_eq := by
    intro entries f
    have hchange : within [key] f (inner ++ [(key, .table origin entries)])
        = (f entries).map fun entries => inner ++ [(key, .table origin entries)] := by
      rw [within, change_append hkey, change, if_pos rfl]
      simp only [within, Option.map_map]
      rfl
    rw [within_append, h.within_eq, hchange, Option.map_map]
    rfl

end Entries

/-! ## Values -/

theorem entriesToJson_append (entries more : Entries) :
    entriesToJson (entries ++ more) = entriesToJson entries ++ entriesToJson more := by
  induction entries with
  | nil => rfl
  | cons entry rest ih =>
    obtain ⟨key, entry⟩ := entry
    rw [List.cons_append, entriesToJson, entriesToJson, ih, List.cons_append]

/-- Members as the entries of a table. -/
def ofMembers (members : List (String × Json)) : Entries :=
  members.map fun member => (member.1, .value member.2)

theorem entriesToJson_ofMembers (members : List (String × Json)) :
    entriesToJson (ofMembers members) = members := by
  induction members with
  | nil => rfl
  | cons member members ih =>
    rw [ofMembers, List.map_cons, entriesToJson, Entry.toJson]
    exact congrArg (member :: ·) ih

theorem keys_ofMembers (members : List (String × Json)) :
    (ofMembers members).keys = members.map Prod.fst := by
  simp [ofMembers, Entries.keys]

/-- No table in a value starts with the key that is reserved for times. -/
inductive Timeless : Json → Prop
  | null : Timeless .null
  | bool (b : Bool) : Timeless (.bool b)
  | integer (n : Int) : Timeless (.integer n)
  | real (x : Number.Binary64) : Timeless (.real x)
  | text (s : String) : Timeless (.text s)
  | list {items : List Json} (each : ∀ item ∈ items, Timeless item) : Timeless (.list items)
  | object {members : List (String × Json)} (first : ∀ m ∈ members.head?, m.1 ≠ momentKey)
      (each : ∀ member ∈ members, Timeless member.2) : Timeless (.object members)

theorem settleItems_eq_self {items : List Json} (h : ∀ item ∈ items, settle item = some item) :
    settleItems items = some items := by
  induction items with
  | nil => rfl
  | cons item items ih =>
    rw [settleItems, h item List.mem_cons_self, ih fun i hi => h i (List.mem_cons_of_mem _ hi)]
    rfl

theorem settleMembers_eq_self {members : List (String × Json)}
    (h : ∀ member ∈ members, settle member.2 = some member.2) :
    settleMembers members = some members := by
  induction members with
  | nil => rfl
  | cons member members ih =>
    rw [settleMembers, h member List.mem_cons_self,
      ih fun m hm => h m (List.mem_cons_of_mem _ hm)]
    rfl

/-- A value without times is complete as it is. -/
theorem settle_eq_self {value : Json} (h : Timeless value) : settle value = some value := by
  induction h with
  | null | bool | integer | real | text => simp only [settle]
  | list each ih => rw [settle, settleItems_eq_self ih]; rfl
  | @object members first each ih =>
    cases members with
    | nil => simp only [settle]
    | cons member members =>
      have hhead := ih member List.mem_cons_self
      have htail := settleMembers_eq_self fun m hm => ih m (List.mem_cons_of_mem _ hm)
      rw [settle, if_neg (first member rfl), hhead, htail]
      rfl

theorem settleMembers_append {members : List (String × Json)} (h : ∀ m ∈ members, Timeless m.2)
    (key : String) (value : Json) :
    settleMembers (members ++ [(key, value)])
      = (settle value).map fun v => members ++ [(key, v)] := by
  induction members with
  | nil =>
    rw [List.nil_append, settleMembers, settleMembers]
    cases settle value <;> rfl
  | cons member members ih =>
    have hhead := settle_eq_self (h member List.mem_cons_self)
    have htail := ih fun m hm => h m (List.mem_cons_of_mem _ hm)
    rw [List.cons_append, settleMembers, hhead, htail]
    cases settle value <;> rfl

/-- A table whose other members hold no times is complete when its last member is. -/
theorem settle_append {members : List (String × Json)} (hne : members ≠ [])
    (h : Timeless (.object members)) (key : String) (value : Json) :
    settle (.object (members ++ [(key, value)]))
      = (settle value).map fun v => .object (members ++ [(key, v)]) := by
  cases h with
  | object first each =>
    cases members with
    | nil => exact absurd rfl hne
    | cons member members =>
      have hhead := settle_eq_self (each member List.mem_cons_self)
      have htail := settleMembers_append (fun m hm => each m (List.mem_cons_of_mem _ hm)) key value
      rw [List.cons_append, settle, if_neg (first member rfl), hhead, htail]
      cases settle value <;> rfl

end RobotClient.Toml
