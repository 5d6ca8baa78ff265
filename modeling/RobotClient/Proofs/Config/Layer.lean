import Mathlib
import RobotClient.Config.Layer
import RobotClient.Proofs.Config.Path

set_option autoImplicit false

/-! # What layers leave at a place

A place is a list of names, each a key of a table inside the one before. A layer of tables leaves at
a place what it has there itself, put over what was there. A layer of keys that are paths leaves
there what its one key for the place holds. What neither has keeps its value. -/

namespace RobotClient.Config

/-! ## Places -/

namespace Value

/-- The entries of a table. Other values have none. -/
def entries : Value → Entries
  | .table _ entries => entries
  | _ => []

/-- The value is a table. -/
def IsTable : Value → Prop
  | .table .. => True
  | _ => False

instance (value : Value) : Decidable value.IsTable :=
  match value with
  | .table .. => isTrue trivial
  | .scalar .. | .list .. => isFalse not_false

@[simp] theorem entries_table (origin : Option String) (entries : Entries) :
    (table origin entries).entries = entries := rfl

@[simp] theorem isTable_table (origin : Option String) (entries : Entries) :
    (table origin entries).IsTable := trivial

/-- What a value holds at a place. -/
def at? (value : Value) : List String → Option Value
  | [] => some value
  | name :: path => (value.entries.lookup name).bind (·.at? path)

/-- What a value holds at a place, the keys of its tables being in any case. -/
def foldedAt? (value : Value) : List String → Option Value
  | [] => some value
  | name :: path =>
    (value.entries.find? fun entry => Text.lower entry.1 = name).bind (·.2.foldedAt? path)

/-- No table inside tables has two keys that a function makes one. -/
inductive KeysApart (fold : String → String) : Value → Prop
  | scalar {origin : Option String} {value : Scalar} : KeysApart fold (.scalar origin value)
  | list {origin : Option String} {items : List Value} : KeysApart fold (.list origin items)
  | table {origin : Option String} {entries : Entries}
      (apart : (entries.map fun entry => fold entry.1).Nodup)
      (inner : ∀ entry ∈ entries, KeysApart fold entry.2) : KeysApart fold (.table origin entries)

end Value

open Value (KeysApart)

theorem Value.at?_eq_of_entries {value other : Value} (h : value.entries = other.entries)
    {path : List String} (hpath : path ≠ []) : value.at? path = other.at? path := by
  cases path with
  | nil => exact absurd rfl hpath
  | cons name path => rw [Value.at?, Value.at?, h]

theorem Value.KeysApart.entries_nodup {fold : String → String} {value : Value}
    (h : KeysApart fold value) : (value.entries.map fun entry => fold entry.1).Nodup := by
  cases h with
  | table apart _ => exact apart
  | _ => exact List.nodup_nil

theorem Value.KeysApart.of_mem_entries {fold : String → String} {value : Value}
    (h : KeysApart fold value) {entry : String × Value} (hentry : entry ∈ value.entries) :
    KeysApart fold entry.2 := by
  cases h with
  | table _ inner => exact inner entry hentry
  | _ => exact absurd hentry List.not_mem_nil

/-! ## A table over a table -/

theorem override_of_not_isTable {value : Value} (h : ¬ value.IsTable) (existing : Option Value) :
    override existing value = value := by
  cases value with
  | table => exact absurd trivial h
  | scalar | list => simp only [override]

/-- A table goes over the entries that were there, whatever was there. -/
theorem entries_override (existing : Option Value) (origin : Option String) (entries : Entries) :
    (override existing (.table origin entries)).entries
      = overrideAll (existing.elim [] Value.entries) entries := by
  cases existing with
  | none => simp [override]
  | some old =>
    cases old with
    | table => simp [override]
    | scalar | list =>
      -- an empty table leaves the value as it is, which has no entries either
      by_cases hempty : entries = []
      · simp [override, hempty, Value.entries, overrideAll]
      · simp [override, hempty, Value.entries]

/-- A table over a table, or over nothing, is a table. -/
theorem isTable_override {existing : Option Value} {value : Value} (hvalue : value.IsTable)
    (hexisting : ∀ old, existing = some old → old.IsTable) : (override existing value).IsTable := by
  cases value with
  | scalar | list => exact absurd hvalue not_false
  | table origin entries =>
    cases existing with
    | none => simp [override]
    | some old =>
      cases old with
      | table => simp [override]
      | scalar | list => exact absurd (hexisting _ rfl) not_false

/-- A key of a table of which the layer has one, in any case, holds the layer's value put over what
    it held. -/
theorem lookup_overrideAll {entries : Entries}
    (h : (entries.map fun entry => Text.lower entry.1).Nodup) (old : Entries) (name : String) :
    (overrideAll old entries).lookup name =
      match entries.find? fun entry => Text.lower entry.1 = name with
      | some entry => some (override (old.lookup name) entry.2)
      | none => old.lookup name := by
  induction entries generalizing old with
  | nil => rw [overrideAll]; rfl
  | cons entry rest ih =>
    obtain ⟨key, value⟩ := entry
    simp only [List.map_cons, List.nodup_cons] at h
    rw [overrideAll, ih h.2]
    by_cases hname : Text.lower key = name
    · subst hname
      have hrest : (rest.find? fun entry => Text.lower entry.1 = Text.lower key) = none := by
        rw [List.find?_eq_none]
        intro entry hentry heq
        exact h.1 (List.mem_map.2 ⟨entry, hentry, by simpa using heq⟩)
      simp [hrest]
    · rw [List.find?_cons_of_neg (by simpa using hname),
        Entries.lookup_put_of_ne (Ne.symm hname)]

/-- **A table leaves at a place what it has there, put over what was there.** On the way to the
    place the layer must have tables only. -/
theorem at?_overrideAll {origin : Option String} {entries : Entries} {path : List String}
    (hpath : path ≠ []) (hapart : KeysApart Text.lower (.table origin entries))
    (htables : ∀ front, front <+: path → front ≠ path →
      ∀ value, (Value.table origin entries).foldedAt? front = some value → value.IsTable)
    (origin' : Option String) (old : Entries) :
    (Value.table origin' (overrideAll old entries)).at? path =
      match (Value.table origin entries).foldedAt? path with
      | some value => some (override ((Value.table origin' old).at? path) value)
      | none => (Value.table origin' old).at? path := by
  induction path generalizing origin entries origin' old with
  | nil => exact absurd rfl hpath
  | cons name path ih =>
    have hlookup := lookup_overrideAll hapart.entries_nodup old name
    simp only [Value.entries_table] at hlookup
    simp only [Value.at?, Value.foldedAt?, Value.entries_table, hlookup]
    cases hfind : entries.find? fun entry => Text.lower entry.1 = name with
    | none => rfl
    | some entry =>
      simp only [Option.bind_some]
      by_cases hnil : path = []
      · subst hnil
        cases old.lookup name <;> rfl
      · -- deeper places are inside the table that the layer has at `name`
        have hinner : entry.2.IsTable := by
          refine htables [name] ⟨path, rfl⟩ (by simp [Ne.symm hnil]) entry.2 ?_
          simp [Value.foldedAt?, hfind]
        obtain ⟨key, value⟩ := entry
        cases value with
        | scalar | list => exact absurd hinner not_false
        | table inner below =>
          have hold : ((old.lookup name).bind (·.at? path))
              = (Value.table none ((old.lookup name).elim [] Value.entries)).at? path := by
            cases old.lookup name with
            | none =>
              cases path with
              | nil => exact absurd rfl hnil
              | cons => rfl
            | some there =>
              have hsame : there.entries = (Value.table none there.entries).entries := rfl
              exact Value.at?_eq_of_entries hsame hnil
          have hnew : (override (old.lookup name) (.table inner below)).at? path
              = (Value.table none
                  (overrideAll ((old.lookup name).elim [] Value.entries) below)).at? path :=
            Value.at?_eq_of_entries (entries_override ..) hnil
          rw [hold, hnew]
          refine ih hnil (hapart.of_mem_entries (List.mem_of_find?_eq_some hfind)) ?_ none _
          intro front hfront hne there hthere
          refine htables (name :: front) ?_ (by simp [hne]) there ?_
          · exact (List.prefix_cons_inj name).2 hfront
          · simp [Value.foldedAt?, hfind, hthere]

/-- A layer whose keys are plain goes over a table as a table does. -/
theorem overrideLayer_of_plain {layer : List (String × Value)} (h : ∀ entry ∈ layer, Plain entry.1)
    (origin : Option String) (old : Entries) :
    overrideLayer (.table origin old) layer = .table origin (overrideAll old layer) := by
  induction layer generalizing old with
  | nil => rw [overrideAll]; rfl
  | cons entry rest ih =>
    obtain ⟨key, value⟩ := entry
    have hkey : Plain key := h _ List.mem_cons_self
    have hstep : overrideKey (.table origin old) key value = .table origin
        (Entries.put (Text.lower key) (override (old.lookup (Text.lower key)) value) old) := by
      rw [overrideKey, hkey.pathOf_lower]
      rfl
    rw [overrideLayer, List.foldl_cons, hstep, overrideAll]
    exact ih (fun e he => h e (List.mem_cons_of_mem _ he)) _

/-! ## A value at a place -/

/-- A value that is no table, put at a place below another: the first table on the way changes at
    one key, and is made if there was none. -/
theorem entries_overrideAt {value : Value} (h : ¬ value.IsTable) (existing : Value) (name : String)
    (path : List String) :
    (overrideAt existing ((name :: path).map .key) value).entries =
      Entries.put name
        (overrideAt ((existing.entries.lookup name).getD .nothing) (path.map .key) value)
        existing.entries := by
  cases existing <;> cases path <;>
    simp [overrideAt, override_of_not_isTable h, Value.entries]

theorem isTable_overrideAt (existing value : Value) (name : String) (path : List String) :
    (overrideAt existing ((name :: path).map .key) value).IsTable := by
  cases path <;> exact trivial

/-- The place holds the value. -/
theorem at?_overrideAt_self {value : Value} (h : ¬ value.IsTable) (existing : Value)
    (path : List String) : (overrideAt existing (path.map .key) value).at? path = some value := by
  induction path generalizing existing with
  | nil => simp [overrideAt, override_of_not_isTable h, Value.at?]
  | cons name path ih =>
    rw [Value.at?, entries_overrideAt h, Entries.lookup_put_self]
    exact ih _

/-- A place beside the way to the changed one keeps what it holds. -/
theorem at?_overrideAt_beside {value : Value} (h : ¬ value.IsTable) {place path : List String}
    (hplace : ¬ place <+: path) (hpath : ¬ path <+: place) (existing : Value) :
    (overrideAt existing (place.map .key) value).at? path = existing.at? path := by
  induction place generalizing path existing with
  | nil => exact absurd List.nil_prefix hplace
  | cons name place ih =>
    cases path with
    | nil => exact absurd List.nil_prefix hpath
    | cons other path =>
      rw [Value.at?, Value.at?, entries_overrideAt h]
      by_cases hname : other = name
      · subst hname
        rw [List.prefix_cons_inj] at hplace hpath
        rw [Entries.lookup_put_self, Option.bind_some, ih hplace hpath]
        cases existing.entries.lookup other with
        | some there => rfl
        | none =>
          cases path with
          | nil => exact absurd List.nil_prefix hpath
          | cons => rfl
      · rw [Entries.lookup_put_of_ne hname]

/-- On the way to the changed place there are tables. -/
theorem isTable_at?_overrideAt {value : Value} (h : ¬ value.IsTable) {place path : List String}
    (hpath : path <+: place) (hne : path ≠ place) (existing : Value) :
    ∃ there, (overrideAt existing (place.map .key) value).at? path = some there
      ∧ there.IsTable := by
  induction place generalizing path existing with
  | nil => exact absurd (List.prefix_nil.1 hpath) hne
  | cons name place ih =>
    cases path with
    | nil => exact ⟨_, rfl, isTable_overrideAt existing value name place⟩
    | cons other path =>
      obtain ⟨rfl, hbelow⟩ := List.cons_prefix_cons.1 hpath
      rw [Value.at?, entries_overrideAt h, Entries.lookup_put_self]
      exact ih hbelow (by simpa using hne) _

/-! ## Layers of paths -/

/-- Every key leads through its names to a value that is no table. -/
def KeyedByPaths (layer : List (String × Value)) : Prop :=
  ∀ entry ∈ layer,
    pathOf (Text.lower entry.1) = (keyNames entry.1).map .key ∧ ¬ entry.2.IsTable

theorem KeyedByPaths.overrideKey {layer : List (String × Value)} (h : KeyedByPaths layer)
    {entry : String × Value} (hentry : entry ∈ layer) (config : Value) :
    overrideKey config entry.1 entry.2
      = overrideAt config ((keyNames entry.1).map .key) entry.2 := by
  rw [Config.overrideKey, (h entry hentry).1]

/-- The values are put at their places one after the other. -/
theorem KeyedByPaths.overrideLayer {layer : List (String × Value)} (h : KeyedByPaths layer)
    (config : Value) :
    overrideLayer config layer = (layer.map fun entry => (keyNames entry.1, entry.2)).foldl
      (fun config entry => overrideAt config (entry.1.map .key) entry.2) config := by
  induction layer generalizing config with
  | nil => rfl
  | cons entry rest ih =>
    rw [Config.overrideLayer, List.foldl_cons, h.overrideKey List.mem_cons_self]
    exact ih (fun e he => h e (List.mem_cons_of_mem _ he)) _

/-- **A layer of paths leaves at a place the value of its key for the place**, if no other key of
    the layer leads further or stops on the way. -/
theorem at?_overrideLayer {layer : List (String × Value)} (hkeyed : KeyedByPaths layer)
    (hapart : layer.Pairwise fun entry other => keyNames entry.1 ≠ keyNames other.1)
    {path : List String}
    (hpath : ∀ entry ∈ layer, keyNames entry.1 <+: path ∨ path <+: keyNames entry.1 →
      keyNames entry.1 = path) (config : Value) :
    (overrideLayer config layer).at? path =
      ((layer.find? fun entry => keyNames entry.1 = path).map (·.2)).or (config.at? path) := by
  induction layer generalizing config with
  | nil => rfl
  | cons entry rest ih =>
    obtain ⟨hfirst, hrest⟩ := List.pairwise_cons.1 hapart
    have hvalue : ¬ entry.2.IsTable := (hkeyed entry List.mem_cons_self).2
    have hlater := ih (fun e he => hkeyed e (List.mem_cons_of_mem _ he)) hrest
      (fun e he => hpath e (List.mem_cons_of_mem _ he)) (overrideKey config entry.1 entry.2)
    rw [overrideLayer, List.foldl_cons]
    refine hlater.trans ?_
    rw [hkeyed.overrideKey List.mem_cons_self]
    by_cases hname : keyNames entry.1 = path
    · have hnone : (rest.find? fun other => keyNames other.1 = path) = none := by
        rw [List.find?_eq_none]
        intro other hother heq
        exact hfirst other hother (by rw [hname]; simpa [eq_comm] using heq)
      subst hname
      simp [hnone, at?_overrideAt_self hvalue]
    · rw [List.find?_cons_of_neg (by simpa using hname), at?_overrideAt_beside hvalue]
      · intro hprefix
        exact hname (hpath entry List.mem_cons_self (.inl hprefix))
      · intro hprefix
        exact hname (hpath entry List.mem_cons_self (.inr hprefix))

/-- Where there is a table or nothing, a layer of paths that does not end on the way there leaves a
    table or nothing. -/
theorem isTable_at?_overrideLayer {layer : List (String × Value)} (hkeyed : KeyedByPaths layer)
    {path : List String} (hpath : ∀ entry ∈ layer, ¬ keyNames entry.1 <+: path) {config : Value}
    (hconfig : ∀ value, config.at? path = some value → value.IsTable) :
    ∀ value, (overrideLayer config layer).at? path = some value → value.IsTable := by
  induction layer generalizing config with
  | nil => exact hconfig
  | cons entry rest ih =>
    have hvalue : ¬ entry.2.IsTable := (hkeyed entry List.mem_cons_self).2
    have hends : ¬ keyNames entry.1 <+: path := hpath entry List.mem_cons_self
    rw [overrideLayer, List.foldl_cons, hkeyed.overrideKey List.mem_cons_self]
    refine ih (fun e he => hkeyed e (List.mem_cons_of_mem _ he))
      (fun e he => hpath e (List.mem_cons_of_mem _ he)) ?_
    by_cases hprefix : path <+: keyNames entry.1
    · obtain ⟨there, hthere, htable⟩ := isTable_at?_overrideAt hvalue hprefix
        (fun heq => hends (heq ▸ List.prefix_rfl)) config
      intro value hat
      obtain rfl := Option.some.inj (hthere.symm.trans hat)
      exact htable
    · rw [at?_overrideAt_beside hvalue hends hprefix]
      exact hconfig

/-! ## Tables without repeated keys -/

theorem Entries.mem_put {key : String} {value : Value} {entries : Entries} {entry : String × Value}
    (h : entry ∈ Entries.put key value entries) : entry = (key, value) ∨ entry ∈ entries := by
  induction entries with
  | nil => exact .inl (List.mem_singleton.1 h)
  | cons first rest ih =>
    simp only [Entries.put] at h
    split at h
    · next hkey =>
      obtain rfl | hrest := List.mem_cons.1 h
      · exact .inl (by rw [hkey])
      · exact .inr (List.mem_cons_of_mem _ hrest)
    · obtain rfl | hrest := List.mem_cons.1 h
      · exact .inr List.mem_cons_self
      · exact (ih hrest).imp_right (List.mem_cons_of_mem _)

theorem Entries.nodup_put {key : String} {value : Value} {entries : Entries}
    (h : (entries.map Prod.fst).Nodup) : ((Entries.put key value entries).map Prod.fst).Nodup := by
  induction entries with
  | nil => simp [Entries.put]
  | cons first rest ih =>
    simp only [List.map_cons, List.nodup_cons] at h
    simp only [Entries.put]
    split
    · exact List.nodup_cons.2 h
    · next hkey =>
      refine List.nodup_cons.2 ⟨?_, ih h.2⟩
      intro hmem
      obtain ⟨entry, hentry, heq⟩ := List.mem_map.1 hmem
      obtain rfl | hrest := Entries.mem_put hentry
      · exact hkey heq.symm
      · exact h.1 (List.mem_map.2 ⟨entry, hrest, heq⟩)

theorem Value.KeysApart.put {origin : Option String} {entries : Entries} {value : Value}
    (h : KeysApart id (.table origin entries)) (hvalue : KeysApart id value)
    (origin' : Option String) (key : String) :
    KeysApart id (.table origin' (Entries.put key value entries)) := by
  refine .table (Entries.nodup_put h.entries_nodup) ?_
  intro entry hentry
  obtain rfl | hold := Entries.mem_put hentry
  · exact hvalue
  · exact h.of_mem_entries hold

theorem Value.KeysApart.of_lookup {origin : Option String} {entries : Entries} {name : String}
    {value : Value} (h : KeysApart id (.table origin entries))
    (hlookup : entries.lookup name = some value) : KeysApart id value := by
  obtain ⟨front, back, rfl, -⟩ := List.lookup_eq_some_iff.1 hlookup
  exact h.of_mem_entries (by simp : (name, value) ∈ front ++ (name, value) :: back)

theorem keysApart_table_nil {fold : String → String} (origin : Option String) :
    KeysApart fold (.table origin []) :=
  .table List.nodup_nil fun _ h => absurd h List.not_mem_nil

mutual

theorem keysApart_override (existing : Option Value)
    (h : ∀ old, existing = some old → KeysApart id old) :
    (value : Value) → KeysApart id (override existing value)
  | .scalar .. => by simp only [override]; exact .scalar
  | .list .. => by simp only [override]; exact .list
  | .table _ entries => by
    cases existing with
    | none =>
      simp only [override]
      exact keysApart_overrideAll (keysApart_table_nil none) entries
    | some old =>
      have hold := h old rfl
      cases old with
      | table origin below =>
        simp only [override]
        exact keysApart_overrideAll hold entries
      | scalar | list =>
        simp only [override]
        split
        · exact hold
        · exact keysApart_overrideAll (keysApart_table_nil none) entries

theorem keysApart_overrideAll {origin : Option String} {old : Entries}
    (h : KeysApart id (.table origin old)) :
    (entries : List (String × Value)) → KeysApart id (.table origin (overrideAll old entries))
  | [] => by rwa [overrideAll]
  | (key, value) :: rest => by
    rw [overrideAll]
    refine keysApart_overrideAll (h.put (keysApart_override _ ?_ value) _ _) rest
    intro there hthere
    exact h.of_lookup hthere

end

theorem keysApart_overrideAt {value : Value} (hvalue : KeysApart id value) (h : ¬ value.IsTable)
    {existing : Value} (hexisting : KeysApart id existing) (place : List String) :
    KeysApart id (overrideAt existing (place.map .key) value) := by
  induction place generalizing existing with
  | nil => simpa [overrideAt, override_of_not_isTable h] using hvalue
  | cons name place ih =>
    have hentries : KeysApart id (.table none existing.entries) :=
      .table hexisting.entries_nodup fun _ hentry => hexisting.of_mem_entries hentry
    have hbelow : KeysApart id ((existing.entries.lookup name).getD .nothing) := by
      cases hlookup : existing.entries.lookup name with
      | none => exact .scalar
      | some there => exact hentries.of_lookup hlookup
    have hput := hentries.put (ih hbelow) none name
    rw [← entries_overrideAt h] at hput
    cases hresult : overrideAt existing ((name :: place).map .key) value with
    | scalar => exact .scalar
    | list => exact .list
    | table origin entries =>
      rw [hresult] at hput
      exact .table hput.entries_nodup fun _ hentry => hput.of_mem_entries hentry

theorem keysApart_overrideLayer {layer : List (String × Value)} (hkeyed : KeyedByPaths layer)
    (hvalues : ∀ entry ∈ layer, KeysApart id entry.2) {config : Value}
    (hconfig : KeysApart id config) : KeysApart id (overrideLayer config layer) := by
  induction layer generalizing config with
  | nil => exact hconfig
  | cons entry rest ih =>
    rw [overrideLayer, List.foldl_cons, hkeyed.overrideKey List.mem_cons_self]
    refine ih (fun e he => hkeyed e (List.mem_cons_of_mem _ he))
      (fun e he => hvalues e (List.mem_cons_of_mem _ he)) ?_
    exact keysApart_overrideAt (hvalues entry List.mem_cons_self)
      (hkeyed entry List.mem_cons_self).2 hconfig _

/-! ## Positions -/

/-- Names lead past no list. -/
theorem misses_map_key (existing : Value) (place : List String) :
    misses existing (place.map .key) = false := by
  induction place generalizing existing with
  | nil => rfl
  | cons name place ih =>
    cases existing <;> exact ih _

theorem layerMisses_eq_false {layer : List (String × Value)}
    (h : ∀ entry ∈ layer, ∃ place : List String, pathOf (Text.lower entry.1) = place.map .key)
    (config : Value) : layerMisses config layer = false := by
  induction layer generalizing config with
  | nil => rfl
  | cons entry rest ih =>
    obtain ⟨place, hplace⟩ := h entry List.mem_cons_self
    rw [layerMisses, hplace, misses_map_key, Bool.false_or]
    exact ih (fun e he => h e (List.mem_cons_of_mem _ he)) _

end RobotClient.Config
