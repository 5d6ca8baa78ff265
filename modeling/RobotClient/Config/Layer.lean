import RobotClient.Config.Path
import RobotClient.Config.Value

set_option autoImplicit false

/-! # Layers

A later layer overrides an earlier one key by key, also inside tables; keys are in lower case. What
is no table replaces what was there. -/

namespace RobotClient.Config

/-! ## Values over values -/

mutual

/-- What a key holds after a value is put over what it held. An empty table changes nothing. -/
def override (existing : Option Value) : Value → Value
  | .table _ entries =>
    match existing with
    | none => .table none (overrideAll [] entries)
    | some (.table origin old) => .table origin (overrideAll old entries)
    | some other => if entries.isEmpty then other else .table none (overrideAll [] entries)
  | value => value

/-- A table after the entries of another are put over its own. -/
def overrideAll (old : Entries) : List (String × Value) → Entries
  | [] => old
  | (key, value) :: rest =>
    let key := Text.lower key
    overrideAll (Entries.put key (override (old.lookup key) value) old) rest

end

/-! ## Values at paths -/

/-- The position of an item, counted from the end if negative. -/
def position (i : Int) (length : Nat) : Nat := if i < 0 then (length + i).toNat else i.toNat

/-- A list with a changed item; missing items before it hold nothing. -/
def changeItem (items : List Value) (i : Nat) (f : Value → Value) : List Value :=
  let items := items ++ List.replicate (i + 1 - items.length) Value.nothing
  items.modify i f

/-- What a place holds after a value is put over the place that a path leads to from it. A place on
    the path that is no table, or no list, becomes one. -/
def overrideAt (existing : Value) : List Step → Value → Value
  | [], value => override (some existing) value
  | .key name :: path, value =>
    let (origin, entries) :=
      match existing with
      | .table origin entries => (origin, entries)
      | _ => (none, [])
    .table origin <|
      match path with
      | [] => Entries.put name (override (entries.lookup name) value) entries
      | _ => Entries.put name (overrideAt ((entries.lookup name).getD .nothing) path value) entries
  | .index i :: path, value =>
    let (origin, items) :=
      match existing with
      | .list origin items => (origin, items)
      | _ => (none, [])
    .list origin <| changeItem items (position i items.length) fun item =>
      match path with
      | [] => value
      | _ => overrideAt item path value

/-- A configuration after one key of a layer. -/
def overrideKey (config : Value) (key : String) (value : Value) : Value :=
  overrideAt config (pathOf (Text.lower key)) value

/-- A configuration after a layer. -/
def overrideLayer (config : Value) (layer : List (String × Value)) : Value :=
  layer.foldl (fun config entry => overrideKey config entry.1 entry.2) config

/-- The configuration that layers make, the first one below. -/
def ofLayers (layers : List (List (String × Value))) : Value :=
  layers.foldl overrideLayer (.table none [])

/-! ## Positions that lists cannot have -/

/-- How many items a list has room for. -/
def listRoom : Nat := Nat.pow 2 24

/-- Whether a path leads to a position before the start of a list, or beyond all room. -/
def misses (existing : Value) : List Step → Bool
  | [] => false
  | .key name :: path =>
    let entries :=
      match existing with
      | .table _ entries => entries
      | _ => []
    misses ((entries.lookup name).getD .nothing) path
  | .index i :: path =>
    let items :=
      match existing with
      | .list _ items => items
      | _ => []
    items.length + i < 0 || listRoom ≤ i
      || misses (items.getD (position i items.length) .nothing) path

/-- Whether a key of a layer misses its list, the keys before it being in force. -/
def layerMisses (config : Value) : List (String × Value) → Bool
  | [] => false
  | (key, value) :: rest =>
    misses config (pathOf (Text.lower key)) || layerMisses (overrideKey config key value) rest

/-- Whether a key of some layers misses its list, the layers before it being in force. -/
def layersMiss (config : Value) : List (List (String × Value)) → Bool
  | [] => false
  | layer :: rest => layerMisses config layer || layersMiss (overrideLayer config layer) rest

end RobotClient.Config
