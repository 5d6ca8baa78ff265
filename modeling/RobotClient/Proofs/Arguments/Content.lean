import RobotClient.Arguments.Reader

set_option autoImplicit false

/-! # What a list of items amounts to

Items are put together one after the other. Told at once: an argument vector without defects says
its plain arguments and its settings, where a setting that can be given many times is kept each time
and in order, and of one that holds a single value the last counts. -/

namespace RobotClient

/-! ## Parts of an item list -/

/-- The plain arguments among items, in order. -/
def Item.plains (items : List Item) : List String :=
  items.filterMap fun | .plain token => some token | _ => none

/-- The settings among items, in order. -/
def Item.settings (items : List Item) : List Setting :=
  items.filterMap fun | .setting s => some s | _ => none

/-! ## Gathering -/

namespace Arguments

/-- The arguments with the given plain arguments that the given settings make, field by field. -/
def gather (plain : List String) (settings : List Setting) : Arguments where
  plain := plain
  remapRules := settings.filterMap fun | .remap rule => some rule | _ => none
  parameters := settings.filterMap fun | .parameter assignment => some assignment | _ => none
  parameterFiles := settings.filterMap fun | .parameterFile path => some path | _ => none
  logLevels := {
    default := (settings.filterMap fun | .defaultLevel s => some s | _ => none).getLast?
    loggers := settings.filterMap fun | .loggerLevel logger s => some (logger, s) | _ => none }
  logConfigFile := (settings.filterMap fun | .logConfigFile path => some path | _ => none).getLast?
  logFileName := (settings.filterMap fun | .logFileName name => some name | _ => none).getLast?
  enclave := (settings.filterMap fun | .enclave name => some name | _ => none).getLast?
  rosoutLogs := (settings.filterMap fun | .rosoutLogs on => some on | _ => none).getLast?
  stdoutLogs := (settings.filterMap fun | .stdoutLogs on => some on | _ => none).getLast?
  externalLibLogs :=
    (settings.filterMap fun | .externalLibLogs on => some on | _ => none).getLast?

theorem append_def (a b : Arguments) : a ++ b = a.append b := rfl

theorem append_assoc (a b c : Arguments) : a ++ b ++ c = a ++ (b ++ c) := by
  simp only [append_def, append, List.append_assoc, Option.or_assoc]

theorem append_gather_nil (a : Arguments) : a ++ gather [] [] = a := by
  simp [append_def, append, gather]

theorem gather_append (plain plain' : List String) (settings settings' : List Setting) :
    gather (plain ++ plain') (settings ++ settings')
      = gather plain settings ++ gather plain' settings' := by
  simp only [append_def, append, gather, List.filterMap_append, List.getLast?_append]

theorem apply_eq_append (a : Arguments) (setting : Setting) :
    a.apply setting = a ++ gather [] [setting] := by
  cases setting <;> simp [apply, append_def, append, gather]

theorem absorb_eq_append (a : Arguments) (item : Item) :
    a.absorb item = a ++ gather (Item.plains [item]) (Item.settings [item]) := by
  cases item with
  | plain token => simp [absorb, append_def, append, gather, Item.plains, Item.settings]
  | setting setting => exact apply_eq_append a setting
  | unknown | defect => exact (append_gather_nil a).symm

/-- Items add to what is there as if they had been gathered on their own. -/
theorem foldl_absorb (a : Arguments) (items : List Item) :
    items.foldl absorb a = a ++ gather (Item.plains items) (Item.settings items) := by
  induction items generalizing a with
  | nil => exact (append_gather_nil a).symm
  | cons item items ih =>
    have hplains : Item.plains (item :: items) = Item.plains [item] ++ Item.plains items :=
      List.filterMap_append (l := [item])
    have hsettings : Item.settings (item :: items) = Item.settings [item] ++ Item.settings items :=
      List.filterMap_append (l := [item])
    rw [List.foldl_cons, ih, absorb_eq_append, append_assoc, ← gather_append, hplains, hsettings]

theorem ofItems_eq_gather (items : List Item) :
    ofItems items = gather (Item.plains items) (Item.settings items) := by
  rw [ofItems, foldl_absorb]
  simp [append_def, append, gather]

/-- Items say something when none of them is a defect and none is unknown. -/
theorem ofItems?_eq_ok_iff {items : List Item} {p : Arguments} :
    ofItems? items = .ok p ↔ Item.defects items = [] ∧ Item.unknowns items = [] ∧
      p = gather (Item.plains items) (Item.settings items) := by
  rw [← ofItems_eq_gather, ofItems?]
  cases Item.defects items with
  | cons defect defects => simp
  | nil =>
    cases Item.unknowns items with
    | cons token tokens => simp
    | nil => simp [eq_comm]

end Arguments
end RobotClient
