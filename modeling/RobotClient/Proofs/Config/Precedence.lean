import Mathlib
import RobotClient.Proofs.Config.Decode
import RobotClient.Proofs.Config.Layer

set_option autoImplicit false

/-! # Which layer decides a setting

The environment decides a setting that one of its variables names, a file decides what else it has,
and the defaults decide the rest. This holds for each setting and for each module on its own: a
layer that has one key of a section leaves the section's other keys to the layers below. -/

namespace RobotClient.Config

open Value (KeysApart)

/-! ## What the layers give -/

/-- The places of settings that hold one value. -/
def settings : List (List String) :=
  [["domain", "env_var"], ["domain", "default_domain_id"], ["domain", "domain_id"],
    ["signals", "default_handlers"], ["logging", "level"], ["logging", "format"],
    ["logging", "output"], ["logging", "file"], ["logging", "color"]]

/-- The place is that of a setting or of a module's level. -/
def IsSetting (path : List String) : Prop :=
  path ∈ settings ∨ ∃ name, path = ["logging", "modules", name]

/-- The variables that are settings, with their values. -/
def settingVariables (env : Environment) : List (String × String) :=
  env.bindings.filter fun binding => (variableKey? binding.1).isSome

/-- The value that a variable gives for a place. -/
def fromVariables (env : Environment) (path : List String) : Option Value :=
  ((environmentLayer env).find? fun entry => keyNames entry.1 = path).map (·.2)

/-- The value that the environment gives for a place, or else a file's layer. -/
def given (env : Environment) (layer : List (String × Value)) (path : List String) : Option Value :=
  (fromVariables env path).or ((Value.table none layer).foldedAt? path)

/-- Variables and the keys of a file's layer name each place in one way only, and name sections as
    sections and settings as settings. -/
structure Unambiguous (env : Environment) (layer : List (String × Value)) : Prop where
  variables_plain : ∀ binding ∈ settingVariables env, Plain binding.1
  variables_apart : ((settingVariables env).map fun binding => Text.lower binding.1).Nodup
  keys_plain : ∀ entry ∈ layer, Plain entry.1
  keys_apart : KeysApart Text.lower (.table none layer)
  sections_variables : ∀ path ∈ sections, ∀ entry ∈ environmentLayer env, keyNames entry.1 ≠ path
  sections_layer : ∀ path ∈ sections,
    ∀ value, (Value.table none layer).foldedAt? path = some value → value.IsTable
  settings_variables : ∀ path, IsSetting path → ∀ entry ∈ environmentLayer env,
    path <+: keyNames entry.1 → keyNames entry.1 = path
  settings_layer : ∀ path, IsSetting path →
    ∀ value, (Value.table none layer).foldedAt? path = some value → ¬ value.IsTable

/-- A result is a configuration with the settings that the layers give, if they can be read, and
    none else. -/
structure Layered (env : Environment) (layer : List (String × Value))
    (result : Except LoadError RuntimeConfig) : Prop where
  reads : ∀ config, result = .ok config → Reads (given env layer) config
  loads : ∀ config, Reads (given env layer) config → ∃ config', result = .ok config'

/-- Loads a configuration with a file that is asked for, or with the global one. -/
def loadWith (env : Environment) (tree : FileTree) : Option String → Loaded
  | some path => loadFrom env tree path
  | none => load env tree

/-- The settings in the file that is asked for, or in the global one if there is one. -/
def layerOf (env : Environment) (tree : FileTree) :
    Option String → Except LoadError (List (String × Value))
  | some path => fileLayer tree path
  | none =>
    match globalPath? env with
    | none => .ok []
    | some path => if tree.pathExists path then optionalFileLayer tree path else .ok []

theorem loadWith_result (env : Environment) (tree : FileTree) (file : Option String) :
    (loadWith env tree file).result = (layerOf env tree file).bind (ofFileLayer env) := by
  cases file with
  | some path => rfl
  | none =>
    rw [loadWith, load, layerOf]
    cases globalPath? env with
    | none => rfl
    | some path => cases hexists : tree.pathExists path <;> simp [hexists]

/-! ## Places on the way to settings -/

theorem mem_sections_of_front {front path : List String} (hpath : path ∈ sections)
    (hfront : front <+: path) (hne : front ≠ []) : front ∈ sections := by
  have hall : ∀ path ∈ sections, ∀ front ∈ path.inits, front ≠ [] → front ∈ sections := by decide
  exact hall path hpath front ((List.mem_inits _ _).2 hfront) hne

theorem IsSetting.ne_nil {path : List String} (h : IsSetting path) : path ≠ [] := by
  obtain h | ⟨name, rfl⟩ := h
  · rintro rfl
    exact absurd h (by decide)
  · simp

/-- On the way to a setting there are sections. -/
theorem IsSetting.mem_sections {front path : List String} (h : IsSetting path)
    (hfront : front <+: path) (hpath : front ≠ path) (hne : front ≠ []) : front ∈ sections := by
  rw [← List.mem_inits] at hfront
  obtain h | ⟨name, rfl⟩ := h
  · have hall : ∀ path ∈ settings, ∀ front ∈ path.inits,
        front ≠ path → front ≠ [] → front ∈ sections := by decide
    exact hall path h front hfront hpath hne
  · simp only [List.inits, List.map_cons, List.map_nil, List.mem_cons, List.not_mem_nil,
      or_false] at hfront
    obtain rfl | rfl | rfl | rfl := hfront
    · exact absurd rfl hne
    · decide
    · decide
    · exact absurd rfl hpath

theorem IsSetting.not_mem_sections {path : List String} (h : IsSetting path) : path ∉ sections := by
  obtain h | ⟨name, rfl⟩ := h
  · have hall : ∀ path ∈ settings, path ∉ sections := by decide
    exact hall path h
  · simp [sections]

/-! ## Layers over sections -/

/-- A layer of paths that end in no section leaves sections. -/
theorem Sectioned.overrideLayer {value : Value} (h : Sectioned value)
    {layer : List (String × Value)} (hkeyed : KeyedByPaths layer)
    (hapart : ∀ entry ∈ layer, KeysApart id entry.2)
    (hplaces : ∀ entry ∈ layer, keyNames entry.1 ∉ Config.sections) :
    Sectioned (overrideLayer value layer) where
  isTable := by
    have hends : ∀ entry ∈ layer, ¬ keyNames entry.1 <+: [] := by
      intro entry _ hnil
      exact keyNames_ne_nil entry.1 (List.prefix_nil.1 hnil)
    refine isTable_at?_overrideLayer hkeyed hends ?_ _ rfl
    intro there hthere
    exact Option.some.inj hthere ▸ h.isTable
  sections := by
    intro path hpath
    refine isTable_at?_overrideLayer hkeyed ?_ (h.sections path hpath)
    intro entry hentry hfront
    exact hplaces entry hentry (mem_sections_of_front hpath hfront (keyNames_ne_nil entry.1))
  apart := keysApart_overrideLayer hkeyed hapart h.apart

theorem sectioned_nil : Sectioned (.table none []) where
  isTable := trivial
  sections := by decide
  apart := keysApart_table_nil none

/-! ## Defaults -/

theorem keyedByPaths_defaultLayer : KeyedByPaths defaultLayer := by
  have hscalars : ∀ entry ∈ defaultLayer, ¬ entry.2.IsTable := by decide
  have hpaths : ∀ entry ∈ defaultLayer, entry.1.toList.all isPathChar := by decide
  have hsmall : ∀ entry ∈ defaultLayer,
      entry.1.toList.all fun c => c.toNat < 0x80 && c.toLower == c := by decide
  intro entry hentry
  have hlower : Text.lower entry.1 = entry.1 :=
    Text.lower_eq_self fun c hc => by simpa using List.all_eq_true.1 (hsmall entry hentry) c hc
  rw [hlower]
  exact ⟨pathOf_eq (List.all_eq_true.1 (hpaths entry hentry)), hscalars entry hentry⟩

/-- The configuration of the built-in defaults alone. -/
def defaults : Value := overrideLayer (.table none []) defaultLayer

theorem ofLayers_eq (layer last : List (String × Value)) :
    ofLayers [defaultLayer, layer, last] = overrideLayer (overrideLayer defaults layer) last := rfl

theorem keysApart_of_mem_defaultLayer {entry : String × Value} (h : entry ∈ defaultLayer) :
    KeysApart id entry.2 := by
  simp only [defaultLayer, List.mem_cons, List.not_mem_nil, or_false] at h
  obtain rfl | rfl | rfl | rfl | rfl := h <;> exact .scalar

theorem sectioned_defaults : Sectioned defaults :=
  sectioned_nil.overrideLayer keyedByPaths_defaultLayer
    (fun _ hentry => keysApart_of_mem_defaultLayer hentry) (by decide)

theorem defaults_eq :
    defaults = .table none
      [("domain", .table none
          [("env_var", .ofText "ROS_DOMAIN_ID"), ("default_domain_id", .ofNat 0)]),
        ("logging", .table none
          [("level", .ofText "info"), ("format", .ofText "text"),
            ("output", .ofText "stderr")])] := by
  have hplaces : defaultLayer.map (fun entry => (keyNames entry.1, entry.2))
      = [(["domain", "env_var"], .ofText "ROS_DOMAIN_ID"),
        (["domain", "default_domain_id"], .ofNat 0), (["logging", "level"], .ofText "info"),
        (["logging", "format"], .ofText "text"), (["logging", "output"], .ofText "stderr")] := by
    have hnames : defaultLayer.map (fun entry => keyNames entry.1)
        = [["domain", "env_var"], ["domain", "default_domain_id"], ["logging", "level"],
          ["logging", "format"], ["logging", "output"]] := by decide
    simp only [defaultLayer, List.map_cons, List.map_nil, List.cons.injEq] at hnames
    obtain ⟨hvariable, hnumber, hlevel, hformat, houtput, -⟩ := hnames
    simp only [defaultLayer, List.map_cons, List.map_nil, hvariable, hnumber, hlevel, hformat,
      houtput]
  rw [defaults, keyedByPaths_defaultLayer.overrideLayer, hplaces]
  rfl

theorem Reads.congr {g g' : List String → Option Value}
    (h : ∀ path, IsSetting path → g path = g' path) {config : RuntimeConfig}
    (hreads : Reads g config) : Reads g' config where
  envVar := h ["domain", "env_var"] (.inl (by decide)) ▸ hreads.envVar
  defaultId := h ["domain", "default_domain_id"] (.inl (by decide)) ▸ hreads.defaultId
  id := h ["domain", "domain_id"] (.inl (by decide)) ▸ hreads.id
  defaultHandlers := h ["signals", "default_handlers"] (.inl (by decide)) ▸ hreads.defaultHandlers
  level := h ["logging", "level"] (.inl (by decide)) ▸ hreads.level
  format := h ["logging", "format"] (.inl (by decide)) ▸ hreads.format
  output := h ["logging", "output"] (.inl (by decide)) ▸ hreads.output
  file := h ["logging", "file"] (.inl (by decide)) ▸ hreads.file
  color := h ["logging", "color"] (.inl (by decide)) ▸ hreads.color
  module := fun name => h ["logging", "modules", name] (.inr ⟨name, rfl⟩) ▸ hreads.module name
  modules_nodup := hreads.modules_nodup

/-- What reads as the default has no say. -/
theorem holds_or {α : Type} {g below : Option Value} {read : Value → Except LoadError α}
    {default x : α} (h : ∀ value, below = some value → read value = .ok default) :
    Holds (g.or below) read default x ↔ Holds g read default x := by
  cases g with
  | some value => rfl
  | none =>
    cases below with
    | none => rfl
    | some value => simp [Holds, h value rfl, eq_comm]

/-- The layer of defaults reads as the settings' defaults. -/
theorem reads_or_defaults {g : List String → Option Value} {config : RuntimeConfig} :
    Reads (fun path => (g path).or (defaults.at? path)) config ↔ Reads g config := by
  have henvVar : ∀ value, defaults.at? ["domain", "env_var"] = some value →
      readText value = .ok "ROS_DOMAIN_ID" := by
    rw [defaults_eq]
    rintro value ⟨⟩
    rfl
  have hdefaultId : ∀ value, defaults.at? ["domain", "default_domain_id"] = some value →
      readUnsigned value = .ok 0 := by
    rw [defaults_eq]
    rintro value ⟨⟩
    rfl
  have hid : ∀ value, defaults.at? ["domain", "domain_id"] = some value →
      readOption readSigned value = .ok none := by
    rw [defaults_eq]
    rintro value ⟨⟩
  have hhandlers : ∀ value, defaults.at? ["signals", "default_handlers"] = some value →
      readOption readHandlers value = .ok none := by
    rw [defaults_eq]
    rintro value ⟨⟩
  have hlevel : ∀ value, defaults.at? ["logging", "level"] = some value →
      readText value = .ok "info" := by
    rw [defaults_eq]
    rintro value ⟨⟩
    rfl
  have hformat : ∀ value, defaults.at? ["logging", "format"] = some value →
      readText value = .ok "text" := by
    rw [defaults_eq]
    rintro value ⟨⟩
    rfl
  have houtput : ∀ value, defaults.at? ["logging", "output"] = some value →
      readText value = .ok "stderr" := by
    rw [defaults_eq]
    rintro value ⟨⟩
    rfl
  have hfile : ∀ value, defaults.at? ["logging", "file"] = some value →
      readOption readText value = .ok none := by
    rw [defaults_eq]
    rintro value ⟨⟩
  have hcolor : ∀ value, defaults.at? ["logging", "color"] = some value →
      readBool value = .ok true := by
    rw [defaults_eq]
    rintro value ⟨⟩
  have hmodule : ∀ name value, defaults.at? ["logging", "modules", name] = some value →
      readLevel value = .ok none := by
    rw [defaults_eq]
    rintro name value ⟨⟩
  constructor
  · intro h
    exact ⟨(holds_or henvVar).1 h.envVar, (holds_or hdefaultId).1 h.defaultId,
      (holds_or hid).1 h.id, (holds_or hhandlers).1 h.defaultHandlers, (holds_or hlevel).1 h.level,
      (holds_or hformat).1 h.format, (holds_or houtput).1 h.output, (holds_or hfile).1 h.file,
      (holds_or hcolor).1 h.color, fun name => (holds_or (hmodule name)).1 (h.module name),
      h.modules_nodup⟩
  · intro h
    exact ⟨(holds_or henvVar).2 h.envVar, (holds_or hdefaultId).2 h.defaultId,
      (holds_or hid).2 h.id, (holds_or hhandlers).2 h.defaultHandlers, (holds_or hlevel).2 h.level,
      (holds_or hformat).2 h.format, (holds_or houtput).2 h.output, (holds_or hfile).2 h.file,
      (holds_or hcolor).2 h.color, fun name => (holds_or (hmodule name)).2 (h.module name),
      h.modules_nodup⟩

/-! ## The file -/

/-- A layer of plain keys with sections only where there are sections leaves sections. -/
theorem Sectioned.overrideLayer_plain {value : Value} (h : Sectioned value)
    {layer : List (String × Value)} (hplain : ∀ entry ∈ layer, Plain entry.1)
    (hapart : KeysApart Text.lower (.table none layer))
    (hsections : ∀ path ∈ Config.sections,
      ∀ there, (Value.table none layer).foldedAt? path = some there → there.IsTable) :
    Sectioned (Config.overrideLayer value layer) := by
  obtain ⟨htable, hold, holdApart⟩ := h
  cases value with
  | scalar | list => exact absurd htable not_false
  | table origin old =>
    rw [overrideLayer_of_plain hplain]
    refine ⟨trivial, ?_, keysApart_overrideAll holdApart layer⟩
    intro path hpath there hthere
    have hne : path ≠ [] := by
      rintro rfl
      exact absurd hpath (by decide)
    have hfronts : ∀ front, front <+: path → front ≠ path →
        ∀ there, (Value.table none layer).foldedAt? front = some there → there.IsTable := by
      intro front hfront _ there hthere
      by_cases hnil : front = []
      · subst hnil
        exact Option.some.inj hthere ▸ trivial
      · exact hsections front (mem_sections_of_front hpath hfront hnil) there hthere
    rw [at?_overrideAll hne hapart hfronts] at hthere
    cases hlayer : (Value.table none layer).foldedAt? path with
    | none =>
      rw [hlayer] at hthere
      exact hold path hpath there hthere
    | some value =>
      rw [hlayer] at hthere
      obtain rfl := Option.some.inj hthere
      exact isTable_override (hsections path hpath value hlayer) (hold path hpath)

namespace Unambiguous

variable {env : Environment} {layer : List (String × Value)}

/-- Over sections, a file's layer decides the settings that it has. -/
theorem at?_overrideLayer_file (h : Unambiguous env layer) {value : Value} (hvalue : value.IsTable)
    {path : List String} (hpath : IsSetting path) :
    (overrideLayer value layer).at? path
      = ((Value.table none layer).foldedAt? path).or (value.at? path) := by
  cases value with
  | scalar | list => exact absurd hvalue not_false
  | table origin old =>
    have hfronts : ∀ front, front <+: path → front ≠ path →
        ∀ there, (Value.table none layer).foldedAt? front = some there → there.IsTable := by
      intro front hfront hne there hthere
      by_cases hnil : front = []
      · subst hnil
        exact Option.some.inj hthere ▸ trivial
      · exact h.sections_layer front (hpath.mem_sections hfront hne hnil) there hthere
    rw [overrideLayer_of_plain h.keys_plain, at?_overrideAll hpath.ne_nil h.keys_apart hfronts]
    cases hlayer : (Value.table none layer).foldedAt? path with
    | none => rfl
    | some there =>
      simp [override_of_not_isTable (h.settings_layer path hpath there hlayer)]

/-! ## The environment -/

theorem exists_of_mem_environmentLayer {entry : String × Value}
    (hentry : entry ∈ environmentLayer env) :
    ∃ binding ∈ settingVariables env, variableKey? binding.1 = some entry.1
      ∧ entry.2 = .scalar (some "the environment") (guess binding.2) := by
  obtain ⟨binding, hbinding, hsets⟩ := List.mem_filterMap.1 hentry
  obtain ⟨key, hkey, rfl⟩ := Option.map_eq_some_iff.1 hsets
  exact ⟨binding, List.mem_filter.2 ⟨hbinding, by simp [hkey]⟩, hkey, rfl⟩

theorem keyedByPaths_environmentLayer (h : Unambiguous env layer) :
    KeyedByPaths (environmentLayer env) := by
  intro entry hentry
  obtain ⟨binding, hbinding, hkey, hvalue⟩ := exists_of_mem_environmentLayer hentry
  refine ⟨pathOf_lower_variableKey (h.variables_plain binding hbinding) hkey, ?_⟩
  rw [hvalue]
  exact not_false

theorem keysApart_of_mem_environmentLayer {entry : String × Value}
    (hentry : entry ∈ environmentLayer env) : KeysApart id entry.2 := by
  obtain ⟨_, _, _, hvalue⟩ := exists_of_mem_environmentLayer hentry
  rw [hvalue]
  exact .scalar

/-- No two variables name one place. -/
theorem pairwise_environmentLayer (h : Unambiguous env layer) :
    (environmentLayer env).Pairwise fun entry other => keyNames entry.1 ≠ keyNames other.1 := by
  rw [environmentLayer, List.pairwise_filterMap]
  have hapart := h.variables_apart
  rw [settingVariables, List.Nodup, List.pairwise_map, List.pairwise_filter] at hapart
  refine List.Pairwise.imp_of_mem ?_ hapart
  intro binding other hbinding hother hne entry hentry entry' hentry' heq
  obtain ⟨key, hkey, rfl⟩ := Option.map_eq_some_iff.1 hentry
  obtain ⟨key', hkey', rfl⟩ := Option.map_eq_some_iff.1 hentry'
  obtain rfl : key = key' := keyNames_injective heq
  have hset : (variableKey? binding.1).isSome := by simp [hkey]
  have hset' : (variableKey? other.1).isSome := by simp [hkey']
  exact hne hset hset' (lower_eq_of_variableKey?
    (h.variables_plain binding (List.mem_filter.2 ⟨hbinding, hset⟩))
    (h.variables_plain other (List.mem_filter.2 ⟨hother, hset'⟩)) hkey hkey')

/-- The environment decides the settings that its variables name. -/
theorem at?_overrideLayer_environment (h : Unambiguous env layer) (value : Value)
    {path : List String} (hpath : IsSetting path) :
    (overrideLayer value (environmentLayer env)).at? path
      = (fromVariables env path).or (value.at? path) := by
  refine at?_overrideLayer h.keyedByPaths_environmentLayer h.pairwise_environmentLayer ?_ value
  intro entry hentry hends
  obtain hfront | hbeyond := hends
  · -- a variable that ends on the way would be one of a section
    by_contra hne
    have hsection := hpath.mem_sections hfront hne (keyNames_ne_nil _)
    exact h.sections_variables _ hsection entry hentry rfl
  · exact h.settings_variables path hpath entry hentry hbeyond

/-! ## All layers -/

theorem layersMiss_eq_false (h : Unambiguous env layer) :
    layersMiss (.table none []) [defaultLayer, layer, environmentLayer env] = false := by
  simp only [layersMiss, Bool.or_false, Bool.or_eq_false_iff]
  refine ⟨layerMisses_eq_false ?_ _, layerMisses_eq_false ?_ _, layerMisses_eq_false ?_ _⟩
  · intro entry hentry
    exact ⟨_, (keyedByPaths_defaultLayer entry hentry).1⟩
  · intro entry hentry
    exact ⟨[Text.lower entry.1], (h.keys_plain entry hentry).pathOf_lower⟩
  · intro entry hentry
    exact ⟨_, (h.keyedByPaths_environmentLayer entry hentry).1⟩

theorem sectioned_ofLayers (h : Unambiguous env layer) :
    Sectioned (ofLayers [defaultLayer, layer, environmentLayer env]) := by
  have hfile : Sectioned (overrideLayer defaults layer) :=
    sectioned_defaults.overrideLayer_plain h.keys_plain h.keys_apart h.sections_layer
  refine hfile.overrideLayer h.keyedByPaths_environmentLayer
    (fun _ hentry => keysApart_of_mem_environmentLayer hentry) ?_
  intro entry hentry hmem
  exact h.sections_variables _ hmem entry hentry rfl

/-- The layers leave at the place of a setting what they give for it, or the default. -/
theorem at?_ofLayers (h : Unambiguous env layer) {path : List String} (hpath : IsSetting path) :
    (ofLayers [defaultLayer, layer, environmentLayer env]).at? path
      = (given env layer path).or (defaults.at? path) := by
  rw [ofLayers_eq, h.at?_overrideLayer_environment _ hpath,
    h.at?_overrideLayer_file sectioned_defaults.isTable hpath, given, Option.or_assoc]

theorem layered_ofFileLayer (h : Unambiguous env layer) :
    Layered env layer (ofFileLayer env layer) := by
  have hread : ofFileLayer env layer
      = readRuntime (ofLayers [defaultLayer, layer, environmentLayer env]) := by
    rw [ofFileLayer, h.layersMiss_eq_false]
    rfl
  rw [hread]
  constructor
  · intro config hconfig
    exact reads_or_defaults.1
      ((h.sectioned_ofLayers.reads hconfig).congr fun _ hpath => h.at?_ofLayers hpath)
  · intro config hreads
    exact h.sectioned_ofLayers.exists_readRuntime
      ((reads_or_defaults.2 hreads).congr fun _ hpath => (h.at?_ofLayers hpath).symm)

/-- **Layers override per key.** Loaded from a file that is asked for or from the global one, each
    setting is read from the variable that names it, if there is one, or else from the file's value
    for it, and has its default if there is neither. Loading fails only if a value cannot be read. -/
theorem overrides_per_key (h : Unambiguous env layer) {tree : FileTree} {file : Option String}
    (hfile : layerOf env tree file = .ok layer) :
    Layered env layer (loadWith env tree file).result := by
  rw [loadWith_result, hfile]
  exact h.layered_ofFileLayer

/-- A variable that turns color off. -/
def colorEnv : Environment :=
  { entries := [Environment.entry "RCLCTX_LOGGING__COLOR" (Text.Utf8.encode "false")] }

/-- A file that sets a level. -/
def levelTree : FileTree :=
  { files := [(["c.json"], Text.Utf8.encode "\x7b\"logging\":\x7b\"level\":\"warn\"\x7d\x7d")] }

/-- The settings in the file. -/
def levelLayer : List (String × Value) :=
  [("logging", .table (some "c.json") [("level", .scalar (some "c.json") (.text "warn"))])]

theorem bindings_colorEnv : colorEnv.bindings = [("RCLCTX_LOGGING__COLOR", "false")] := by
  cbv

theorem environmentLayer_colorEnv :
    environmentLayer colorEnv
      = [("logging.color", .scalar (some "the environment") (.bool false))] := by
  rw [environmentLayer, bindings_colorEnv]
  cbv

theorem foldedAt?_levelLayer_logging (path : List String) :
    (Value.table none levelLayer).foldedAt? ("logging" :: path)
      = (Value.table (some "c.json")
          [("level", .scalar (some "c.json") (.text "warn"))]).foldedAt? path := by
  have hlogging : Text.lower "logging" = "logging" := by decide
  simp [Value.foldedAt?, levelLayer, hlogging]

/-- The file has a section with a level, and nothing else. -/
theorem foldedAt?_levelLayer {path : List String} {value : Value}
    (h : (Value.table none levelLayer).foldedAt? path = some value) :
    path = [] ∨ path = ["logging"] ∧ value.IsTable
      ∨ path = ["logging", "level"] ∧ value = .scalar (some "c.json") (.text "warn") := by
  have hlogging : Text.lower "logging" = "logging" := by decide
  have hlevel : Text.lower "level" = "level" := by decide
  match path with
  | [] => exact .inl rfl
  | name :: path =>
    obtain rfl | hname := eq_or_ne name "logging"
    · rw [foldedAt?_levelLayer_logging] at h
      match path with
      | [] =>
        obtain rfl := Option.some.inj h
        exact .inr (.inl ⟨rfl, trivial⟩)
      | other :: path =>
        obtain rfl | hother := eq_or_ne other "level"
        · cases path with
          | nil => simp_all [Value.foldedAt?]
          | cons => simp [Value.foldedAt?, Value.entries, hlevel] at h
        · simp [Value.foldedAt?, hlevel, Ne.symm hother] at h
    · simp [Value.foldedAt?, levelLayer, hlogging, Ne.symm hname] at h

theorem unambiguous_colorEnv : Unambiguous colorEnv levelLayer where
  variables_plain := by
    rw [settingVariables, bindings_colorEnv]
    decide
  variables_apart := by
    rw [settingVariables, bindings_colorEnv]
    decide
  keys_plain := by decide
  keys_apart := by
    refine .table (by decide) fun entry hentry => ?_
    obtain rfl := List.mem_singleton.1 hentry
    refine .table (by decide) fun entry hentry => ?_
    obtain rfl := List.mem_singleton.1 hentry
    exact .scalar
  sections_variables := by
    rw [environmentLayer_colorEnv]
    decide
  sections_layer := by
    intro path hpath value hvalue
    obtain rfl | ⟨rfl, htable⟩ | ⟨rfl, rfl⟩ := foldedAt?_levelLayer hvalue
    · exact absurd hpath (by decide)
    · exact htable
    · exact absurd hpath (by decide)
  settings_variables := by
    have hname : keyNames "logging.color" = ["logging", "color"] := by decide
    intro path hpath entry hentry hfront
    rw [environmentLayer_colorEnv] at hentry
    obtain rfl := List.mem_singleton.1 hentry
    rw [hname] at hfront ⊢
    by_contra hne
    have hcolor : IsSetting ["logging", "color"] := .inl (by decide)
    exact hpath.not_mem_sections (hcolor.mem_sections hfront (Ne.symm hne) hpath.ne_nil)
  settings_layer := by
    intro path hpath value hvalue
    obtain rfl | ⟨rfl, htable⟩ | ⟨rfl, rfl⟩ := foldedAt?_levelLayer hvalue
    · exact absurd rfl hpath.ne_nil
    · simp [IsSetting, settings] at hpath
    · exact not_false

theorem given_colorEnv {path : List String} (hcolor : path ≠ ["logging", "color"]) :
    given colorEnv levelLayer path = (Value.table none levelLayer).foldedAt? path := by
  have hname : keyNames "logging.color" = ["logging", "color"] := by decide
  rw [given, fromVariables, environmentLayer_colorEnv]
  simp [hname, Ne.symm hcolor]

/-- The settings that the variable and the file make together. -/
theorem reads_colorEnv :
    Reads (given colorEnv levelLayer) { logging := { level := "warn", color := false } } := by
  have hnone : ∀ path, IsSetting path → path ≠ ["logging", "level"] →
      path ≠ ["logging", "color"] → given colorEnv levelLayer path = none := by
    intro path hpath hlevel hcolor
    rw [given_colorEnv hcolor, Option.eq_none_iff_forall_ne_some]
    intro value hvalue
    obtain rfl | ⟨rfl, -⟩ | ⟨rfl, -⟩ := foldedAt?_levelLayer hvalue
    · exact hpath.ne_nil rfl
    · exact hpath.not_mem_sections (by decide)
    · exact hlevel rfl
  have hothers : ∀ path ∈ settings, path ≠ ["logging", "level"] → path ≠ ["logging", "color"] →
      given colorEnv levelLayer path = none := fun path hpath => hnone path (.inl hpath)
  have hlevel : given colorEnv levelLayer ["logging", "level"]
      = some (.scalar (some "c.json") (.text "warn")) := by
    have hname : Text.lower "level" = "level" := by decide
    rw [given_colorEnv (by decide), foldedAt?_levelLayer_logging]
    simp [Value.foldedAt?, hname]
  have hcolor : given colorEnv levelLayer ["logging", "color"]
      = some (.scalar (some "the environment") (.bool false)) := by
    have hname : keyNames "logging.color" = ["logging", "color"] := by decide
    rw [given, fromVariables, environmentLayer_colorEnv]
    simp [hname]
  constructor
  case level => rw [hlevel]; rfl
  case color => rw [hcolor]; rfl
  case module =>
    intro name
    rw [hnone _ (.inr ⟨name, rfl⟩) (by simp) (by simp)]
    rfl
  case modules_nodup => exact List.nodup_nil
  all_goals
    rw [hothers _ (by decide) (by decide) (by decide)]
    rfl

theorem overrides_per_key_levelAndColor :
    Unambiguous colorEnv levelLayer ∧ layerOf colorEnv levelTree (some "c.json") = .ok levelLayer ∧
    ∃ config, (loadWith colorEnv levelTree (some "c.json")).result = .ok config
      ∧ config.logging.level = "warn" ∧ config.logging.color = false
      ∧ config.logging.output = "stderr" := by
  have hfile : layerOf colorEnv levelTree (some "c.json") = .ok levelLayer := by
    rw [layerOf]
    cbv
  have hlayered := unambiguous_colorEnv.overrides_per_key hfile
  obtain ⟨config, hconfig⟩ := hlayered.loads _ reads_colorEnv
  have hreads := hlayered.reads config hconfig
  exact ⟨unambiguous_colorEnv, hfile, config, hconfig, hreads.level.unique reads_colorEnv.level,
    hreads.color.unique reads_colorEnv.color, hreads.output.unique reads_colorEnv.output⟩

end Unambiguous

end RobotClient.Config
