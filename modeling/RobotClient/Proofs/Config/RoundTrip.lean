import Mathlib
import RobotClient.Proofs.Config.Document
import RobotClient.Proofs.Config.Precedence
import RobotClient.Proofs.Text.Utf8

set_option autoImplicit false

/-! # A printed configuration loads back

What is printed for a configuration is loaded as the same configuration from a file of the format,
if no variable is a setting. Numbers beyond signed words cannot be printed in TOML. The names of
modules must be in lower case, for loading makes them so. -/

namespace RobotClient.Config

/-! ## Members over a table -/

theorem Entries.put_of_not_mem {key : String} {entries : Entries}
    (h : key ∉ entries.map Prod.fst) (value : Value) :
    Entries.put key value entries = entries ++ [(key, value)] := by
  induction entries with
  | nil => rfl
  | cons entry rest ih =>
    obtain ⟨k, v⟩ := entry
    simp only [List.map_cons, List.mem_cons, not_or] at h
    rw [Entries.put, if_neg (Ne.symm h.1), ih h.2, List.cons_append]

/-- New keys in lower case go to the end of a table. -/
theorem overrideAll_of_fresh {old entries : Entries} (hlower : ∀ e ∈ entries, Text.lower e.1 = e.1)
    (hnames : ((old ++ entries).map Prod.fst).Nodup) (hvalues : ∀ e ∈ entries, ¬ e.2.IsTable) :
    overrideAll old entries = old ++ entries := by
  induction entries generalizing old with
  | nil => rw [overrideAll, List.append_nil]
  | cons entry rest ih =>
    obtain ⟨key, value⟩ := entry
    have hkey : Text.lower key = key := hlower (key, value) List.mem_cons_self
    have hvalue : ¬ value.IsTable := hvalues (key, value) List.mem_cons_self
    have hnew : key ∉ old.map Prod.fst := by
      intro hmem
      rw [List.map_append] at hnames
      exact (List.nodup_append.1 hnames).2.2 _ hmem _ List.mem_cons_self rfl
    rw [overrideAll]
    simp only [hkey, override_of_not_isTable hvalue, Entries.put_of_not_mem hnew]
    rw [ih (fun e he => hlower e (List.mem_cons_of_mem _ he)) (by simpa using hnames)
      fun e he => hvalues e (List.mem_cons_of_mem _ he)]
    simp

theorem keys_ofMembers (origin : Option String) (members : List (String × Json)) :
    (Value.ofMembers origin members).map Prod.fst = members.map Prod.fst := by
  induction members with
  | nil => rfl
  | cons member members ih =>
    obtain ⟨key, value⟩ := member
    rw [Value.ofMembers, List.map_cons, List.map_cons, ih]

/-- A name in lower case is found as it stands. -/
theorem find?_ofMembers {members : List (String × Json)}
    (hlower : ∀ name ∈ members.map Prod.fst, Text.lower name = name) (origin : Option String)
    (name : String) :
    ((Value.ofMembers origin members).find? fun entry => Text.lower entry.1 = name)
      = (members.lookup name).map fun value => (name, Value.ofJson origin value) := by
  induction members with
  | nil => rfl
  | cons member members ih =>
    obtain ⟨key, value⟩ := member
    simp only [List.map_cons, List.forall_mem_cons] at hlower
    rw [Value.ofMembers, List.lookup_cons]
    by_cases hname : name = key
    · simp [hname, hlower.1]
    · have hne : (name == key) = false := by simpa using hname
      rw [List.find?_cons_of_neg (by simpa [hlower.1] using Ne.symm hname), ih hlower.2, hne]

/-- Over a table, a member in lower case is put over what its name held. -/
theorem lookup_overrideAll_ofMembers {members : List (String × Json)}
    (hlower : ∀ name ∈ members.map Prod.fst, Text.lower name = name)
    (hnames : (members.map Prod.fst).Nodup) (origin : Option String) (old : Entries)
    (name : String) :
    (overrideAll old (Value.ofMembers origin members)).lookup name =
      match members.lookup name with
      | some value => some (override (old.lookup name) (Value.ofJson origin value))
      | none => old.lookup name := by
  have hkeys : ((Value.ofMembers origin members).map fun entry => Text.lower entry.1)
      = members.map Prod.fst := by
    have hmap : ((Value.ofMembers origin members).map fun entry => Text.lower entry.1)
        = (members.map Prod.fst).map Text.lower := by
      rw [← keys_ofMembers origin, List.map_map]
      rfl
    rw [hmap, List.map_congr_left hlower, List.map_id']
  rw [lookup_overrideAll (hkeys ▸ hnames), find?_ofMembers hlower]
  cases members.lookup name <;> rfl

/-! ## Sections -/

theorem ok_eq_ok {α : Type} {a b : α} : (.ok a : Except LoadError α) = .ok b ↔ b = a :=
  pure_eq_ok.trans eq_comm

theorem override_scalar (existing : Option Value) (origin : Option String) (value : Scalar) :
    override existing (.scalar origin value) = .scalar origin value := by
  simp only [override]

/-- The names of settings and sections. -/
def settingNames : List String :=
  ["domain", "signals", "logging", "env_var", "default_domain_id", "domain_id",
    "default_handlers", "level", "format", "output", "file", "color", "modules"]

theorem lower_settingNames : ∀ name ∈ settingNames, Text.lower name = name := by decide

theorem lower_domain (c : DomainConfig) :
    ∀ name ∈ c.members.map Prod.fst, Text.lower name = name := by
  intro name hname
  refine lower_settingNames name ?_
  rw [DomainConfig.members] at hname
  revert hname
  cases c.id <;> simp +contextual [Json.present, settingNames, or_imp]

theorem lower_signals (c : SignalConfig) :
    ∀ name ∈ c.members.map Prod.fst, Text.lower name = name := by
  intro name hname
  refine lower_settingNames name ?_
  rw [SignalConfig.members] at hname
  revert hname
  cases c.defaultHandlers <;> simp +contextual [Json.present, settingNames]

theorem lower_logging (c : LoggingConfig) (modules : Json) :
    ∀ name ∈ (c.members ++ [("modules", modules)]).map Prod.fst, Text.lower name = name := by
  intro name hname
  refine lower_settingNames name ?_
  rw [LoggingConfig.members] at hname
  revert hname
  cases c.file <;> simp +contextual [Json.present, settingNames, or_imp]

theorem ofJson_integer {n : Int} (h : n ≤ Number.maxSigned) (origin : Option String) :
    Value.ofJson origin (.integer n) = .scalar origin (.integer n) := by
  rw [Value.ofJson, if_pos h]

theorem readUnsigned_integer (n : UInt64) (origin : Option String) :
    readUnsigned (.scalar origin (.integer n.toNat)) = .ok n := by
  rw [readUnsigned, Number.unsigned?_toNat]

theorem readSigned_integer (n : Int64) (origin : Option String) :
    readSigned (.scalar origin (.integer n.toInt)) = .ok n := by
  rw [readSigned, Number.signed?_toInt]

theorem readDomain_members (c : DomainConfig) (h : (c.defaultId.toNat : Int) ≤ Number.maxSigned)
    {old : Entries} (hold : old.lookup "domain_id" = none) (origin origin' : Option String) :
    readDomain (.table origin' (overrideAll old (Value.ofMembers origin c.members))) = .ok c := by
  have hlookup := lookup_overrideAll_ofMembers (lower_domain c) (RuntimeConfig.nodup_domain c)
    origin old
  refine readDomain_table.2 ⟨?_, ?_, ?_⟩
  · rw [hlookup]
    rfl
  · rw [hlookup]
    show readUnsigned (override _ (Value.ofJson origin (.integer c.defaultId.toNat))) = _
    rw [ofJson_integer h, override_scalar, readUnsigned_integer]
  · have hmember : c.members.lookup "domain_id"
        = c.id.map fun id : Int64 => Json.integer id.toInt := by
      rw [DomainConfig.members]
      cases c.id <;> rfl
    rw [hlookup, hmember]
    cases hid : c.id with
    | none => simp [Holds, hold]
    | some id =>
      show readOption readSigned (override _ (Value.ofJson origin (.integer id.toInt))) = _
      rw [ofJson_integer (Number.toInt_bounds id).2, override_scalar, readOption,
        readSigned_integer]
      · rfl
      · simp

theorem readSignals_members (c : SignalConfig) {old : Entries}
    (hold : old.lookup "default_handlers" = none) (origin origin' : Option String) :
    readSignals (.table origin' (overrideAll old (Value.ofMembers origin c.members))) = .ok c := by
  have hlookup := lookup_overrideAll_ofMembers (lower_signals c) (RuntimeConfig.nodup_signals c)
    origin old
  refine readSignals_table.2 ?_
  have hmember : c.members.lookup "default_handlers"
      = c.defaultHandlers.map fun o => Json.text o.name := by
    rw [SignalConfig.members]
    cases c.defaultHandlers <;> rfl
  rw [hlookup, hmember]
  cases hhandlers : c.defaultHandlers with
  | none => simp [Holds, hold]
  | some o =>
    show readOption readHandlers (override _ (.scalar origin (.text o.name))) = _
    rw [override_scalar]
    cases o <;> rfl

/-- The entry of a setting that a layer's text gives holds that text. -/
theorem holds_text {existing : Option Value} {origin : Option String} {s default x : String} :
    Holds (some (override existing (Value.ofJson origin (.text s)))) readText default x
      ↔ x = s := by
  rw [Value.ofJson, override_scalar]
  exact ok_eq_ok

/-- Logging is read setting by setting, and its modules from what stands for their table. -/
theorem readLogging_members {c c' : LoggingConfig} {modules : Json} {old : Entries}
    (hfile : old.lookup "file" = none) (hmodules : old.lookup "modules" = none)
    (origin origin' : Option String) :
    readLogging (.table origin' (overrideAll old
        (Value.ofMembers origin (c.members ++ [("modules", modules)])))) = .ok c'
      ↔ c'.level = c.level ∧ c'.format = c.format ∧ c'.output = c.output ∧ c'.file = c.file
        ∧ c'.color = c.color
        ∧ readTable (override none (Value.ofJson origin modules)) = .ok c'.modules := by
  have hnames : ((c.members ++ [("modules", modules)]).map Prod.fst).Nodup := by
    simpa using RuntimeConfig.nodup_logging c
  have hlookup := lookup_overrideAll_ofMembers (lower_logging c modules) hnames origin old
  have hfileMember : (c.members ++ [("modules", modules)]).lookup "file"
      = c.file.map Json.text := by
    rw [LoggingConfig.members]
    cases c.file <;> rfl
  have hcolorMember : (c.members ++ [("modules", modules)]).lookup "color"
      = some (.bool c.color) := by
    rw [LoggingConfig.members]
    cases c.file <;> rfl
  have hmodulesMember : (c.members ++ [("modules", modules)]).lookup "modules"
      = some modules := by
    rw [LoggingConfig.members]
    cases c.file <;> rfl
  have hfileHolds : Holds ((overrideAll old (Value.ofMembers origin
      (c.members ++ [("modules", modules)]))).lookup "file") (readOption readText) none c'.file
        ↔ c'.file = c.file := by
    rw [hlookup, hfileMember, hfile]
    cases c.file with
    | none => exact Iff.rfl
    | some file =>
      show readOption readText (override _ (.scalar origin (.text file))) = _ ↔ _
      rw [override_scalar]
      exact ok_eq_ok
  have hcolorHolds : Holds ((overrideAll old (Value.ofMembers origin
      (c.members ++ [("modules", modules)]))).lookup "color") readBool true c'.color
        ↔ c'.color = c.color := by
    rw [hlookup, hcolorMember]
    show readBool (override _ (.scalar origin (.bool c.color))) = _ ↔ _
    rw [override_scalar]
    exact ok_eq_ok
  rw [readLogging_table, hfileHolds, hcolorHolds, hlookup, hlookup, hlookup, hlookup,
    hmodulesMember, hmodules]
  exact and_congr holds_text (and_congr holds_text (and_congr holds_text Iff.rfl))

/-- The table of modules is read with its names and levels. -/
theorem readTable_modules {c : LoggingConfig} (hnames : (c.modules.map Prod.fst).Nodup)
    (hlower : ∀ m ∈ c.modules, Text.lower m.1 = m.1) (origin : Option String) :
    readTable (override none (Value.ofJson origin (.object c.moduleMembers))) = .ok c.modules := by
  have hentries : Value.ofMembers origin c.moduleMembers
      = c.modules.map fun m => (m.1, .scalar origin (.text m.2)) := by
    rw [LoggingConfig.moduleMembers]
    generalize c.modules = modules
    induction modules with
    | nil => rfl
    | cons m modules ih => rw [List.map_cons, Value.ofMembers, ih]; rfl
  have hfresh : overrideAll [] (Value.ofMembers origin c.moduleMembers)
      = Value.ofMembers origin c.moduleMembers := by
    rw [hentries]
    refine overrideAll_of_fresh ?_ (by simpa [Function.comp_def] using hnames) ?_
    · intro e he
      obtain ⟨m, hm, rfl⟩ := List.mem_map.1 he
      exact hlower m hm
    · intro e he
      obtain ⟨m, -, rfl⟩ := List.mem_map.1 he
      exact not_false
  rw [Value.ofJson, override, hfresh, hentries, readTable_eq_ok, List.forall₂_map_left_iff]
  exact List.forall₂_same.2 fun m _ => ⟨rfl, rfl⟩

/-- A text is no table of modules. -/
theorem readTable_text (s : String) (origin : Option String) (modules : List (String × String)) :
    readTable (override none (Value.ofJson origin (.text s))) ≠ .ok modules := by
  rw [Value.ofJson, override_scalar]
  intro h
  cases h

/-! ## Configurations -/

theorem plain_membersWith (c : RuntimeConfig) (modules : Json) (origin : Option String) :
    ∀ entry ∈ Value.ofMembers origin (c.membersWith modules), Plain entry.1 := by
  have hall : ∀ name ∈ ["domain", "signals", "logging"], Plain name := by decide
  intro entry hentry
  refine hall entry.1 ?_
  have hname := List.mem_map_of_mem (f := Prod.fst) hentry
  rw [keys_ofMembers] at hname
  exact hname

/-- Over the defaults, a configuration's members are read as the configuration, but for what stands
    for the table of modules. -/
theorem readRuntime_members {c c' : RuntimeConfig}
    (hid : (c.domain.defaultId.toNat : Int) ≤ Number.maxSigned) {modules : Json}
    (origin : Option String) :
    readRuntime (overrideLayer defaults (Value.ofMembers origin (c.membersWith modules))) = .ok c'
      ↔ c' = { c with logging := { c.logging with modules := c'.logging.modules } }
        ∧ readTable (override none (Value.ofJson origin modules)) = .ok c'.logging.modules := by
  have hlower : ∀ name ∈ (c.membersWith modules).map Prod.fst, Text.lower name = name := by
    intro name hname
    refine lower_settingNames name ?_
    revert hname
    simp +contextual [RuntimeConfig.membersWith, settingNames, or_imp]
  have hnames : ((c.membersWith modules).map Prod.fst).Nodup := by
    simp [RuntimeConfig.membersWith]
  have hdomain : ∀ domain : DomainConfig,
      readDomain (override (some (.table none [("env_var", .ofText "ROS_DOMAIN_ID"),
        ("default_domain_id", .ofNat 0)])) (Value.ofJson origin (.object c.domain.members)))
          = .ok domain ↔ domain = c.domain := by
    intro domain
    rw [Value.ofJson, override, readDomain_members c.domain hid (by simp)]
    exact ok_eq_ok
  have hsignals : ∀ signals : SignalConfig,
      readSignals (override none (Value.ofJson origin (.object c.signals.members))) = .ok signals
        ↔ signals = c.signals := by
    intro signals
    rw [Value.ofJson, override, readSignals_members c.signals (by simp)]
    exact ok_eq_ok
  have hlogging : ∀ logging : LoggingConfig,
      readLogging (override (some (.table none [("level", .ofText "info"),
        ("format", .ofText "text"), ("output", .ofText "stderr")]))
          (Value.ofJson origin (.object (c.logging.members ++ [("modules", modules)]))))
            = .ok logging
        ↔ logging = { c.logging with modules := logging.modules }
          ∧ readTable (override none (Value.ofJson origin modules)) = .ok logging.modules := by
    intro logging
    rw [Value.ofJson, override, readLogging_members (by simp) (by simp)]
    cases logging
    simp [and_assoc]
  rw [defaults_eq, overrideLayer_of_plain (plain_membersWith c modules origin), readRuntime_table,
    lookup_overrideAll_ofMembers hlower hnames, lookup_overrideAll_ofMembers hlower hnames,
    lookup_overrideAll_ofMembers hlower hnames]
  refine (and_congr (hdomain _) (and_congr (hsignals _) (hlogging _))).trans ?_
  cases c'
  simp [and_assoc]

/-! ## Files -/

/-- A text is in the file of a path, under an extension of a format. -/
structure StoredAt (tree : FileTree) (path : String) (format : FileFormat) (text : String) :
    Prop where
  content : tree.read? (FilePath.join tree.workDir path) = some (Text.Utf8.encode text)
  extension : (FilePath.extension? (FilePath.join tree.workDir path)).bind
    FileFormat.ofExtension? = some format

/-- A text that starts with an ASCII character is read from its file as it is. -/
theorem fileText_encode {text : String} {c : Char} {cs : List Char} (htext : text.toList = c :: cs)
    (hc : c.toNat < 0x80) : fileText (Text.Utf8.encode text) = text := by
  have hencode : Text.Utf8.encode text
      = UInt8.ofNat c.toNat :: cs.flatMap String.utf8EncodeChar := by
    have hchar : String.utf8EncodeChar c = [UInt8.ofNat c.toNat] := by
      rw [String.utf8EncodeChar, if_pos (by show c.toNat ≤ 0x7f; omega)]
      rfl
    rw [Text.Utf8.encode, htext, List.flatMap_cons, hchar, List.singleton_append]
  have hmark : UInt8.ofNat c.toNat ≠ 0xEF := by
    intro heq
    have hnat := congrArg UInt8.toNat heq
    rw [UInt8.toNat_ofNat_of_lt' (show c.toNat < 256 by omega)] at hnat
    have : c.toNat = 0xEF := hnat
    omega
  rw [fileText]
  · exact Text.Utf8.decodeLossy_encode text
  · intro rest heq
    rw [hencode] at heq
    exact hmark (List.cons.inj heq).1

/-- The file of a path as its values name it. -/
def shownFile (tree : FileTree) (path : String) : String :=
  FilePath.relativeTo tree.workDir (FilePath.join tree.workDir path)

theorem fileLayer_storedAt {tree : FileTree} {path text : String} {format : FileFormat}
    (h : StoredAt tree path format text) (htext : fileText (Text.Utf8.encode text) = text) :
    fileLayer tree path =
      match format.parse? text with
      | some members => .ok (Value.ofMembers (some (shownFile tree path)) members)
      | none => .error (.unparsable (shownFile tree path)) := by
  have hfile : tree.isFile (FilePath.join tree.workDir path) = true := by
    rw [FileTree.isFile, h.content]
    rfl
  have hfind : findFile tree path = .ok (FilePath.join tree.workDir path, format) := by
    rw [findFile, hfile, h.extension]
    rfl
  rw [fileLayer, hfind]
  show settingsIn tree _ format = _
  rw [settingsIn, h.content, Option.getD_some, htext]
  rfl

theorem environmentLayer_eq_nil {env : Environment} (h : settingVariables env = []) :
    environmentLayer env = [] := by
  rw [environmentLayer, List.filterMap_eq_nil_iff]
  intro binding hbinding
  have hnone := List.filter_eq_nil_iff.1 h binding hbinding
  simpa using hnone

theorem overrideLayer_nil (config : Value) : overrideLayer config [] = config := rfl

/-- Without settings in variables, a configuration is what its file's layer makes of the
    defaults. -/
theorem ofFileLayer_of_no_settings {env : Environment} (h : settingVariables env = [])
    {layer : List (String × Value)} (hplain : ∀ entry ∈ layer, Plain entry.1) :
    ofFileLayer env layer = readRuntime (overrideLayer defaults layer) := by
  have hmiss : layersMiss (.table none []) [defaultLayer, layer, []] = false := by
    simp only [layersMiss, layerMisses, Bool.or_false, Bool.or_eq_false_iff]
    refine ⟨layerMisses_eq_false ?_ _, layerMisses_eq_false ?_ _⟩
    · intro entry hentry
      exact ⟨_, (keyedByPaths_defaultLayer entry hentry).1⟩
    · intro entry hentry
      exact ⟨[Text.lower entry.1], (hplain entry hentry).pathOf_lower⟩
  rw [ofFileLayer, environmentLayer_eq_nil h]
  simp only [hmiss, ofLayers_eq, overrideLayer_nil, Bool.false_eq_true, if_false]

/-! ## Loading -/

section Loading

variable {c : RuntimeConfig} {env : Environment} {tree : FileTree} {path text : String}
  {format : FileFormat}

/-- A file whose document has a configuration's members is loaded as the configuration, but for what
    stands for the table of modules. -/
theorem loadFrom_eq_ok (hid : (c.domain.defaultId.toNat : Int) ≤ Number.maxSigned)
    (henv : settingVariables env = []) (hfile : StoredAt tree path format text)
    (htext : fileText (Text.Utf8.encode text) = text) {modules : Json}
    (hparse : format.parse? text = some (c.membersWith modules)) {c' : RuntimeConfig} :
    (loadFrom env tree path).result = .ok c'
      ↔ c' = { c with logging := { c.logging with modules := c'.logging.modules } }
        ∧ readTable (override none (Value.ofJson (some (shownFile tree path)) modules))
          = .ok c'.logging.modules := by
  have hlayer := fileLayer_storedAt hfile htext
  rw [hparse] at hlayer
  rw [← readRuntime_members hid (some (shownFile tree path)),
    ← ofFileLayer_of_no_settings henv (plain_membersWith c modules _)]
  simp only [loadFrom, hlayer, Except.bind]

/-- A file that is no document of its format is not loaded. -/
theorem loadFrom_unparsable (hfile : StoredAt tree path format text)
    (htext : fileText (Text.Utf8.encode text) = text) (hparse : format.parse? text = none) :
    (loadFrom env tree path).result = .error (.unparsable (shownFile tree path)) := by
  have hlayer := fileLayer_storedAt hfile htext
  rw [hparse] at hlayer
  rw [loadFrom, hlayer]
  rfl

/-- A configuration whose table of modules is read as it was loads back. -/
theorem loadFrom_members (hnames : c.NamesApart)
    (hlower : ∀ m ∈ c.logging.modules, Text.lower m.1 = m.1)
    (hid : (c.domain.defaultId.toNat : Int) ≤ Number.maxSigned)
    (henv : settingVariables env = []) (hfile : StoredAt tree path format text)
    (htext : fileText (Text.Utf8.encode text) = text)
    (hparse : format.parse? text = some c.members) :
    (loadFrom env tree path).result = .ok c :=
  (loadFrom_eq_ok hid henv hfile htext hparse).2 ⟨rfl, readTable_modules hnames hlower _⟩

/-- What is printed in JSON loads back. -/
theorem loadFrom_json (hnames : c.NamesApart)
    (hlower : ∀ m ∈ c.logging.modules, Text.lower m.1 = m.1)
    (hid : (c.domain.defaultId.toNat : Int) ≤ Number.maxSigned)
    (henv : settingVariables env = []) (hfile : StoredAt tree path .json c.toJson.pretty) :
    (loadFrom env tree path).result = .ok c := by
  refine loadFrom_members hnames hlower hid henv hfile ?_ ?_
  · obtain ⟨cs, hpretty⟩ := c.exists_pretty_cons
    exact fileText_encode hpretty (by decide)
  · rw [FileFormat.parse?, RuntimeConfig.parse?_json c hnames]
    rfl

theorem fileText_toml (htoml : c.toToml? = some text) :
    fileText (Text.Utf8.encode text) = text := by
  obtain ⟨cs, hcons⟩ := RuntimeConfig.exists_toml_cons htoml
  exact fileText_encode hcons (by decide)

/-- What is printed in TOML loads back, unless the first module has the name that is reserved for
    times. -/
theorem loadFrom_toml (hnames : c.NamesApart)
    (hlower : ∀ m ∈ c.logging.modules, Text.lower m.1 = m.1)
    (hid : (c.domain.defaultId.toNat : Int) ≤ Number.maxSigned)
    (henv : settingVariables env = []) (htoml : c.toToml? = some text)
    (hfile : StoredAt tree path .toml text) :
    (loadFrom env tree path).result = .ok c ↔ c.Unreserved := by
  have htext := fileText_toml htoml
  have hread := RuntimeConfig.parse?_toToml? hnames htoml
  constructor
  · intro hload
    by_contra hreserved
    obtain hnone | ⟨time, htime⟩ := RuntimeConfig.settle_modules_of_reserved hreserved
    · rw [hnone] at hread
      rw [loadFrom_unparsable hfile htext hread] at hload
      cases hload
    · rw [htime] at hread
      exact readTable_text time _ _ ((loadFrom_eq_ok hid henv hfile htext hread).1 hload).2
  · intro hunreserved
    rw [RuntimeConfig.settle_modules hunreserved] at hread
    exact loadFrom_members hnames hlower hid henv hfile htext hread

end Loading

/-- **A printed configuration loads back.** Both formats print every configuration whose default
    domain is a signed word, and what they print is loaded as the configuration again, if no
    variable is a setting. In TOML this holds exactly when the first module does not have the name
    that is reserved for times. A greater default domain cannot be printed in TOML. -/
theorem printed_loads_back {c : RuntimeConfig} (hnames : c.NamesApart)
    (hlower : ∀ m ∈ c.logging.modules, Text.lower m.1 = m.1) :
    ((c.domain.defaultId.toNat : Int) ≤ Number.maxSigned →
      ∃ toml json, c.format "toml" = .ok toml ∧ c.format "json" = .ok json
        ∧ ∀ env tree path, settingVariables env = [] →
          (StoredAt tree path .json json → (loadFrom env tree path).result = .ok c)
          ∧ (StoredAt tree path .toml toml →
            ((loadFrom env tree path).result = .ok c ↔ c.Unreserved)))
    ∧ (Number.maxSigned < c.domain.defaultId.toNat →
      ∃ message, c.format "toml" = .error (.configuration message)) := by
  constructor
  · intro hid
    obtain ⟨toml, htoml⟩ := RuntimeConfig.exists_toToml? hid
    refine ⟨toml, c.toJson.pretty, ?_, ?_, fun env tree path henv => ⟨?_, ?_⟩⟩
    · simp [RuntimeConfig.format, htoml]
    · simp [RuntimeConfig.format]
    · intro hfile
      exact loadFrom_json hnames hlower hid henv hfile
    · intro hfile
      exact loadFrom_toml hnames hlower hid henv htoml hfile
  · intro hlarge
    have hnone : c.toToml? = none := by
      rw [RuntimeConfig.toToml?, if_pos hlarge]
    exact ⟨"out-of-range value for u64 type", by simp [RuntimeConfig.format, hnone]⟩

/-- A file in the working directory, which is the root. -/
def loneFile (content : List UInt8) : FileTree := { files := [(["c.toml"], content)] }

theorem read?_loneFile (content : List UInt8) :
    (loneFile content).read? (FilePath.join "/" "c.toml") = some content := by
  cbv

theorem storedAt_loneFile (text : String) :
    StoredAt (loneFile (Text.Utf8.encode text)) "c.toml" .toml text where
  content := read?_loneFile (Text.Utf8.encode text)
  extension := by
    show (FilePath.extension? (FilePath.join "/" "c.toml")).bind FileFormat.ofExtension? = _
    cbv

/-- A configuration with a module whose name has a dot, and with quotes and a line break in its
    texts. -/
def quotedConfig : RuntimeConfig :=
  { domain := { envVar := "A \"B\"\n", id := some (-1) }
    logging := { modules := [("a.b", "it's")] } }

theorem printed_loads_back_quoted :
    quotedConfig.NamesApart ∧ (∀ m ∈ quotedConfig.logging.modules, Text.lower m.1 = m.1)
      ∧ ∃ toml, quotedConfig.format "toml" = .ok toml
        ∧ (loadFrom {} (loneFile (Text.Utf8.encode toml)) "c.toml").result = .ok quotedConfig := by
  have hnames : quotedConfig.NamesApart := List.nodup_singleton _
  have hlower : ∀ m ∈ quotedConfig.logging.modules, Text.lower m.1 = m.1 := by decide
  obtain ⟨toml, json, htoml, -, hload⟩ := (printed_loads_back hnames hlower).1 (by decide)
  have hback := (hload {} _ "c.toml" rfl).2 (storedAt_loneFile toml)
  exact ⟨hnames, hlower, toml, htoml, hback.2 (by decide)⟩

/-- A configuration whose only module has the name that is reserved for times. -/
def reservedConfig : RuntimeConfig :=
  { logging := { modules := [("$__toml_private_datetime", "info")] } }

theorem settle_reservedConfig :
    Toml.settle (.object reservedConfig.logging.moduleMembers) = none := by
  cbv

theorem printed_loads_back_reserved :
    reservedConfig.NamesApart ∧ (∀ m ∈ reservedConfig.logging.modules, Text.lower m.1 = m.1)
      ∧ (reservedConfig.domain.defaultId.toNat : Int) ≤ Number.maxSigned
      ∧ settingVariables {} = []
      ∧ ∃ toml, reservedConfig.format "toml" = .ok toml
        ∧ StoredAt (loneFile (Text.Utf8.encode toml)) "c.toml" .toml toml
        ∧ (loadFrom {} (loneFile (Text.Utf8.encode toml)) "c.toml").result
          = .error (.unparsable "c.toml") := by
  have hnames : reservedConfig.NamesApart := List.nodup_singleton _
  have hid : (reservedConfig.domain.defaultId.toNat : Int) ≤ Number.maxSigned := by decide
  obtain ⟨toml, htoml⟩ := RuntimeConfig.exists_toToml? hid
  have hread := RuntimeConfig.parse?_toToml? hnames htoml
  have hshown : shownFile (loneFile (Text.Utf8.encode toml)) "c.toml" = "c.toml" := by
    show FilePath.relativeTo "/" (FilePath.join "/" "c.toml") = _
    cbv
  rw [settle_reservedConfig] at hread
  refine ⟨hnames, by decide, hid, rfl, toml, ?_, storedAt_loneFile toml, ?_⟩
  · simp [RuntimeConfig.format, htoml]
  · rw [loadFrom_unparsable (storedAt_loneFile toml) (fileText_toml htoml) hread, hshown]

end RobotClient.Config
