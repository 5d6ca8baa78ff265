import Mathlib
import RobotClient.Proofs.Config.Precedence
import RobotClient.Proofs.Number.Real
import RobotClient.Proofs.Text.Decoding
import RobotClient.Proofs.Text.Lowercase
import RobotClient.Proofs.Text.Split

set_option autoImplicit false

/-! # A setting from a single variable

The value of a variable is taken for a truth value, a whole number or a real one before it is taken
for text, and a setting that is text gets it written back. So a value that spells a number in an
unusual way is changed; all other values are not. -/

namespace RobotClient.Config

open Number (Binary64 IsNumberChar)
open Text (AnyCase)

/-! ## What a value is taken for -/

/-- Whether a value is one of the words for truth values, in any case. -/
def IsTruth (v : String) : Prop := ∃ b : Bool, AnyCase (toString b) v

/-- The text that is made of a value: a truth value in small letters, a number in its shortest
spelling, and any other value as it is. -/
inductive TakenAs (v : String) : String → Prop
  | truth {b : Bool} (htruth : AnyCase (toString b) v) : TakenAs v (toString b)
  | whole {n : Int64} (htruth : ¬ IsTruth v) (hwhole : Number.readSigned? v = some n) :
      TakenAs v (toString n.toInt)
  | real {x : Binary64} (htruth : ¬ IsTruth v) (hwhole : Number.readSigned? v = none)
      (hreal : Binary64.read? v.toList = some x) : TakenAs v x.toText
  | verbatim (htruth : ¬ IsTruth v) (hwhole : Number.readSigned? v = none)
      (hreal : Binary64.read? v.toList = none) : TakenAs v v

/-- The words for truth values differ in length. -/
theorem toString_unique {v : String} {b b' : Bool} (h : AnyCase (toString b) v)
    (h' : AnyCase (toString b') v) : b = b' := by
  have hlength : (toString b).toList.length = (toString b').toList.length :=
    h.length_eq.trans h'.length_eq.symm
  cases b <;> cases b' <;> first | rfl | exact absurd hlength (by decide)

/-- A value is made into one text. -/
theorem TakenAs.unique {v t t' : String} (h : TakenAs v t) (h' : TakenAs v t') : t = t' := by
  cases h with
  | truth htruth =>
    cases h' with
    | truth htruth' => rw [toString_unique htruth htruth']
    | whole hno _ | real hno _ _ | verbatim hno _ _ => exact absurd ⟨_, htruth⟩ hno
  | whole hno hwhole =>
    cases h' with
    | truth htruth => exact absurd ⟨_, htruth⟩ hno
    | whole _ hwhole' => rw [Option.some.inj (hwhole.symm.trans hwhole')]
    | real _ hnone _ | verbatim _ hnone _ => cases hwhole.symm.trans hnone
  | real hno hnone hreal =>
    cases h' with
    | truth htruth => exact absurd ⟨_, htruth⟩ hno
    | whole _ hwhole => cases hwhole.symm.trans hnone
    | real _ _ hreal' => rw [Option.some.inj (hreal.symm.trans hreal')]
    | verbatim _ _ hnone' => cases hreal.symm.trans hnone'
  | verbatim hno hnone hnone' =>
    cases h' with
    | truth htruth => exact absurd ⟨_, htruth⟩ hno
    | whole _ hwhole => cases hwhole.symm.trans hnone
    | real _ _ hreal => cases hreal.symm.trans hnone'
    | verbatim => rfl

theorem lower_eq_toString_iff {v : String} (b : Bool) :
    Text.lower v = toString b ↔ AnyCase (toString b) v := by
  cases b
  · show Text.lower v = "false" ↔ AnyCase "false" v
    exact Text.lower_eq_iff (by simp)
  · show Text.lower v = "true" ↔ AnyCase "true" v
    exact Text.lower_eq_iff (by simp)

theorem isNumberChar_of_anyCase {v word : String}
    (hword : ∀ w ∈ word.toList, w.isAlpha ∧ w.toLower = w) (h : AnyCase word v) :
    ∀ c ∈ v.toList, IsNumberChar c :=
  Number.isNumberChar_of_word (fun w hw => (hword w hw).1)
    ((Text.asciiLower_eq_iff fun w hw => (hword w hw).2).2 h)

theorem isNumberChar_of_isTruth {v : String} (h : IsTruth v) : ∀ c ∈ v.toList, IsNumberChar c := by
  obtain ⟨b, hb⟩ := h
  cases b
  · exact isNumberChar_of_anyCase (by simp) (show AnyCase "false" v from hb)
  · exact isNumberChar_of_anyCase (by simp) (show AnyCase "true" v from hb)

/-- A value stays as it is if a character of it occurs neither in a truth value nor in a number. -/
theorem TakenAs.eq_of_mem {v t : String} (h : TakenAs v t) {c : Char} (hc : c ∈ v.toList)
    (hchar : ¬ IsNumberChar c) : t = v := by
  cases h with
  | truth htruth => exact absurd (isNumberChar_of_isTruth ⟨_, htruth⟩ c hc) hchar
  | whole _ hwhole =>
    obtain ⟨n, hn, -⟩ := Option.bind_eq_some_iff.1 hwhole
    exact absurd (Number.isNumberChar_of_integer? hn c hc) hchar
  | real _ _ hreal => exact absurd (Binary64.isNumberChar_of_read? hreal c hc) hchar
  | verbatim => rfl

theorem exists_takenAs (origin : Option String) (v : String) :
    ∃ t, TakenAs v t ∧ readText (.scalar origin (guess v)) = .ok t := by
  by_cases htrue : Text.lower v = "true"
  · exact ⟨"true", .truth ((lower_eq_toString_iff true).1 htrue), by rw [guess, if_pos htrue]; rfl⟩
  · by_cases hfalse : Text.lower v = "false"
    · refine ⟨"false", .truth ((lower_eq_toString_iff false).1 hfalse), ?_⟩
      rw [guess, if_neg htrue, if_pos hfalse]
      rfl
    · have htruth : ¬ IsTruth v := by
        rintro ⟨b, hb⟩
        have hlower := (lower_eq_toString_iff b).2 hb
        cases b
        · exact hfalse hlower
        · exact htrue hlower
      rw [guess, if_neg htrue, if_neg hfalse]
      cases hwhole : Number.readSigned? v with
      | some n => exact ⟨toString n.toInt, .whole htruth hwhole, rfl⟩
      | none =>
        cases hreal : Binary64.read? v.toList with
        | some x => exact ⟨x.toText, .real htruth hwhole hreal, rfl⟩
        | none => exact ⟨v, .verbatim htruth hwhole hreal, rfl⟩

theorem readOption_of_readText {value : Value} {t : String} (h : readText value = .ok t) :
    readOption readText value = .ok (some t) := by
  rw [readOption.eq_def]
  split
  · cases h
  · rw [h]
    rfl

/-! ## No file -/

section NoFile

variable {env : Environment} {tree : FileTree}

theorem findFile_eq_error {path : String} (hfull : ¬ tree.isFile (FilePath.join tree.workDir path))
    (hsuffix : ∀ suffix ∈ [".toml", ".json"], ∀ file,
      withSuffix? (FilePath.join tree.workDir path) suffix = some file → ¬ tree.isFile file) :
    ∃ e, findFile tree path = .error e := by
  have hnone : ∀ suffix ∈ [".toml", ".json"],
      (withSuffix? (FilePath.join tree.workDir path) suffix).filter tree.isFile = none := by
    intro suffix hmem
    rw [Option.filter_eq_none_iff]
    exact fun file hfile => hsuffix suffix hmem file hfile
  rw [findFile, if_neg hfull]
  simp [hnone]

theorem layerOf_eq_nil (h : ∀ path ∈ pathsLookedAt env tree.workDir none, ¬ tree.isFile path) :
    layerOf env tree none = .ok [] := by
  rw [layerOf]
  cases hpath : globalPath? env with
  | none => rfl
  | some path =>
    have hlooked : ∀ file, file = FilePath.join tree.workDir path
        ∨ (∃ suffix ∈ [".toml", ".json"],
          withSuffix? (FilePath.join tree.workDir path) suffix = some file) →
        ¬ tree.isFile file := by
      intro file hfile
      refine h file ?_
      rw [pathsLookedAt]
      simpa [hpath] using hfile
    obtain ⟨e, he⟩ := findFile_eq_error (hlooked _ (.inl rfl))
      fun suffix hsuffix file hfile => hlooked file (.inr ⟨suffix, hsuffix, hfile⟩)
    dsimp only
    split
    · unfold optionalFileLayer
      rw [he]
    · rfl

theorem foldedAt?_nil {path : List String} (h : path ≠ []) :
    (Value.table none []).foldedAt? path = none := by
  cases path with
  | nil => exact absurd rfl h
  | cons name path => rfl

end NoFile

/-! ## A single variable -/

section Single

variable {env : Environment} {tree : FileTree} {name v key : String}

theorem environmentLayer_eq (env : Environment) :
    environmentLayer env = (settingVariables env).filterMap fun (name, value) =>
      (variableKey? name).map fun key =>
        (key, .scalar (some "the environment") (guess value)) := by
  rw [environmentLayer, settingVariables, List.filterMap_filter]
  refine List.filterMap_congr fun binding _ => ?_
  cases hkey : variableKey? binding.1 <;> simp [hkey]

variable (hvariables : settingVariables env = [(name, v)]) (hkey : variableKey? name = some key)

include hvariables hkey in
theorem environmentLayer_single :
    environmentLayer env = [(key, .scalar (some "the environment") (guess v))] := by
  rw [environmentLayer_eq, hvariables]
  simp [hkey]

include hvariables hkey in
/-- A single variable for a setting is unambiguous. -/
theorem unambiguous_single (hname : Plain name) (hsetting : IsSetting (keyNames key)) :
    Unambiguous env [] where
  variables_plain := by
    rw [hvariables]
    exact List.forall_mem_singleton.2 hname
  variables_apart := by
    rw [hvariables]
    exact List.nodup_singleton _
  keys_plain := by simp
  keys_apart := keysApart_table_nil none
  sections_variables := by
    intro path hpath entry hentry
    rw [environmentLayer_single hvariables hkey] at hentry
    rw [List.mem_singleton.1 hentry]
    rintro rfl
    exact hsetting.not_mem_sections hpath
  sections_layer := by
    intro path hpath value hvalue
    have hne : path ≠ [] := by
      rintro rfl
      exact absurd hpath (by decide)
    rw [foldedAt?_nil hne] at hvalue
    cases hvalue
  settings_variables := by
    intro path hpath entry hentry hfront
    rw [environmentLayer_single hvariables hkey] at hentry
    rw [List.mem_singleton.1 hentry] at hfront ⊢
    by_contra hne
    exact hpath.not_mem_sections (hsetting.mem_sections hfront (Ne.symm hne) hpath.ne_nil)
  settings_layer := by
    intro path hpath value hvalue
    rw [foldedAt?_nil hpath.ne_nil] at hvalue
    cases hvalue

include hvariables hkey in
theorem given_single (path : List String) (hpath : path ≠ []) :
    given env [] path = if keyNames key = path
      then some (.scalar (some "the environment") (guess v)) else none := by
  rw [given, fromVariables, environmentLayer_single hvariables hkey, foldedAt?_nil hpath,
    Option.or_none]
  by_cases hplace : keyNames key = path <;> simp [hplace]

end Single

/-! ## Loading -/

theorem eq_nil_of_lookup {α : Type} {entries : List (String × α)}
    (h : ∀ name, entries.lookup name = none) : entries = [] := by
  cases entries with
  | nil => rfl
  | cons entry entries =>
    have hfirst := h entry.1
    simp at hfirst

/-- Without modules, what is given for the settings decides the configuration. -/
theorem Reads.unique {g : List String → Option Value} {config config' : RuntimeConfig}
    (h : Reads g config) (h' : Reads g config')
    (hmodules : ∀ name, g ["logging", "modules", name] = none) : config = config' := by
  have hnone : ∀ {config : RuntimeConfig}, Reads g config → config.logging.modules = [] := by
    intro config hreads
    refine eq_nil_of_lookup fun name => ?_
    have hmodule := hreads.module name
    rw [hmodules] at hmodule
    exact hmodule
  have hdomain : config.domain = config'.domain := by
    rw [DomainConfig.mk.injEq]
    exact ⟨h.envVar.unique h'.envVar, h.defaultId.unique h'.defaultId, h.id.unique h'.id⟩
  have hsignals : config.signals = config'.signals := by
    rw [SignalConfig.mk.injEq]
    exact h.defaultHandlers.unique h'.defaultHandlers
  have hlogging : config.logging = config'.logging := by
    rw [LoggingConfig.mk.injEq]
    exact ⟨h.level.unique h'.level, h.format.unique h'.format, h.output.unique h'.output,
      h.file.unique h'.file, h.color.unique h'.color, (hnone h).trans (hnone h').symm⟩
  rw [RuntimeConfig.mk.injEq]
  exact ⟨hdomain, hsignals, hlogging⟩

section Load

variable {env : Environment} {tree : FileTree} {name v key : String}
  (hvariables : settingVariables env = [(name, v)]) (hkey : variableKey? name = some key)

include hvariables hkey in
/-- Without a configuration file, a single variable gives the configuration that reads it, if there
is one. -/
theorem load_single (hname : Plain name) (hsetting : keyNames key ∈ settings)
    (hfile : ∀ path ∈ pathsLookedAt env tree.workDir none, ¬ tree.isFile path)
    {config : RuntimeConfig} (hreads : Reads (given env []) config) :
    (load env tree).result = .ok config := by
  have hlayered := (unambiguous_single hvariables hkey hname (.inl hsetting)).layered_ofFileLayer
  have hload : (load env tree).result = ofFileLayer env [] := by
    have hresult := loadWith_result env tree none
    rw [layerOf_eq_nil hfile] at hresult
    exact hresult
  obtain ⟨config', hconfig'⟩ := hlayered.loads config hreads
  have hmodules : ∀ name, given env [] ["logging", "modules", name] = none := by
    intro name
    rw [given_single hvariables hkey _ (by simp), if_neg]
    intro hplace
    rw [hplace] at hsetting
    simp [settings] at hsetting
  rw [hload, hconfig', (hlayered.reads config' hconfig').unique hreads hmodules]

include hvariables hkey in
/-- A variable for one of two settings that are text leaves all others at their defaults. -/
theorem reads_text
    (hplace : keyNames key = ["domain", "env_var"] ∨ keyNames key = ["logging", "file"])
    {envVar : String} {file : Option String}
    (henvVar : Holds (given env [] ["domain", "env_var"]) readText "ROS_DOMAIN_ID" envVar)
    (hfile : Holds (given env [] ["logging", "file"]) (readOption readText) none file) :
    Reads (given env []) { domain := { envVar }, logging := { file } } := by
  have hothers : ∀ path, path ≠ [] → path ≠ ["domain", "env_var"] → path ≠ ["logging", "file"] →
      given env [] path = none := by
    intro path hpath henv hlog
    rw [given_single hvariables hkey path hpath, if_neg]
    rintro rfl
    rcases hplace with h | h
    · exact henv h
    · exact hlog h
  constructor
  case envVar => exact henvVar
  case file => exact hfile
  case module =>
    intro name
    rw [hothers _ (by simp) (by simp) (by simp)]
    rfl
  case modules_nodup => exact List.nodup_nil
  all_goals
    rw [hothers _ (by simp) (by decide) (by decide)]
    rfl

end Load

section Text

variable {env : Environment} {tree : FileTree} {v t : String}
  (hfile : ∀ path ∈ pathsLookedAt env tree.workDir none, ¬ tree.isFile path)
  (ht : readText (.scalar (some "the environment") (guess v)) = .ok t)

include hfile ht

/-- The log file that a single variable gives. -/
theorem load_file (hvariables : settingVariables env = [("RCLCTX_LOGGING__FILE", v)]) :
    (load env tree).result = .ok { logging := { file := some t } } := by
  have hkey : variableKey? "RCLCTX_LOGGING__FILE" = some "logging.file" := by decide
  have hplace : keyNames "logging.file" = ["logging", "file"] := by decide
  have hgiven := given_single hvariables hkey
  refine load_single hvariables hkey (by decide) (by decide) hfile
    (reads_text hvariables hkey (.inr hplace) ?_ ?_)
  · rw [hgiven _ (by simp), hplace, if_neg (by decide)]
    rfl
  · rw [hgiven _ (by simp), if_pos hplace]
    exact readOption_of_readText ht

/-- The name of the domain's variable that a single variable gives. -/
theorem load_envVar (hvariables : settingVariables env = [("RCLCTX_DOMAIN__ENV_VAR", v)]) :
    (load env tree).result = .ok { domain := { envVar := t } } := by
  have hkey : variableKey? "RCLCTX_DOMAIN__ENV_VAR" = some "domain.env_var" := by decide
  have hplace : keyNames "domain.env_var" = ["domain", "env_var"] := by decide
  have hgiven := given_single hvariables hkey
  refine load_single hvariables hkey (by decide) (by decide) hfile
    (reads_text hvariables hkey (.inl hplace) ?_ ?_)
  · rw [hgiven _ (by simp), if_pos hplace]
    exact ht
  · rw [hgiven _ (by simp), hplace, if_neg (by decide)]
    rfl

end Text

/-- **A text setting from a single variable.** With no configuration file and no other variable for
a setting, loading succeeds with the log file, or the name of the domain's variable, that is made of
the value of its variable. That is the value itself unless the value is taken for a truth value or a
number; a value with a character that no truth value and no number has is not. -/
theorem load_single_text (env : Environment) (tree : FileTree) (v : String)
    (hfile : ∀ path ∈ pathsLookedAt env tree.workDir none, ¬ tree.isFile path) :
    ∃ t, TakenAs v t ∧ ((∃ c ∈ v.toList, ¬ IsNumberChar c) → t = v)
      ∧ (settingVariables env = [("RCLCTX_LOGGING__FILE", v)] →
        (load env tree).result = .ok { logging := { file := some t } })
      ∧ (settingVariables env = [("RCLCTX_DOMAIN__ENV_VAR", v)] →
        (load env tree).result = .ok { domain := { envVar := t } }) := by
  obtain ⟨t, htaken, ht⟩ := exists_takenAs (some "the environment") v
  refine ⟨t, htaken, ?_, load_file hfile ht, load_envVar hfile ht⟩
  rintro ⟨c, hc, hchar⟩
  exact htaken.eq_of_mem hc hchar

/-! ## Environments of texts -/

theorem binding_entry {name : String} (h : '=' ∉ name.toList) (value : String) :
    (Text.Utf8.decode (Environment.entry name (Text.Utf8.encode value))).toOption.bind
      (Text.splitOnce? "=") = some (name, value) := by
  have hentry : Environment.entry name (Text.Utf8.encode value)
      = Text.Utf8.encode (name ++ "=" ++ value) := by
    have hmark : String.utf8EncodeChar '=' = [61] := rfl
    rw [Environment.entry, Text.Utf8.encode, Text.Utf8.encode, Text.Utf8.encode]
    simp [hmark]
  rw [hentry, Text.Utf8.decode_encode]
  exact Text.splitOnce?_eq_some_iff.2 (Text.splitsAt_singleton_iff.2 ⟨rfl, h⟩)

/-- A user with a variable for the log file. -/
def logFileEnv (v : String) : Environment :=
  { entries := [Environment.entry "HOME" (Text.Utf8.encode "/home/u"),
      Environment.entry "RCLCTX_LOGGING__FILE" (Text.Utf8.encode v)] }

theorem settingVariables_logFileEnv (v : String) :
    settingVariables (logFileEnv v) = [("RCLCTX_LOGGING__FILE", v)] := by
  have hhome : (variableKey? "HOME").isSome = false := by decide
  have hlog : (variableKey? "RCLCTX_LOGGING__FILE").isSome = true := by decide
  simp [settingVariables, Environment.bindings, logFileEnv, binding_entry, hhome, hlog]

theorem not_isFile_empty (path : String) : ¬ FileTree.isFile {} path := by
  have hkind : ∀ place content, FileTree.kindAt {} place ≠ some (.file content) := by
    intro place content
    rw [FileTree.kindAt, List.lookup_nil]
    dsimp only
    split <;> simp
  rw [FileTree.isFile, FileTree.read?]
  split
  · next content hfile =>
    rw [FileTree.kind] at hfile
    split at hfile
    · cases hfile
    · cases hfile
    · split at hfile
      · next hplace => exact absurd hplace (hkind _ _)
      · exact absurd hfile (hkind _ _)
  · simp

theorem load_single_text_path :
    settingVariables (logFileEnv "/var/log/a.log") = [("RCLCTX_LOGGING__FILE", "/var/log/a.log")]
      ∧ (∀ path ∈ pathsLookedAt (logFileEnv "/var/log/a.log") "/" none,
        ¬ FileTree.isFile {} path)
      ∧ (load (logFileEnv "/var/log/a.log") {}).result
        = .ok { logging := { file := some "/var/log/a.log" } } := by
  have hvariables := settingVariables_logFileEnv "/var/log/a.log"
  obtain ⟨t, -, hverbatim, hload, -⟩ :=
    load_single_text (logFileEnv "/var/log/a.log") {} "/var/log/a.log"
      fun path _ => not_isFile_empty path
  have hslash : ¬ IsNumberChar '/' := by simp [IsNumberChar]
  obtain rfl := hverbatim ⟨'/', by simp, hslash⟩
  exact ⟨hvariables, fun path _ => not_isFile_empty path, hload hvariables⟩

/-- Zeros in front of a number are lost. -/
theorem not_verbatim_leadingZeros :
    settingVariables (logFileEnv "007") = [("RCLCTX_LOGGING__FILE", "007")]
      ∧ (∀ path ∈ pathsLookedAt (logFileEnv "007") "/" none, ¬ FileTree.isFile {} path)
      ∧ (load (logFileEnv "007") {}).result = .ok { logging := { file := some "7" } }
      ∧ (load (logFileEnv "007") {}).result ≠ .ok { logging := { file := some "007" } } := by
  have hvariables := settingVariables_logFileEnv "007"
  have hnone : ∀ path ∈ pathsLookedAt (logFileEnv "007") "/" none, ¬ FileTree.isFile {} path :=
    fun path _ => not_isFile_empty path
  have hseven : readText (.scalar (some "the environment") (guess "007")) = .ok "7" := by cbv
  have hload : (load (logFileEnv "007") {}).result = .ok { logging := { file := some "7" } } :=
    load_file hnone hseven hvariables
  refine ⟨hvariables, hnone, hload, ?_⟩
  rw [hload]
  decide

end RobotClient.Config
