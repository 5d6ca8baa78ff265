import Mathlib
import RobotClient.Config.Decode
import RobotClient.Proofs.Config.Layer
import RobotClient.Proofs.Except

set_option autoImplicit false

/-! # What a configuration read from tables holds

A configuration is read from nested tables. Each of its settings is read from what stands at the
setting's place and has its default if nothing does; a level is read from each entry of the table of
modules. -/

namespace RobotClient.Config

open Value (KeysApart)

/-- What is read from a value if one is given, and a default else. -/
def Holds {α : Type} (given : Option Value) (read : Value → Except LoadError α) (default x : α) :
    Prop :=
  match given with
  | some value => read value = .ok x
  | none => x = default

theorem Holds.unique {α : Type} {given : Option Value} {read : Value → Except LoadError α}
    {default x y : α} (hx : Holds given read default x) (hy : Holds given read default y) :
    x = y := by
  cases given with
  | none => exact hx.trans (Eq.symm hy)
  | some value => exact Except.ok.inj (hx.symm.trans hy)

/-- The level of a module. -/
def readLevel (value : Value) : Except LoadError (Option String) := (readText value).map some

/-- The settings of a configuration are what is read from the values given at their places, and the
    defaults where none is given. -/
structure Reads (given : List String → Option Value) (config : RuntimeConfig) : Prop where
  envVar : Holds (given ["domain", "env_var"]) readText "ROS_DOMAIN_ID" config.domain.envVar
  defaultId : Holds (given ["domain", "default_domain_id"]) readUnsigned 0 config.domain.defaultId
  id : Holds (given ["domain", "domain_id"]) (readOption readSigned) none config.domain.id
  defaultHandlers : Holds (given ["signals", "default_handlers"]) (readOption readHandlers) none
    config.signals.defaultHandlers
  level : Holds (given ["logging", "level"]) readText "info" config.logging.level
  format : Holds (given ["logging", "format"]) readText "text" config.logging.format
  output : Holds (given ["logging", "output"]) readText "stderr" config.logging.output
  file : Holds (given ["logging", "file"]) (readOption readText) none config.logging.file
  color : Holds (given ["logging", "color"]) readBool true config.logging.color
  module : ∀ name, Holds (given ["logging", "modules", name]) readLevel none
    (config.logging.modules.lookup name)
  modules_nodup : (config.logging.modules.map Prod.fst).Nodup

/-! ## Sections -/

theorem Section.read_named_eq_ok {α : Type} {entries : Entries} {position : Nat} {name : String}
    {read : Value → Except LoadError α} {default x : α} :
    (Section.named entries).read position name read default = .ok x ↔
      Holds (entries.lookup name) read default x := by
  cases hlookup : entries.lookup name with
  | none => simp [Section.read, Holds, hlookup, eq_comm]
  | some value => simp [Section.read, Holds, hlookup, mapError_eq_ok]

theorem Value.at?_append (value : Value) (front back : List String) :
    value.at? (front ++ back) = (value.at? front).bind (·.at? back) := by
  induction front generalizing value with
  | nil => rfl
  | cons name front ih =>
    rw [List.cons_append, Value.at?, Value.at?, Option.bind_assoc]
    exact congrArg _ (funext ih)

theorem readDomain_table {origin : Option String} {entries : Entries} {config : DomainConfig} :
    readDomain (.table origin entries) = .ok config ↔
      Holds (entries.lookup "env_var") readText "ROS_DOMAIN_ID" config.envVar
        ∧ Holds (entries.lookup "default_domain_id") readUnsigned 0 config.defaultId
        ∧ Holds (entries.lookup "domain_id") (readOption readSigned) none config.id := by
  simp only [readDomain, Section.of, bind_eq_ok, Section.read_named_eq_ok, pure_eq_ok,
    Except.ok.injEq, exists_eq_left']
  constructor
  · rintro ⟨envVar, henvVar, defaultId, hdefaultId, domainId, hid, rfl⟩
    exact ⟨henvVar, hdefaultId, hid⟩
  · rintro ⟨henvVar, hdefaultId, hid⟩
    exact ⟨_, henvVar, _, hdefaultId, _, hid, rfl⟩

theorem readSignals_table {origin : Option String} {entries : Entries} {config : SignalConfig} :
    readSignals (.table origin entries) = .ok config ↔
      Holds (entries.lookup "default_handlers") (readOption readHandlers) none
        config.defaultHandlers := by
  simp only [readSignals, Section.of, bind_eq_ok, Section.read_named_eq_ok, pure_eq_ok,
    Except.ok.injEq, exists_eq_left']
  constructor
  · rintro ⟨handlers, hhandlers, rfl⟩
    exact hhandlers
  · intro hhandlers
    exact ⟨_, hhandlers, rfl⟩

theorem readLogging_table {origin : Option String} {entries : Entries} {config : LoggingConfig} :
    readLogging (.table origin entries) = .ok config ↔
      Holds (entries.lookup "level") readText "info" config.level
        ∧ Holds (entries.lookup "format") readText "text" config.format
        ∧ Holds (entries.lookup "output") readText "stderr" config.output
        ∧ Holds (entries.lookup "file") (readOption readText) none config.file
        ∧ Holds (entries.lookup "color") readBool true config.color
        ∧ Holds (entries.lookup "modules") readTable [] config.modules := by
  simp only [readLogging, Section.of, bind_eq_ok, Section.read_named_eq_ok, pure_eq_ok,
    Except.ok.injEq, exists_eq_left']
  constructor
  · rintro ⟨level, hlevel, format, hformat, output, houtput, file, hfile, color, hcolor, modules,
      hmodules, rfl⟩
    exact ⟨hlevel, hformat, houtput, hfile, hcolor, hmodules⟩
  · rintro ⟨hlevel, hformat, houtput, hfile, hcolor, hmodules⟩
    exact ⟨_, hlevel, _, hformat, _, houtput, _, hfile, _, hcolor, _, hmodules, rfl⟩

theorem readRuntime_table {origin : Option String} {entries : Entries} {config : RuntimeConfig} :
    readRuntime (.table origin entries) = .ok config ↔
      Holds (entries.lookup "domain") readDomain {} config.domain
        ∧ Holds (entries.lookup "signals") readSignals {} config.signals
        ∧ Holds (entries.lookup "logging") readLogging {} config.logging := by
  simp only [readRuntime, Section.of, bind_eq_ok, Section.read_named_eq_ok, pure_eq_ok,
    Except.ok.injEq, exists_eq_left']
  constructor
  · rintro ⟨domain, hdomain, signals, hsignals, logging, hlogging, rfl⟩
    exact ⟨hdomain, hsignals, hlogging⟩
  · rintro ⟨hdomain, hsignals, hlogging⟩
    exact ⟨_, hdomain, _, hsignals, _, hlogging, rfl⟩

/-- A section that may be missing is read setting by setting. -/
theorem holds_readDomain {given : Option Value} (h : ∀ value, given = some value → value.IsTable)
    {config : DomainConfig} :
    Holds given readDomain {} config ↔
      Holds (given.bind (·.at? ["env_var"])) readText "ROS_DOMAIN_ID" config.envVar
        ∧ Holds (given.bind (·.at? ["default_domain_id"])) readUnsigned 0 config.defaultId
        ∧ Holds (given.bind (·.at? ["domain_id"])) (readOption readSigned) none config.id := by
  cases given with
  | none =>
    cases config
    simp [Holds]
  | some value =>
    cases value with
    | table origin entries => simpa [Value.at?, Holds] using readDomain_table
    | scalar | list => exact absurd (h _ rfl) not_false

theorem holds_readSignals {given : Option Value} (h : ∀ value, given = some value → value.IsTable)
    {config : SignalConfig} :
    Holds given readSignals {} config ↔
      Holds (given.bind (·.at? ["default_handlers"])) (readOption readHandlers) none
        config.defaultHandlers := by
  cases given with
  | none =>
    cases config
    simp [Holds]
  | some value =>
    cases value with
    | table origin entries => simpa [Value.at?, Holds] using readSignals_table
    | scalar | list => exact absurd (h _ rfl) not_false

theorem holds_readLogging {given : Option Value} (h : ∀ value, given = some value → value.IsTable)
    {config : LoggingConfig} :
    Holds given readLogging {} config ↔
      Holds (given.bind (·.at? ["level"])) readText "info" config.level
        ∧ Holds (given.bind (·.at? ["format"])) readText "text" config.format
        ∧ Holds (given.bind (·.at? ["output"])) readText "stderr" config.output
        ∧ Holds (given.bind (·.at? ["file"])) (readOption readText) none config.file
        ∧ Holds (given.bind (·.at? ["color"])) readBool true config.color
        ∧ Holds (given.bind (·.at? ["modules"])) readTable [] config.modules := by
  cases given with
  | none =>
    cases config
    simp [Holds]
  | some value =>
    cases value with
    | table origin entries => simpa [Value.at?, Holds] using readLogging_table
    | scalar | list => exact absurd (h _ rfl) not_false

/-! ## Modules -/

/-- The table of modules keeps its names, each with the text of its value. -/
theorem readTable_eq_ok {origin : Option String} {entries : Entries}
    {modules : List (String × String)} :
    readTable (.table origin entries) = .ok modules ↔
      List.Forall₂ (fun entry named => named.1 = entry.1 ∧ readText entry.2 = .ok named.2)
        entries modules := by
  have hentry : ∀ (entry : String × Value) (named : String × String),
      (((readText entry.2).mapError (·.below entry.1)).map (entry.1, ·)) = .ok named ↔
        named.1 = entry.1 ∧ readText entry.2 = .ok named.2 := by
    intro entry named
    simp only [map_eq_ok, mapError_eq_ok]
    constructor
    · rintro ⟨level, hlevel, rfl⟩
      exact ⟨rfl, hlevel⟩
    · rintro ⟨hname, hlevel⟩
      exact ⟨named.2, hlevel, by rw [← hname]⟩
  rw [readTable, mapM_eq_ok]
  simp only [hentry]

theorem holds_lookup {entries : Entries} {modules : List (String × String)}
    (h : List.Forall₂ (fun entry named => named.1 = entry.1 ∧ readText entry.2 = .ok named.2)
      entries modules) (name : String) :
    Holds (entries.lookup name) readLevel none (modules.lookup name) := by
  induction h with
  | nil => rfl
  | @cons entry named entries modules hread _ ih =>
    obtain ⟨key, value⟩ := entry
    obtain ⟨key', level⟩ := named
    obtain ⟨rfl, hlevel⟩ := hread
    by_cases hname : name = key'
    · subst hname
      simp only [List.lookup_cons_self, Holds, readLevel]
      simp [show readText value = .ok level from hlevel, Except.map]
    · have hne : (name == key') = false := by simpa using hname
      simpa only [List.lookup_cons, hne] using ih

/-- A table of modules is read name by name. -/
theorem holds_readTable {given : Option Value} (h : ∀ value, given = some value → value.IsTable)
    (hapart : ∀ value, given = some value → KeysApart id value)
    {modules : List (String × String)} (hmodules : Holds given readTable [] modules) :
    (∀ name, Holds (given.bind (·.at? [name])) readLevel none (modules.lookup name))
      ∧ (modules.map Prod.fst).Nodup := by
  cases given with
  | none =>
    obtain rfl : modules = [] := hmodules
    exact ⟨fun _ => rfl, List.nodup_nil⟩
  | some value =>
    cases value with
    | scalar | list => exact absurd (h _ rfl) not_false
    | table origin entries =>
      have hread := readTable_eq_ok.1 hmodules
      refine ⟨fun name => by simpa [Value.at?] using holds_lookup hread name, ?_⟩
      have hnames : modules.map Prod.fst = entries.map fun entry => id entry.1 := by
        clear hmodules h hapart
        induction hread with
        | nil => rfl
        | cons hname _ ih => simp [hname.1, ih]
      rw [hnames]
      exact (hapart _ rfl).entries_nodup

theorem lookup_of_mem {entries : Entries} (h : (entries.map Prod.fst).Nodup)
    {entry : String × Value} (hentry : entry ∈ entries) :
    entries.lookup entry.1 = some entry.2 := by
  obtain ⟨front, back, rfl⟩ := List.append_of_mem hentry
  refine List.lookup_eq_some_iff.2 ⟨front, back, rfl, ?_⟩
  intro other hother
  rw [List.map_append, List.nodup_append] at h
  have hne := h.2.2 other.1 (List.mem_map_of_mem hother) entry.1 (by simp)
  simpa using Ne.symm hne

/-- A table of modules can be read if each of its names can. -/
theorem exists_holds_readTable {given : Option Value} {levels : String → Option String}
    (h : ∀ value, given = some value → value.IsTable)
    (hapart : ∀ value, given = some value → KeysApart id value)
    (hlevels : ∀ name, Holds (given.bind (·.at? [name])) readLevel none (levels name)) :
    ∃ modules, Holds given readTable [] modules := by
  cases given with
  | none => exact ⟨[], rfl⟩
  | some value =>
    cases value with
    | scalar | list => exact absurd (h _ rfl) not_false
    | table origin entries =>
      have hread : ∀ entry ∈ entries, ∃ level, readText entry.2 = .ok level := by
        intro entry hentry
        have hlookup : entries.lookup entry.1 = some entry.2 :=
          lookup_of_mem (hapart _ rfl).entries_nodup hentry
        have hlevel := hlevels entry.1
        simp only [Option.bind_some, Value.at?, Value.entries_table, hlookup, Holds, readLevel,
          map_eq_ok] at hlevel
        obtain ⟨level, hlevel, -⟩ := hlevel
        exact ⟨level, hlevel⟩
      choose! levelOf hlevelOf using hread
      refine ⟨entries.map fun entry => (entry.1, levelOf entry), ?_⟩
      refine readTable_eq_ok.2 (List.forall₂_map_right_iff.2 (List.forall₂_same.2 ?_))
      intro entry hentry
      exact ⟨rfl, hlevelOf entry hentry⟩

/-! ## Configurations -/

/-- The places of the tables that settings are in. -/
def sections : List (List String) :=
  [["domain"], ["signals"], ["logging"], ["logging", "modules"]]

/-- What a value holds, if its sections are tables without repeated keys. -/
structure Sectioned (value : Value) : Prop where
  isTable : value.IsTable
  sections : ∀ path ∈ sections, ∀ there, value.at? path = some there → there.IsTable
  apart : KeysApart id value

theorem Value.KeysApart.at? {value there : Value} (h : KeysApart id value) {path : List String}
    (hat : value.at? path = some there) : KeysApart id there := by
  induction path generalizing value with
  | nil => exact Option.some.inj hat ▸ h
  | cons name path ih =>
    obtain ⟨inner, hinner, hbelow⟩ := Option.bind_eq_some_iff.1 hat
    obtain ⟨front, back, hentries, -⟩ := List.lookup_eq_some_iff.1 hinner
    exact ih (h.of_mem_entries (by simp [hentries] : (name, inner) ∈ value.entries)) hbelow

theorem readRuntime_eq_ok {value : Value} (h : Sectioned value) {config : RuntimeConfig} :
    readRuntime value = .ok config ↔
      Holds (value.at? ["domain"]) readDomain {} config.domain
        ∧ Holds (value.at? ["signals"]) readSignals {} config.signals
        ∧ Holds (value.at? ["logging"]) readLogging {} config.logging := by
  cases value with
  | table origin entries => simpa [Value.at?] using readRuntime_table
  | scalar | list => exact absurd h.isTable not_false

/-- **A configuration holds what is read at the places of its settings.** -/
theorem Sectioned.reads {value : Value} (h : Sectioned value) {config : RuntimeConfig}
    (hread : readRuntime value = .ok config) : Reads value.at? config := by
  obtain ⟨hdomain, hsignals, hlogging⟩ := (readRuntime_eq_ok h).1 hread
  obtain ⟨henvVar, hdefaultId, hid⟩ :=
    (holds_readDomain (h.sections _ (by decide))).1 hdomain
  have hhandlers := (holds_readSignals (h.sections _ (by decide))).1 hsignals
  obtain ⟨hlevel, hformat, houtput, hfile, hcolor, hmodules⟩ :=
    (holds_readLogging (h.sections _ (by decide))).1 hlogging
  simp only [← Value.at?_append, List.singleton_append] at *
  obtain ⟨hmodule, hnodup⟩ := holds_readTable (h.sections ["logging", "modules"] (by decide))
    (fun _ => h.apart.at?) hmodules
  simp only [← Value.at?_append, List.cons_append, List.nil_append] at hmodule
  exact ⟨henvVar, hdefaultId, hid, hhandlers, hlevel, hformat, houtput, hfile, hcolor, hmodule,
    hnodup⟩

/-- A configuration is read if each of its settings can be. -/
theorem Sectioned.exists_readRuntime {value : Value} (h : Sectioned value) {config : RuntimeConfig}
    (hreads : Reads value.at? config) : ∃ config', readRuntime value = .ok config' := by
  have hlevels : ∀ name, Holds ((value.at? ["logging", "modules"]).bind (·.at? [name])) readLevel
      none (config.logging.modules.lookup name) := by
    intro name
    rw [← Value.at?_append]
    exact hreads.module name
  obtain ⟨modules, hmodules⟩ :=
    exists_holds_readTable (h.sections _ (by decide)) (fun _ => h.apart.at?) hlevels
  refine ⟨{ config with logging := { config.logging with modules } }, (readRuntime_eq_ok h).2 ?_⟩
  refine ⟨(holds_readDomain (h.sections _ (by decide))).2 ?_,
    (holds_readSignals (h.sections _ (by decide))).2 ?_,
    (holds_readLogging (h.sections _ (by decide))).2 ?_⟩ <;>
    simp only [← Value.at?_append, List.singleton_append]
  · exact ⟨hreads.envVar, hreads.defaultId, hreads.id⟩
  · exact hreads.defaultHandlers
  · exact ⟨hreads.level, hreads.format, hreads.output, hreads.file, hreads.color, hmodules⟩

end RobotClient.Config
