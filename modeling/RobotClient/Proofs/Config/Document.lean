import Mathlib
import RobotClient.Config.Document
import RobotClient.Proofs.Json.RoundTrip
import RobotClient.Proofs.Toml.Document

set_option autoImplicit false

/-! # Configurations as documents

Both formats write the same members: what is read from a configuration's document is the JSON of the
configuration. TOML has one exception. A table whose first key is the one reserved for times is read
as a time, and the names of modules may be any text. -/

namespace RobotClient

/-! ## Members -/

/-- The members of the domain's table. -/
def DomainConfig.members (c : DomainConfig) : List (String × Json) :=
  [("env_var", .text c.envVar), ("default_domain_id", .integer c.defaultId.toNat)]
    ++ Json.present "domain_id" (fun id : Int64 => .integer id.toInt) c.id

/-- The members of the signals' table. -/
def SignalConfig.members (c : SignalConfig) : List (String × Json) :=
  Json.present "default_handlers" (fun o => .text o.name) c.defaultHandlers

/-- The members of logging's table, without the table of modules. -/
def LoggingConfig.members (c : LoggingConfig) : List (String × Json) :=
  [("level", .text c.level), ("format", .text c.format), ("output", .text c.output)]
    ++ Json.present "file" .text c.file ++ [("color", .bool c.color)]

/-- The members of the modules' table. -/
def LoggingConfig.moduleMembers (c : LoggingConfig) : List (String × Json) :=
  c.modules.map fun (k, v) => (k, .text v)

namespace RuntimeConfig

/-- The members of a configuration's document, where `modules` stands for the table of modules. -/
def membersWith (c : RuntimeConfig) (modules : Json) : List (String × Json) :=
  [("domain", .object c.domain.members), ("signals", .object c.signals.members),
    ("logging", .object (c.logging.members ++ [("modules", modules)]))]

/-- The members of a configuration's document. -/
def members (c : RuntimeConfig) : List (String × Json) :=
  c.membersWith (.object c.logging.moduleMembers)

theorem toJson_eq (c : RuntimeConfig) : c.toJson = .object c.members := by
  simp [toJson, members, membersWith, DomainConfig.toJson, DomainConfig.members,
    SignalConfig.toJson, SignalConfig.members, LoggingConfig.toJson, LoggingConfig.members,
    LoggingConfig.moduleMembers]

/-- The modules have names of their own. -/
def NamesApart (c : RuntimeConfig) : Prop := (c.logging.modules.map Prod.fst).Nodup

theorem nodup_domain (c : DomainConfig) : (c.members.map Prod.fst).Nodup := by
  rw [DomainConfig.members]
  cases c.id <;> simp [Json.present]

theorem nodup_signals (c : SignalConfig) : (c.members.map Prod.fst).Nodup := by
  rw [SignalConfig.members]
  cases c.defaultHandlers <;> simp [Json.present]

theorem nodup_logging (c : LoggingConfig) : ((c.members.map Prod.fst) ++ ["modules"]).Nodup := by
  rw [LoggingConfig.members]
  cases c.file <;> simp [Json.present]

theorem names_moduleMembers (c : LoggingConfig) :
    c.moduleMembers.map Prod.fst = c.modules.map Prod.fst := by
  simp [LoggingConfig.moduleMembers]

/-- A setting that holds one value. -/
inductive Setting : Json → Prop
  | text (s : String) : Setting (.text s)
  | bool (b : Bool) : Setting (.bool b)
  | integer {n : Int} (above : Number.minSigned ≤ n) (below : n ≤ Number.maxUnsigned) :
      Setting (.integer n)

theorem forall_mem_present {α : Type} {name : String} {write : α → Json} {value : Option α}
    {p : Json → Prop} (h : ∀ x, p (write x)) : ∀ m ∈ Json.present name write value, p m.2 := by
  cases value with
  | none => simp [Json.present]
  | some x =>
    intro m hm
    obtain rfl := List.mem_singleton.1 hm
    exact h x

theorem setting_domain (c : DomainConfig) : ∀ m ∈ c.members, Setting m.2 := by
  have hid : ∀ id : Int64, Setting (.integer id.toInt) := by
    intro id
    obtain ⟨hlo, hhi⟩ := Number.toInt_bounds id
    exact .integer hlo (Int.le_trans hhi (by decide))
  have hnumber : Setting (.integer c.defaultId.toNat) := by
    have hhi := Number.toNat_le_maxUnsigned c.defaultId
    exact .integer (Int.le_trans (by decide) (Int.natCast_nonneg _)) (Int.ofNat_le.2 hhi)
  rw [DomainConfig.members]
  refine List.forall_mem_append.2 ⟨?_, forall_mem_present hid⟩
  exact List.forall_mem_cons.2 ⟨.text _, List.forall_mem_singleton.2 hnumber⟩

theorem setting_signals (c : SignalConfig) : ∀ m ∈ c.members, Setting m.2 :=
  forall_mem_present fun o => .text o.name

theorem setting_logging (c : LoggingConfig) : ∀ m ∈ c.members, Setting m.2 := by
  rw [LoggingConfig.members]
  refine List.forall_mem_append.2 ⟨List.forall_mem_append.2 ⟨?_, forall_mem_present .text⟩, ?_⟩
  · exact List.forall_mem_cons.2 ⟨.text _, List.forall_mem_cons.2 ⟨.text _,
      List.forall_mem_singleton.2 (.text _)⟩⟩
  · exact List.forall_mem_singleton.2 (.bool _)

theorem setting_modules (c : LoggingConfig) : ∀ m ∈ c.moduleMembers, Setting m.2 := by
  intro m hm
  obtain ⟨entry, -, rfl⟩ := List.mem_map.1 hm
  exact .text entry.2

/-! ## JSON -/

theorem Setting.writable {value : Json} (h : Setting value) (depth : Nat) :
    Json.Writable depth value := by
  cases h with
  | text s => exact .text s
  | bool b => exact .bool b
  | integer above below => exact .integer above below

/-- A configuration's table in JSON. -/
theorem writable_table {members : List (String × Json)} (hnames : (members.map Prod.fst).Nodup)
    (h : ∀ m ∈ members, Setting m.2) (depth : Nat) : Json.Writable (depth + 1) (.object members) :=
  .object hnames fun m hm => (h m hm).writable depth

theorem writable_toJson (c : RuntimeConfig) (h : c.NamesApart) :
    Json.Writable Json.maxDepth c.toJson := by
  have hdomain := writable_table (nodup_domain c.domain) (setting_domain c.domain) 125
  have hsignals := writable_table (nodup_signals c.signals) (setting_signals c.signals) 125
  have hmodules := writable_table ((names_moduleMembers c.logging).symm ▸ h)
    (setting_modules c.logging) 124
  have hlogging : Json.Writable 126
      (.object (c.logging.members ++ [("modules", .object c.logging.moduleMembers)])) := by
    refine .object (by simpa using nodup_logging c.logging) (List.forall_mem_append.2 ⟨?_, ?_⟩)
    · exact fun m hm => (setting_logging c.logging m hm).writable 125
    · exact List.forall_mem_singleton.2 hmodules
  rw [toJson_eq]
  show Json.Writable 127 _
  refine .object (by simp [members, membersWith]) ?_
  exact List.forall_mem_cons.2 ⟨hdomain, List.forall_mem_cons.2 ⟨hsignals,
    List.forall_mem_singleton.2 hlogging⟩⟩

/-- **A configuration's JSON is read back.** -/
theorem parse?_json (c : RuntimeConfig) (h : c.NamesApart) :
    Json.parse? c.toJson.pretty = some (.object c.members) := by
  rw [Json.parse?_pretty (writable_toJson c h), toJson_eq]

theorem exists_pretty_cons (c : RuntimeConfig) :
    ∃ cs, c.toJson.pretty.toList = Char.ofNat 0x7B :: cs := by
  rw [toJson_eq, Json.pretty, String.toList_ofList, members, membersWith, Json.printPretty]
  exact ⟨_, rfl⟩

/-! ## TOML -/

theorem Setting.timeless {value : Json} (h : Setting value) : Toml.Timeless value := by
  cases h with
  | text s => exact .text s
  | bool b => exact .bool b
  | integer => exact .integer _

theorem timeless_table {members : List (String × Json)}
    (hfirst : ∀ m ∈ members.head?, m.1 ≠ Toml.momentKey) (h : ∀ m ∈ members, Setting m.2) :
    Toml.Timeless (.object members) :=
  .object hfirst fun m hm => (h m hm).timeless

theorem timeless_domain (c : DomainConfig) : Toml.Timeless (.object c.members) := by
  refine timeless_table ?_ (setting_domain c)
  rintro m ⟨⟩
  show "env_var" ≠ _
  decide

theorem timeless_signals (c : SignalConfig) : Toml.Timeless (.object c.members) := by
  refine timeless_table ?_ (setting_signals c)
  intro m hm
  rw [SignalConfig.members] at hm
  cases hhandlers : c.defaultHandlers with
  | none => simp [Json.present, hhandlers] at hm
  | some o =>
    obtain rfl : ("default_handlers", Json.text o.name) = m := by
      simpa [Json.present, hhandlers] using hm
    show "default_handlers" ≠ _
    decide

/-- A pair of a table is written as its member is read. -/
def Writes (entry : String × String) (member : String × Json) : Prop :=
  entry.1 = member.1 ∧ Toml.Spells entry.2 member.2

theorem writes_present {α : Type} {write : α → String} {value : α → Json}
    (h : ∀ x, Toml.Spells (write x) (value x)) (name : String) (x : Option α) :
    List.Forall₂ Writes ((x.map write).toList.map fun v => (name, v))
      (Json.present name value x) := by
  cases x with
  | none => exact .nil
  | some x => exact .cons ⟨rfl, h x⟩ .nil

/-- The lines of a configuration's document. -/
def lines (c : RuntimeConfig) : List Toml.Line :=
  Toml.tableLines ["domain"] c.domain.members ++ (Toml.tableLines ["signals"] c.signals.members
    ++ (Toml.tableLines ["logging"] c.logging.members
      ++ Toml.tableLines ["logging", "modules"] c.logging.moduleMembers))

theorem writes_domain (c : DomainConfig) (h : (c.defaultId.toNat : Int) ≤ Number.maxSigned) :
    List.Forall₂ Writes
      ([("env_var", Toml.writeText c.envVar), ("default_domain_id", toString c.defaultId)]
        ++ (c.id.map toString).toList.map fun v => ("domain_id", v)) c.members := by
  have hid : ∀ id : Int64, Toml.Spells (toString id) (.integer id.toInt) := by
    intro id
    obtain ⟨hlo, hhi⟩ := Number.toInt_bounds id
    exact Toml.spells_integer hlo hhi
  have hnumber : Toml.Spells (toString c.defaultId) (.integer c.defaultId.toNat) :=
    Toml.spells_integer (Int.le_trans (by decide) (Int.natCast_nonneg _)) h
  refine List.rel_append (.cons ⟨rfl, Toml.spells_text _⟩ (.cons ⟨rfl, hnumber⟩ .nil)) ?_
  exact writes_present hid "domain_id" c.id

theorem writes_signals (c : SignalConfig) :
    List.Forall₂ Writes
      ((c.defaultHandlers.map fun o => Toml.writeText o.name).toList.map
        fun v => ("default_handlers", v)) c.members := by
  have hname : ∀ o : HandlerOptions, Toml.Spells (Toml.writeText o.name) (.text o.name) :=
    fun o => Toml.spells_text o.name
  exact writes_present hname "default_handlers" c.defaultHandlers

theorem writes_logging (c : LoggingConfig) :
    List.Forall₂ Writes
      ([("level", Toml.writeText c.level), ("format", Toml.writeText c.format),
          ("output", Toml.writeText c.output)]
        ++ ((c.file.map Toml.writeText).toList.map fun v => ("file", v))
        ++ [("color", toString c.color)]) c.members := by
  refine List.rel_append (List.rel_append ?_ ?_) (.cons ⟨rfl, Toml.spells_bool _⟩ .nil)
  · exact .cons ⟨rfl, Toml.spells_text _⟩ (.cons ⟨rfl, Toml.spells_text _⟩
      (.cons ⟨rfl, Toml.spells_text _⟩ .nil))
  · exact writes_present Toml.spells_text "file" c.file

theorem writes_modules (c : LoggingConfig) :
    List.Forall₂ Writes (c.modules.map fun (k, v) => (k, Toml.writeText v)) c.moduleMembers := by
  rw [LoggingConfig.moduleMembers, List.forall₂_map_left_iff, List.forall₂_map_right_iff]
  exact List.forall₂_same.2 fun entry _ => ⟨rfl, Toml.spells_text entry.2⟩

theorem solid_table (heading : String) (entries : List (String × String)) :
    Toml.Solid (Toml.table heading entries).toList := by
  refine ⟨'[', heading.toList ++ (']' :: '\n'
    :: (String.join (entries.map fun (k, v) => Toml.entry k v)).toList), ?_, by decide, by decide,
    by decide, by decide⟩
  simp [Toml.table]

/-- A configuration is written line by line, its tables with a blank line between them. -/
theorem written_toToml? {c : RuntimeConfig} {text : String} (h : c.toToml? = some text) :
    Toml.Written text.toList c.lines := by
  rw [toToml?] at h
  split at h
  · cases h
  · next hsmall =>
    have hdomain : Toml.Written (Toml.table "domain" _).toList
        (Toml.tableLines ["domain"] _) :=
      Toml.written_table (fun _ => rfl) (writes_domain c.domain (by omega))
    have hsignals : Toml.Written (Toml.table "signals" _).toList
        (Toml.tableLines ["signals"] _) :=
      Toml.written_table (fun _ => rfl) (writes_signals c.signals)
    have hlogging : Toml.Written (Toml.table "logging" _).toList
        (Toml.tableLines ["logging"] _) :=
      Toml.written_table (fun _ => rfl) (writes_logging c.logging)
    have hmodules : Toml.Written (Toml.table "logging.modules" _).toList
        (Toml.tableLines ["logging", "modules"] _) :=
      Toml.written_table (fun _ => rfl) (writes_modules c.logging)
    have hrest := hlogging.append (.blank (solid_table _ _) hmodules)
    have hbehind := hsignals.append (.blank ((solid_table _ _).append _) hrest)
    have hall := hdomain.append (.blank ((solid_table _ _).append _) hbehind)
    obtain rfl := Option.some.inj h
    simpa [String.intercalate_cons_cons, lines] using hall

theorem exists_toToml? {c : RuntimeConfig}
    (h : (c.domain.defaultId.toNat : Int) ≤ Number.maxSigned) : ∃ text, c.toToml? = some text := by
  rw [toToml?, if_neg (by omega)]
  exact ⟨_, rfl⟩

theorem exists_toml_cons {c : RuntimeConfig} {text : String} (h : c.toToml? = some text) :
    ∃ cs, text.toList = '[' :: cs := by
  rw [toToml?] at h
  split at h
  · cases h
  · obtain rfl := Option.some.inj h
    simp only [String.intercalate_cons_cons, Toml.table, String.toList_append]
    exact ⟨_, rfl⟩

/-- The tree of a configuration's document. -/
def tree (c : RuntimeConfig) : Toml.Entries :=
  [("domain", .table .heading (Toml.ofMembers c.domain.members)),
    ("signals", .table .heading (Toml.ofMembers c.signals.members)),
    ("logging", .table .heading (Toml.ofMembers c.logging.members
      ++ [("modules", .table .heading (Toml.ofMembers c.logging.moduleMembers))]))]

theorem foldlM_lines (c : RuntimeConfig) (h : c.NamesApart) :
    c.lines.foldlM Toml.Draft.apply {}
      = some { root := c.tree, path := ["logging", "modules"] } := by
  have hroot := Toml.Entries.isPlace_root
  have hdomain : (Toml.tableLines ["domain"] c.domain.members).foldlM Toml.Draft.apply {}
      = some { root := c.tree.take 1, path := ["domain"] } :=
    Toml.foldlM_tableLines hroot (by simp [Toml.Entries.keys]) (nodup_domain c.domain) []
  have hsignals : (Toml.tableLines ["signals"] c.signals.members).foldlM Toml.Draft.apply
      { root := c.tree.take 1, path := ["domain"] }
        = some { root := c.tree.take 2, path := ["signals"] } := by
    refine Toml.foldlM_tableLines hroot ?_ (nodup_signals c.signals) ["domain"]
    simp [Toml.Entries.keys]
  have hlogging : (Toml.tableLines ["logging"] c.logging.members).foldlM Toml.Draft.apply
      { root := c.tree.take 2, path := ["signals"] }
        = some { root := c.tree.take 2
                   ++ [("logging", .table .heading (Toml.ofMembers c.logging.members))]
                 path := ["logging"] } := by
    refine Toml.foldlM_tableLines hroot ?_ ?_ ["signals"]
    · simp [Toml.Entries.keys]
    · exact (List.nodup_append.1 (nodup_logging c.logging)).1
  have hmodules : (Toml.tableLines ["logging", "modules"] c.logging.moduleMembers).foldlM
      Toml.Draft.apply { root := c.tree.take 2
                           ++ [("logging", .table .heading (Toml.ofMembers c.logging.members))]
                         path := ["logging"] }
        = some { root := c.tree, path := ["logging", "modules"] } := by
    have hplace : Toml.Entries.IsPlace ["logging"]
        fun entries => c.tree.take 2 ++ [("logging", .table .heading entries)] :=
      hroot.child (by simp [tree, Toml.Entries.keys]) .heading
    refine Toml.foldlM_tableLines hplace ?_ ?_ ["logging"]
    · have hnew := (List.nodup_append.1 (nodup_logging c.logging)).2.2
      rw [Toml.keys_ofMembers]
      intro hmem
      exact hnew _ hmem _ List.mem_cons_self rfl
    · exact (names_moduleMembers c.logging).symm ▸ h
  simp only [lines, List.foldlM_append, hdomain, hsignals, hlogging, Option.bind_eq_bind,
    Option.bind_some, hmodules]

theorem entriesToJson_tree (c : RuntimeConfig) : Toml.entriesToJson c.tree = c.members := by
  simp [tree, members, membersWith, Toml.entriesToJson, Toml.Entry.toJson,
    Toml.entriesToJson_append, Toml.entriesToJson_ofMembers]

theorem settle_membersWith (c : RuntimeConfig) (modules : Json) :
    Toml.settle (.object (c.membersWith modules))
      = (Toml.settle modules).map fun v => .object (c.membersWith v) := by
  have hlogging : Toml.Timeless (.object c.logging.members) := by
    refine timeless_table ?_ (setting_logging c.logging)
    rintro m ⟨⟩
    show "level" ≠ _
    decide
  have hothers : Toml.Timeless
      (.object [("domain", .object c.domain.members), ("signals", .object c.signals.members)]) := by
    refine .object ?_ (List.forall_mem_cons.2 ⟨timeless_domain c.domain,
      List.forall_mem_singleton.2 (timeless_signals c.signals)⟩)
    rintro m ⟨⟩
    show "domain" ≠ _
    decide
  have hne : c.logging.members ≠ [] := List.cons_ne_nil _ _
  have hinner := Toml.settle_append hne hlogging "modules" modules
  have houter := Toml.settle_append (List.cons_ne_nil _ _) hothers "logging"
    (.object (c.logging.members ++ [("modules", modules)]))
  rw [membersWith]
  refine houter.trans ?_
  rw [hinner, Option.map_map]
  rfl

/-- **A configuration's TOML is read back but for its table of modules**, which may be taken for a
    time. -/
theorem parse?_toToml? {c : RuntimeConfig} (h : c.NamesApart) {text : String}
    (htext : c.toToml? = some text) :
    Toml.parse? text
      = (Toml.settle (.object c.logging.moduleMembers)).map c.membersWith := by
  have hwritten := written_toToml? htext
  have hread : Toml.readLines {} (text.toList.length + 1) text.toList
      = some { root := c.tree, path := ["logging", "modules"] } :=
    Toml.readLines_written hwritten (foldlM_lines c h) (Nat.lt_succ_of_le hwritten.length_le)
  have hsettle := settle_membersWith c (.object c.logging.moduleMembers)
  simp only [Toml.parse?, hread, Option.bind_eq_bind, Option.bind_some, entriesToJson_tree]
  rw [members, hsettle]
  cases Toml.settle (.object c.logging.moduleMembers) <;> rfl

/-- The first module's name is not the key that is reserved for times. -/
def Unreserved (c : RuntimeConfig) : Prop :=
  ∀ m ∈ c.logging.modules.head?, m.1 ≠ Toml.momentKey

instance (c : RuntimeConfig) : Decidable c.Unreserved :=
  inferInstanceAs (Decidable (∀ m ∈ c.logging.modules.head?, m.1 ≠ Toml.momentKey))

theorem settle_modules {c : RuntimeConfig} (h : c.Unreserved) :
    Toml.settle (.object c.logging.moduleMembers) = some (.object c.logging.moduleMembers) := by
  refine Toml.settle_eq_self (timeless_table ?_ (setting_modules c.logging))
  intro m hm
  rw [LoggingConfig.moduleMembers, List.head?_map] at hm
  obtain ⟨entry, hentry, rfl⟩ := Option.map_eq_some_iff.1 hm
  exact h entry hentry

/-- A table of modules that is taken for a time is read as a text, or not at all. -/
theorem settle_modules_of_reserved {c : RuntimeConfig} (h : ¬ c.Unreserved) :
    Toml.settle (.object c.logging.moduleMembers) = none
      ∨ ∃ time, Toml.settle (.object c.logging.moduleMembers) = some (.text time) := by
  simp only [Unreserved, not_forall, ne_eq, not_not] at h
  obtain ⟨m, hm, hkey⟩ := h
  obtain ⟨rest, hrest⟩ := List.head?_eq_some_iff.1 hm
  have hsettle : Toml.settle (.object c.logging.moduleMembers) = Toml.momentOf? (.text m.2) := by
    rw [LoggingConfig.moduleMembers, hrest, List.map_cons, Toml.settle, if_pos hkey]
  rw [hsettle, Toml.momentOf?]
  cases Toml.quotedMoment? m.2.toList with
  | none => exact .inl rfl
  | some time => exact .inr ⟨_, rfl⟩

end RuntimeConfig
end RobotClient
