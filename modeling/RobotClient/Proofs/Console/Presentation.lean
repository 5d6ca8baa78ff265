import RobotClient.Arguments.Json
import RobotClient.Console.ArgumentsView
import RobotClient.Console.Summary
import RobotClient.Proofs.Config.Document
import RobotClient.Proofs.Json.Record

set_option autoImplicit false

/-! # What is printed as JSON reads back

Arguments, summaries and configurations are printed as JSON documents, with fields that are left out
and fields that are `null`. Each document read back is the value that was printed, so different
values are printed differently. Main statement: `Console.printed_json`. -/

namespace RobotClient

open Json (Record Writable bool?_bool listOf?_map nullable_bool nullable_orNull nullable_signed
  nullable_text nullable_unsigned nullable_variant optional_of_lookup optional_of_nullable
  orDefault_of_lookup orDefault_of_optional required_of_lookup tableOf?_map text?_text
  unsigned?_integer variant?_text)

/-! ## Arguments -/

theorem Assignment.ofJson?_toJson {left right : String} (hleft : left ≠ "node")
    (hright : right ≠ "node") (h : right ≠ left) (a : Assignment) :
    Assignment.ofJson? left right (a.toJson left right) = some a := by
  let members := Json.present "node" .text a.node ++ [(left, .text a.name), (right, .text a.value)]
  have hnode : members.lookup "node" = a.node.map .text := by
    simp [members, List.lookup_append, hleft.symm, hright.symm]
  have hname : members.lookup left = some (.text a.name) := by
    simp [members, List.lookup_append, hleft]
  have hvalue : members.lookup right = some (.text a.value) := by
    simp [members, List.lookup_append, hright, h]
  have hrecord : Record.of? 3 (a.toJson left right) = some (.named members) := rfl
  simp only [Assignment.ofJson?, hrecord, Option.bind_eq_bind, Option.bind_some,
    optional_of_lookup hnode nullable_text, required_of_lookup hname (text?_text a.name),
    required_of_lookup hvalue (text?_text a.value), Option.pure_def]

theorem Assignment.ofJson?_rule (rule : Assignment) :
    Assignment.ofJson? "from" "to" (rule.toJson "from" "to") = some rule :=
  rule.ofJson?_toJson (by decide) (by decide) (by decide)

theorem Assignment.ofJson?_parameter (assignment : Assignment) :
    Assignment.ofJson? "name" "value" (assignment.toJson "name" "value") = some assignment :=
  assignment.ofJson?_toJson (by decide) (by decide) (by decide)

theorem loggerOfJson?_toJson (entry : String × Severity) :
    loggerOfJson? (.list [.text entry.1, .text entry.2.name]) = some entry := by
  rw [loggerOfJson?, variant?_text Severity.ofName?_name, Option.map_some]

theorem LogLevels.ofJson?_toJson (levels : LogLevels) :
    LogLevels.ofJson? levels.toJson = some levels := by
  let loggers := Json.list
    (levels.loggers.map fun entry => .list [.text entry.1, .text entry.2.name])
  let members := Json.present "default" (fun s => .text s.name) levels.default
    ++ [("loggers", loggers)]
  have hdefault : members.lookup "default" = levels.default.map fun s => .text s.name := by
    simp [members, List.lookup_append]
  have hloggers : members.lookup "loggers" = some loggers := by
    simp [members, List.lookup_append]
  have hrecord : Record.of? 2 levels.toJson = some (.named members) := rfl
  simp only [LogLevels.ofJson?, hrecord, Option.bind_eq_bind, Option.bind_some,
    optional_of_lookup hdefault (nullable_variant Severity.ofName?_name),
    orDefault_of_lookup hloggers (listOf?_map loggerOfJson?_toJson levels.loggers),
    Option.pure_def]

/-- The members of parsed arguments. -/
def Arguments.members (a : Arguments) : List (String × Json) := [
  ("non_ros_args", Json.texts a.plain),
  ("remap_rules", .list (a.remapRules.map (Assignment.toJson "from" "to"))),
  ("parameter_overrides", .list (a.parameters.map (Assignment.toJson "name" "value"))),
  ("parameter_files", Json.texts a.parameterFiles),
  ("log_levels", a.logLevels.toJson),
  ("log_config_file", Json.orNull .text a.logConfigFile),
  ("log_file_name", Json.orNull .text a.logFileName),
  ("enclave", Json.orNull .text a.enclave),
  ("rosout_logs", Json.orNull .bool a.rosoutLogs),
  ("stdout_logs", Json.orNull .bool a.stdoutLogs),
  ("external_lib_logs", Json.orNull .bool a.externalLibLogs)]

theorem Arguments.toJson_eq (a : Arguments) : a.toJson = .object a.members := rfl

theorem Arguments.ofJson?_toJson (a : Arguments) : Arguments.ofJson? a.toJson = some a := by
  let r := Record.named a.members
  have plain : r.required 0 "non_ros_args" (Json.listOf? Json.text?) = some a.plain :=
    required_of_lookup rfl (listOf?_map text?_text a.plain) 0
  have rules : r.required 1 "remap_rules" (Json.listOf? (Assignment.ofJson? "from" "to"))
      = some a.remapRules :=
    required_of_lookup rfl (listOf?_map Assignment.ofJson?_rule a.remapRules) 1
  have parameters : r.required 2 "parameter_overrides"
      (Json.listOf? (Assignment.ofJson? "name" "value")) = some a.parameters :=
    required_of_lookup rfl (listOf?_map Assignment.ofJson?_parameter a.parameters) 2
  have files : r.required 3 "parameter_files" (Json.listOf? Json.text?) = some a.parameterFiles :=
    required_of_lookup rfl (listOf?_map text?_text a.parameterFiles) 3
  have levels : r.required 4 "log_levels" LogLevels.ofJson? = some a.logLevels :=
    required_of_lookup rfl a.logLevels.ofJson?_toJson 4
  have configFile : r.optional 5 "log_config_file" Json.text? = some a.logConfigFile :=
    optional_of_nullable rfl (nullable_orNull nullable_text _) 5
  have fileName : r.optional 6 "log_file_name" Json.text? = some a.logFileName :=
    optional_of_nullable rfl (nullable_orNull nullable_text _) 6
  have enclave : r.optional 7 "enclave" Json.text? = some a.enclave :=
    optional_of_nullable rfl (nullable_orNull nullable_text _) 7
  have rosout : r.optional 8 "rosout_logs" Json.bool? = some a.rosoutLogs :=
    optional_of_nullable rfl (nullable_orNull nullable_bool _) 8
  have stdout : r.optional 9 "stdout_logs" Json.bool? = some a.stdoutLogs :=
    optional_of_nullable rfl (nullable_orNull nullable_bool _) 9
  have external : r.optional 10 "external_lib_logs" Json.bool? = some a.externalLibLogs :=
    optional_of_nullable rfl (nullable_orNull nullable_bool _) 10
  have hrecord : Record.of? 11 a.toJson = some r := rfl
  simp only [Arguments.ofJson?, hrecord, Option.bind_eq_bind, Option.bind_some, plain, rules,
    parameters, files, levels, configFile, fileName, enclave, rosout, stdout, external,
    Option.pure_def]

/-! ## Summaries -/

theorem Status.ofJson?_toJson (s : Status) : Status.ofJson? s.toJson = some s := by
  let members := [("id", Json.integer s.id.toNat), ("state", .text s.state.name)]
    ++ Json.present "domain_id" (fun id : UInt64 => .integer id.toNat) s.domainId
    ++ Json.present "signal_handler_options" (fun o => .text o.name) s.handlers
    ++ [("owns_signal_handlers", .bool s.ownsHandlers)]
    ++ Json.present "initialized_at" .text s.initializedAt
  have hid : members.lookup "id" = some (.integer s.id.toNat) := by
    simp [members]
  have hstate : members.lookup "state" = some (.text s.state.name) := by
    simp [members]
  have hdomain : members.lookup "domain_id"
      = s.domainId.map fun id : UInt64 => .integer id.toNat := by
    simp [members, List.lookup_append]
  have hhandlers : members.lookup "signal_handler_options"
      = s.handlers.map fun o => .text o.name := by
    simp [members, List.lookup_append]
  have howns : members.lookup "owns_signal_handlers" = some (.bool s.ownsHandlers) := by
    simp [members, List.lookup_append]
  have htime : members.lookup "initialized_at" = s.initializedAt.map .text := by
    simp [members, List.lookup_append]
  have hrecord : Record.of? 6 s.toJson = some (.named members) := rfl
  simp only [Status.ofJson?, hrecord, Option.bind_eq_bind, Option.bind_some,
    required_of_lookup hid (unsigned?_integer s.id),
    required_of_lookup hstate (variant?_text Lifecycle.ofName?_name s.state),
    optional_of_lookup hdomain nullable_unsigned,
    optional_of_lookup hhandlers (nullable_variant HandlerOptions.ofName?_name),
    required_of_lookup howns (bool?_bool s.ownsHandlers), optional_of_lookup htime nullable_text,
    Option.pure_def]

theorem Console.Summary.ofJson?_toJson (s : Console.Summary) :
    Console.Summary.ofJson? s.toJson = some s := by
  let members := [("context", s.context.toJson)] ++ Json.present "node" .text s.node
    ++ Json.present "signal" .text s.signal ++ [("non_ros_args", Json.texts s.plain)]
  have hcontext : members.lookup "context" = some s.context.toJson := by
    simp [members]
  have hnode : members.lookup "node" = s.node.map .text := by
    simp [members, List.lookup_append]
  have hsignal : members.lookup "signal" = s.signal.map .text := by
    simp [members, List.lookup_append]
  have hplain : members.lookup "non_ros_args" = some (Json.texts s.plain) := by
    simp [members, List.lookup_append]
  have hrecord : Record.of? 4 s.toJson = some (.named members) := rfl
  simp only [Console.Summary.ofJson?, hrecord, Option.bind_eq_bind, Option.bind_some,
    required_of_lookup hcontext s.context.ofJson?_toJson, optional_of_lookup hnode nullable_text,
    optional_of_lookup hsignal nullable_text,
    required_of_lookup hplain (listOf?_map text?_text s.plain), Option.pure_def]

/-! ## Configurations -/

theorem DomainConfig.ofJson?_members (c : DomainConfig) :
    DomainConfig.ofJson? (.object c.members) = some c := by
  have hvar : c.members.lookup "env_var" = some (.text c.envVar) := by
    simp [DomainConfig.members]
  have hdefault : c.members.lookup "default_domain_id" = some (.integer c.defaultId.toNat) := by
    simp [DomainConfig.members]
  have hid : c.members.lookup "domain_id" = c.id.map fun id : Int64 => .integer id.toInt := by
    simp [DomainConfig.members]
  have hrecord : Record.of? 3 (.object c.members) = some (.named c.members) := rfl
  simp only [DomainConfig.ofJson?, hrecord, Option.bind_eq_bind, Option.bind_some,
    orDefault_of_lookup hvar (text?_text c.envVar),
    orDefault_of_lookup hdefault (unsigned?_integer c.defaultId),
    orDefault_of_optional hid nullable_signed, Option.pure_def]

theorem SignalConfig.ofJson?_members (c : SignalConfig) :
    SignalConfig.ofJson? (.object c.members) = some c := by
  have hhandlers : c.members.lookup "default_handlers"
      = c.defaultHandlers.map fun o => .text o.name := by
    simp [SignalConfig.members]
  have hrecord : Record.of? 1 (.object c.members) = some (.named c.members) := rfl
  simp only [SignalConfig.ofJson?, hrecord, Option.bind_eq_bind, Option.bind_some,
    orDefault_of_optional hhandlers (nullable_variant HandlerOptions.ofName?_name),
    Option.pure_def]

theorem LoggingConfig.ofJson?_members (c : LoggingConfig) :
    LoggingConfig.ofJson? (.object (c.members ++ [("modules", .object c.moduleMembers)]))
      = some c := by
  let members := c.members ++ [("modules", .object c.moduleMembers)]
  have hlevel : members.lookup "level" = some (.text c.level) := by
    simp [members, LoggingConfig.members]
  have hformat : members.lookup "format" = some (.text c.format) := by
    simp [members, LoggingConfig.members]
  have houtput : members.lookup "output" = some (.text c.output) := by
    simp [members, LoggingConfig.members]
  have hfile : members.lookup "file" = c.file.map .text := by
    simp [members, LoggingConfig.members, List.lookup_append]
  have hcolor : members.lookup "color" = some (.bool c.color) := by
    simp [members, LoggingConfig.members, List.lookup_append]
  have hmodules : members.lookup "modules" = some (.object c.moduleMembers) := by
    simp [members, LoggingConfig.members, List.lookup_append]
  have hrecord : Record.of? 6 (.object (c.members ++ [("modules", .object c.moduleMembers)]))
      = some (.named members) := rfl
  simp only [LoggingConfig.ofJson?, hrecord, Option.bind_eq_bind, Option.bind_some,
    orDefault_of_lookup hlevel (text?_text c.level),
    orDefault_of_lookup hformat (text?_text c.format),
    orDefault_of_lookup houtput (text?_text c.output), orDefault_of_optional hfile nullable_text,
    orDefault_of_lookup hcolor (bool?_bool c.color),
    orDefault_of_lookup hmodules (tableOf?_map text?_text c.modules), Option.pure_def]

theorem RuntimeConfig.ofJson?_toJson (c : RuntimeConfig) :
    RuntimeConfig.ofJson? c.toJson = some c := by
  have hrecord : Record.of? 3 c.toJson = some (.named c.members) := by
    rw [RuntimeConfig.toJson_eq]
    rfl
  have hdomain : c.members.lookup "domain" = some (.object c.domain.members) := rfl
  have hsignals : c.members.lookup "signals" = some (.object c.signals.members) := rfl
  have hlogging : c.members.lookup "logging"
      = some (.object (c.logging.members ++ [("modules", .object c.logging.moduleMembers)])) := rfl
  simp only [RuntimeConfig.ofJson?, hrecord, Option.bind_eq_bind, Option.bind_some,
    orDefault_of_lookup hdomain c.domain.ofJson?_members,
    orDefault_of_lookup hsignals c.signals.ofJson?_members,
    orDefault_of_lookup hlogging c.logging.ofJson?_members, Option.pure_def]

/-! ## Documents -/

theorem writable_present {α : Type} {name : String} {write : α → Json} {value : Option α}
    {depth : Nat} (h : ∀ x, Writable depth (write x)) :
    ∀ m ∈ Json.present name write value, Writable depth m.2 :=
  RuntimeConfig.forall_mem_present h

theorem writable_orNull {α : Type} {write : α → Json} {depth : Nat}
    (h : ∀ x, Writable depth (write x)) (value : Option α) :
    Writable depth (Json.orNull write value) := by
  cases value with
  | none => exact .null
  | some x => exact h x

theorem writable_list {α : Type} {write : α → Json} {depth : Nat}
    (h : ∀ x, Writable depth (write x)) (items : List α) :
    Writable (depth + 1) (.list (items.map write)) := by
  refine .list fun item hitem => ?_
  obtain ⟨x, -, rfl⟩ := List.mem_map.1 hitem
  exact h x

theorem writable_unsigned (depth : Nat) (n : UInt64) : Writable depth (.integer n.toNat) := by
  have hhi := Number.toNat_le_maxUnsigned n
  exact .integer (Int.le_trans (by decide) (Int.natCast_nonneg _)) (Int.ofNat_le.2 hhi)

theorem Assignment.writable_toJson {left right : String} (hleft : left ≠ "node")
    (hright : right ≠ "node") (h : right ≠ left) (depth : Nat) (a : Assignment) :
    Writable (depth + 1) (a.toJson left right) := by
  refine .object ?_ (List.forall_mem_append.2 ⟨writable_present .text, ?_⟩)
  · cases a.node <;> simp [Json.present, hleft.symm, hright.symm, h.symm]
  · exact List.forall_mem_cons.2 ⟨.text _, List.forall_mem_singleton.2 (.text _)⟩

theorem Assignment.writable_rule (depth : Nat) (rule : Assignment) :
    Writable (depth + 1) (rule.toJson "from" "to") :=
  rule.writable_toJson (by decide) (by decide) (by decide) depth

theorem Assignment.writable_parameter (depth : Nat) (assignment : Assignment) :
    Writable (depth + 1) (assignment.toJson "name" "value") :=
  assignment.writable_toJson (by decide) (by decide) (by decide) depth

theorem LogLevels.writable_toJson (depth : Nat) (levels : LogLevels) :
    Writable (depth + 3) levels.toJson := by
  refine .object ?_ (List.forall_mem_append.2 ⟨writable_present fun _ => .text _, ?_⟩)
  · cases levels.default <;> simp [Json.present]
  · refine List.forall_mem_singleton.2 (writable_list (fun entry => .list ?_) levels.loggers)
    exact List.forall_mem_cons.2 ⟨.text _, List.forall_mem_singleton.2 (.text _)⟩

theorem Arguments.writable_toJson (a : Arguments) : Writable Json.maxDepth a.toJson := by
  rw [Arguments.toJson_eq]
  show Writable 127 _
  refine .object (by simp [Arguments.members]) ?_
  simp only [Arguments.members, List.forall_mem_cons]
  exact ⟨writable_list .text _, writable_list (Assignment.writable_rule 124) _,
    writable_list (Assignment.writable_parameter 124) _, writable_list .text _,
    a.logLevels.writable_toJson 123, writable_orNull .text _, writable_orNull .text _,
    writable_orNull .text _, writable_orNull .bool _, writable_orNull .bool _,
    writable_orNull .bool _, List.forall_mem_nil _⟩

theorem Status.writable_toJson (depth : Nat) (s : Status) : Writable (depth + 1) s.toJson := by
  refine .object ?_ ?_
  · cases s.domainId <;> cases s.handlers <;> cases s.initializedAt <;> simp [Json.present]
  · simp only [List.forall_mem_append, List.forall_mem_cons]
    exact ⟨⟨⟨⟨⟨writable_unsigned depth s.id, .text _, List.forall_mem_nil _⟩,
      writable_present (writable_unsigned depth)⟩, writable_present fun _ => .text _⟩,
      .bool _, List.forall_mem_nil _⟩, writable_present .text⟩

theorem Console.Summary.writable_toJson (s : Console.Summary) :
    Writable Json.maxDepth s.toJson := by
  show Writable 127 _
  refine .object ?_ ?_
  · cases s.node <;> cases s.signal <;> simp [Json.present]
  · simp only [List.forall_mem_append, List.forall_mem_singleton]
    exact ⟨⟨⟨s.context.writable_toJson 125, writable_present .text⟩, writable_present .text⟩,
      writable_list .text _⟩

namespace Console

theorem parse_arguments (a : Arguments) :
    (Json.parse? (argumentsJson a)).bind Arguments.ofJson? = some a := by
  rw [argumentsJson, Json.parse?_pretty a.writable_toJson, Option.bind_some, a.ofJson?_toJson]

theorem parse_summary (s : Summary) :
    (Json.parse? (s.inFormat "json")).bind Summary.ofJson? = some s := by
  rw [Summary.inFormat, if_pos rfl, Json.parse?_pretty s.writable_toJson, Option.bind_some,
    s.ofJson?_toJson]

theorem parse_config (c : RuntimeConfig) (h : c.NamesApart) :
    ∃ text, c.format "json" = .ok text ∧
      (Json.parse? text).bind RuntimeConfig.ofJson? = some c := by
  refine ⟨c.toJson.pretty, if_pos rfl, ?_⟩
  rw [Json.parse?_pretty (c.writable_toJson h), Option.bind_some, c.ofJson?_toJson]

/-- **What is printed as JSON loses nothing.** The document of any arguments, of any summary and of
any configuration, its modules listed in any order, reads back as what was printed. So different
values are never printed the same. -/
theorem printed_json :
    ((∀ a : Arguments, (Json.parse? (argumentsJson a)).bind Arguments.ofJson? = some a) ∧
      ∀ a b : Arguments, argumentsJson a = argumentsJson b → a = b) ∧
    ((∀ s : Summary, (Json.parse? (s.inFormat "json")).bind Summary.ofJson? = some s) ∧
      ∀ s t : Summary, s.inFormat "json" = t.inFormat "json" → s = t) ∧
    (∀ c : RuntimeConfig, c.NamesApart → ∃ text, c.format "json" = .ok text ∧
      (Json.parse? text).bind RuntimeConfig.ofJson? = some c) ∧
    ∀ c d : RuntimeConfig, c.NamesApart → d.NamesApart →
      c.format "json" = d.format "json" → c = d := by
  refine ⟨⟨parse_arguments, fun a b h => ?_⟩, ⟨parse_summary, fun s t h => ?_⟩, parse_config,
    fun c d hc hd h => ?_⟩
  · have hread := parse_arguments a
    rw [h, parse_arguments b] at hread
    exact (Option.some.inj hread).symm
  · have hread := parse_summary s
    rw [h, parse_summary t] at hread
    exact (Option.some.inj hread).symm
  · obtain ⟨text, htext, hread⟩ := parse_config c hc
    obtain ⟨text', htext', hread'⟩ := parse_config d hd
    obtain rfl : text = text' := Except.ok.inj (htext.symm.trans (h.trans htext'))
    exact Option.some.inj (hread.symm.trans hread')

end Console
end RobotClient
