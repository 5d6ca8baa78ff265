import RobotClient.Console.Program
import RobotClient.Proofs.Config.Precedence
import RobotClient.Proofs.Console.Option
import RobotClient.Proofs.Context.Initialization

set_option autoImplicit false

/-! # What stands behind two dashes

Behind valid options, two dashes alone hand every token that follows over to the command, whatever
it looks like: further dashes, options, requests for help, octets that are no text. The command
`args` then makes of these tokens what an initialization makes of them. Main statement:
`separator_hands_over`. -/

namespace RobotClient.Console

open Text.Utf8 (encode)

variable {options raw : List Token} {given : Given} {config : RuntimeConfig} {env : Environment}
  {arrival : Option Signal} {format : String} {m : Machine}

/-! ## Command lines -/

/-- Where the program is given no options, its command line is that of the command. -/
theorem parse_command {name : String} {command : Command} {tokens : List Token}
    (hshape : programOptions.shape (encode name) = .plain)
    (h : Command.read (encode name) tokens = .ok command) :
    CommandLine.parse (encode name :: tokens) = .ok { command := command } := by
  have hscan : programOptions.scan [] none (encode name :: tokens)
      = .ok ⟨[], none, false, encode name :: tokens⟩ := by
    rw [OptionTable.scan, hshape]
  rw [CommandLine.parse, hscan]
  simp only [bind, Except.bind, Bool.false_eq_true, if_false, h]
  rfl

theorem read_separated {table : OptionTable} (hproper : table.Proper)
    (h : table.Accepts options given) :
    table.read (options ++ encode "--" :: raw) = .ok (given, raw) :=
  (OptionTable.read_eq_ok_iff hproper).2 ⟨options, encode "--" :: raw, rfl, h, .separator⟩

theorem parse_args (h : argsOptions.Accepts options given) :
    CommandLine.parse (encode "args" :: (options ++ encode "--" :: raw))
      = .ok { command := .args ((given.text? "format").getD "text") raw } := by
  refine parse_command (by decide) ?_
  have hname : Text.Utf8.decode (encode "args") = .ok "args" := Text.Utf8.decode_encode _
  simp only [Command.read, hname, read_separated argsOptions_proper h, Except.map]

theorem parse_run (h : runOptions.Accepts options given) :
    CommandLine.parse (encode "run" :: (options ++ encode "--" :: raw))
      = .ok { command := .run (RunFlags.ofGiven given raw) } := by
  refine parse_command (by decide) ?_
  have hname : Text.Utf8.decode (encode "run") = .ok "run" := Text.Utf8.decode_encode _
  simp only [Command.read, hname, read_separated runOptions_proper h, Except.map]

/-! ## Showing arguments -/

/-- What is shown for raw arguments that are text and make sense. -/
def Shown (format : String) (raw : List Token) (text : String) : Prop :=
  ∃ texts arguments, Decoded raw texts ∧ Arguments.parse texts = .ok arguments ∧
    text = showArguments format arguments

/-- Why raw arguments are refused: the first that is no text, or what the texts say. -/
inductive ArgumentsRefused (raw : List Token) : ClientError → Prop where
  | undecodable {defect : Text.Utf8.Defect} : FirstUndecodable raw defect →
      ArgumentsRefused raw (.undecodable defect)
  | parse {texts : List String} {e : ClientError} : Decoded raw texts →
      Arguments.parse texts = .error e → ArgumentsRefused raw e

theorem shown_iff {text : String} :
    (Arguments.ofRaw raw).map (showArguments format) = .ok text ↔ Shown format raw text := by
  rw [map_eq_ok, Arguments.ofRaw]
  constructor
  · rintro ⟨arguments, h, rfl⟩
    obtain ⟨texts, htexts, harguments⟩ := bind_eq_ok.1 h
    exact ⟨texts, arguments, decodeArguments_eq_ok_iff.1 htexts, harguments, rfl⟩
  · rintro ⟨texts, arguments, htexts, harguments, rfl⟩
    exact ⟨arguments, bind_eq_ok.2 ⟨texts, decodeArguments_eq_ok_iff.2 htexts, harguments⟩, rfl⟩

theorem argumentsRefused_iff {e : ClientError} :
    (Arguments.ofRaw raw).map (showArguments format) = .error e ↔ ArgumentsRefused raw e := by
  rw [map_eq_error, Arguments.ofRaw]
  constructor
  · intro h
    rcases bind_eq_error.1 h with h | ⟨texts, htexts, h⟩
    · obtain ⟨defect, rfl, hdefect⟩ := decodeArguments_eq_error_iff.1 h
      exact .undecodable hdefect
    · exact .parse (decodeArguments_eq_ok_iff.1 htexts) h
  · intro h
    refine bind_eq_error.2 ?_
    cases h with
    | undecodable hdefect => exact .inl (decodeArguments_eq_error_iff.2 ⟨_, rfl, hdefect⟩)
    | parse htexts h => exact .inr ⟨_, decodeArguments_eq_ok_iff.2 htexts, h⟩

/-- Raw arguments are shown or refused. -/
theorem shown_or_argumentsRefused (format : String) (raw : List Token) :
    (∃ text, Shown format raw text) ∨ ∃ e, ArgumentsRefused raw e := by
  cases h : (Arguments.ofRaw raw).map (showArguments format) with
  | ok text => exact .inl ⟨text, shown_iff.1 h⟩
  | error e => exact .inr ⟨e, argumentsRefused_iff.1 h⟩

theorem execute_args :
    execute config env arrival (.args format raw) m
      = ((Arguments.ofRaw raw).map (showArguments format), m) := rfl

/-! ## Initializing with the same arguments -/

section

variable {κ : Type} {p : Hub κ} {id : Nat} {o : InitOptions}

theorem init_of_argumentsRefused {e : ClientError} (hphase : p.phase id = .uninitialized)
    (h : ArgumentsRefused o.args e) : p.init id o = .error e := by
  refine Hub.init_of_refused ?_
  cases h with
  | undecodable hdefect => exact .undecodable hphase hdefect
  | parse htexts h => exact .arguments hphase htexts h

/-- With arguments that are accepted, only the domain is left to fail. -/
theorem domain_of_init_eq_error {text : String} {e : ClientError}
    (hphase : p.phase id = .uninitialized) (h : Shown format o.args text)
    (hinit : p.init id o = .error e) :
    resolveDomain o.domainId o.domain o.source = .error e := by
  obtain ⟨texts, arguments, htexts, harguments, -⟩ := h
  have hdecode := decodeArguments_eq_ok_iff.2 htexts
  cases Hub.init_eq_error_iff.1 hinit with
  | started hstarted => exact absurd hphase hstarted
  | undecodable _ hdefect =>
    have hfail := decodeArguments_eq_error_iff.2 ⟨_, rfl, hdefect⟩
    exact absurd (hdecode.symm.trans hfail) (by simp)
  | arguments _ htexts' he =>
    obtain rfl := Except.ok.inj (hdecode.symm.trans (decodeArguments_eq_ok_iff.2 htexts'))
    exact absurd (harguments.symm.trans he) (by simp)
  | domain _ _ _ he => exact he

end

/-! ## The program -/

theorem unlines_concat (lines : List String) (line : String) :
    unlines (lines ++ [line]) = unlines lines ++ line ++ "\n" := by
  simp [unlines, String.append_assoc]

/-- What a report says of raw arguments: the text that is shown for them, or the advice on why they
    are refused. What was logged before may stand in front, on the standard output only if that is
    where the program logs. -/
structure Reports (report : Report) (format : String) (raw : List Token) (output : LogOutput) :
    Prop where
  exitCode : report.exitCode = 0 ↔ ∃ text, Shown format raw text
  stdout : ∀ text, Shown format raw text → ∃ logged, (output ≠ .stdout → logged = "") ∧
    report.stdout = logged ++ text ++ "\n"
  stderr : ∀ e, ArgumentsRefused raw e → report.exitCode = 1 ∧
    ∃ logged, report.stderr = logged ++ e.advice ++ "\n"

theorem reports_finishedReport {logger : Logging.Logger} {complaints logged : List String}
    {tree : FileTree} {result : Except ClientError String}
    (hok : ∀ text, result = .ok text ↔ Shown format raw text)
    (herror : ∀ e, result = .error e ↔ ArgumentsRefused raw e) :
    Reports (finishedReport logger complaints logged tree result) format raw logger.output where
  exitCode := by
    simp only [← hok, finishedReport]
    cases result <;> simp
  stdout text htext := by
    obtain rfl := (hok text).2 htext
    refine ⟨unlines (if logger.output = .stdout then logged else []), fun houtput => ?_,
      unlines_concat _ _⟩
    rw [if_neg houtput]
    rfl
  stderr e he := by
    obtain rfl := (herror e).2 he
    exact ⟨rfl, _, unlines_concat _ _⟩

theorem perform_args {tree : FileTree} {time : String} {logger : Logging.Logger}
    (hconfig : (loadConfig env tree none).1 = .ok config)
    (hlogger : (Logging.start false env config.logging tree).result = .ok logger) :
    Reports (CommandLine.perform { command := .args format raw } env tree time arrival) format raw
      logger.output := by
  have hlogging : CommandLine.logging { command := .args format raw } config.logging
      = config.logging := rfl
  unfold CommandLine.perform
  simp only [hconfig, hlogging, hlogger, execute_args]
  exact reports_finishedReport (fun _ => shown_iff) fun _ => argumentsRefused_iff

/-- **Behind two dashes, the tokens are the user's.** Valid options of `args` or `run`, two dashes
and any tokens at all give the command with these options and exactly these tokens. The command
`args` succeeds exactly if the tokens are text and make sense as arguments; it shows what they say,
and else fails with the error that initializing an uninitialized context with them fails with. When
it succeeds, such an initialization can fail for its domain only. A program that loaded its
configuration and set its logging up reports just this. -/
theorem separator_hands_over :
    (∀ options given raw, argsOptions.Accepts options given →
      CommandLine.parse (encode "args" :: (options ++ encode "--" :: raw))
        = .ok { command := .args ((given.text? "format").getD "text") raw }) ∧
    (∀ options given raw, runOptions.Accepts options given →
      CommandLine.parse (encode "run" :: (options ++ encode "--" :: raw))
        = .ok { command := .run (RunFlags.ofGiven given raw) }) ∧
    (∀ config env arrival format raw m,
      ∃ result, execute config env arrival (.args format raw) m = (result, m) ∧
      (∀ text, result = .ok text ↔ Shown format raw text) ∧
      ∀ {κ : Type} (p : Hub κ) (id : Nat) (o : InitOptions), p.phase id = .uninitialized →
        o.args = raw →
        (∀ e, result = .error e → p.init id o = .error e) ∧
        ∀ e, p.init id o = .error e →
          result = .error e ∨ resolveDomain o.domainId o.domain o.source = .error e) ∧
    ∀ env tree time arrival config logger options given raw,
      (loadConfig env tree none).1 = .ok config →
      (Logging.start false env config.logging tree).result = .ok logger →
      argsOptions.Accepts options given →
      ∃ report, program env tree time arrival (encode "args" :: (options ++ encode "--" :: raw))
          = .ok report ∧
        Reports report ((given.text? "format").getD "text") raw logger.output := by
  refine ⟨fun _ _ _ => parse_args, fun _ _ _ => parse_run, ?_, ?_⟩
  · intro config env arrival format raw m
    refine ⟨_, execute_args, fun _ => shown_iff, fun p id o hphase hargs => ?_⟩
    subst hargs
    refine ⟨fun e he => init_of_argumentsRefused hphase (argumentsRefused_iff.1 he), ?_⟩
    intro e hinit
    rcases shown_or_argumentsRefused format o.args with ⟨text, htext⟩ | ⟨e', he'⟩
    · exact .inr (domain_of_init_eq_error hphase htext hinit)
    · obtain rfl := Except.error.inj ((init_of_argumentsRefused hphase he').symm.trans hinit)
      exact .inl (argumentsRefused_iff.2 he')
  · intro env tree time arrival config logger options given raw hconfig hlogger hoptions
    have hprogram :
        program env tree time arrival (encode "args" :: (options ++ encode "--" :: raw))
          = .ok (CommandLine.perform { command := .args ((given.text? "format").getD "text") raw }
            env tree time arrival) := by
      rw [program, parse_args hoptions]
      rfl
    exact ⟨_, hprogram, perform_args hconfig hlogger⟩

/-! ## Tokens that look like something else -/

theorem ofFileLayer_nil : Config.ofFileLayer {} [] = .ok {} := by
  have hlayers : Config.ofLayers [Config.defaultLayer, [], []] = Config.defaults := by
    simp only [Config.ofLayers_eq, Config.overrideLayer, List.foldl_nil]
  have hmiss : Config.layersMiss (.table none []) [Config.defaultLayer, [], []] = false := by
    decide
  have hvariables : Config.environmentLayer {} = [] := rfl
  rw [Config.ofFileLayer, hvariables]
  simp only [hmiss, Bool.false_eq_true, if_false, hlayers]
  rw [Config.defaults_eq]
  rfl

/-- Without files and variables, the built-in defaults are the configuration. -/
theorem loadConfig_empty : (loadConfig {} {} none).1 = .ok {} := by
  have hpath : Config.globalPath? {} = none := by cbv
  have hdomain : DomainConfig.validate {} = .ok () := by decide
  have hlogging : LoggingConfig.validate {} = .ok () := by decide
  have hcomplaints : RuntimeConfig.complaints {} = [] := by
    rw [RuntimeConfig.complaints, hdomain, hlogging]
    rfl
  have hresult : (Config.load {} {}).result = .ok {} := by
    simp only [Config.load, hpath, Except.bind, ofFileLayer_nil]
  simp only [loadConfig, hresult, Except.mapError, bind, Except.bind, hcomplaints,
    List.isEmpty_nil, if_true, pure, Except.pure]

/-- The logger of the built-in defaults. -/
def defaultLogger : Logging.Logger where
  filter := ⟨[{ target := none, threshold := some .info }]⟩
  format := .text
  output := .stderr
  color := true
  file := "rclctx.log"

theorem start_empty : (Logging.start false {} {} {}).result = .ok defaultLogger := by cbv

/-- Tokens that would all mean something in front of the two dashes; the last is no text. -/
def strayTokens : List Token :=
  ["--", "--help", "-h", "--format", "json", "--ros-args", ""].map encode ++ [[0xFF]]

theorem argumentsRefused_strayTokens :
    ArgumentsRefused strayTokens (.undecodable ⟨0, some 1⟩) :=
  .undecodable ⟨_, [0xFF], [], rfl, ⟨_, decoded_iff.2 rfl⟩, by decide⟩

theorem accepts_format :
    argsOptions.Accepts [encode "--format=json"] [("format", .text "json")] where
  lists := by
    have hlookup : argsOptions.options.lookup "format" = some .text := rfl
    have hvalue : Operand.read? .text (encode "json") = some (.text "json") := by decide
    exact .cons (.attached hlookup hvalue) .nil
  nodup := by decide

theorem accepts_domain :
    runOptions.Accepts [encode "--domain-id", encode "-1"] [("domain-id", .signed (-1))] where
  lists := by
    have hlookup : runOptions.options.lookup "domain-id" = some .signed := rfl
    have hbare : runOptions.Bare (encode "-1") := OptionTable.bare_of_shape (by decide)
    have hvalue : Operand.read? .signed (encode "-1") = some (.signed (-1)) := by decide
    exact .cons (.separate hlookup hbare hvalue) .nil
  nodup := by decide

theorem separator_hands_over_strayTokens :
    CommandLine.parse
        (encode "run" :: ([encode "--domain-id", encode "-1"] ++ encode "--" :: strayTokens))
      = .ok { command := .run { domainId := some (-1), args := strayTokens } } ∧
    ∃ report, program {} {} "" none
        (encode "args" :: ([encode "--format=json"] ++ encode "--" :: strayTokens)) = .ok report ∧
      report.exitCode = 1 := by
  obtain ⟨-, hrun, -, hprogram⟩ := separator_hands_over
  obtain ⟨report, hreport, hreports⟩ := hprogram {} {} "" none {} defaultLogger _ _ strayTokens
    loadConfig_empty start_empty accepts_format
  exact ⟨hrun _ _ _ accepts_domain, report, hreport,
    (hreports.stderr _ argumentsRefused_strayTokens).1⟩

end RobotClient.Console
