import RobotClient.Console.Run
import RobotClient.Proofs.Context.Initialization

set_option autoImplicit false

/-! # What a run checks

A run asks for handlers, reads its arguments, looks for its domain and names its node, in this order,
and fails at the first of them that it cannot do (`RunFlags.Refused`). `RunFlags.Passes` says what
it finds if it can do them all. Main statement: `RunFlags.refused_or_passes`; that a run really goes
by these checks is shown in `Proofs.Console.Run`. -/

namespace RobotClient

namespace Console

/-! ## Where the domain comes from -/

/-- What comes of looking for the domain of a run: the number on the command line wins over the one
    of the configuration, that one over the configured variable, and this over the configured
    default. -/
inductive RunFlags.Domain (flags : RunFlags) (config : RuntimeConfig) (env : Environment) :
    Except ClientError UInt64 → Prop where
  | negative {id : Int64} (hid : flags.domainId.or config.domain.id = some id) (h : id < 0) :
      Domain flags config env (.error (.negativeDomain id.toInt))
  | number {id : Int64} (hid : flags.domainId.or config.domain.id = some id) (h : ¬ id < 0) :
      Domain flags config env (.ok id.toUInt64)
  | unset (hid : flags.domainId.or config.domain.id = none)
      (h : ∀ value, env.get? config.domain.envVar = some value → Text.trim value = "") :
      Domain flags config env (.ok config.domain.defaultId)
  | readable {value : String} {id : UInt64} (hid : flags.domainId.or config.domain.id = none)
      (hvalue : env.get? config.domain.envVar = some value) (hblank : Text.trim value ≠ "")
      (h : Number.readUnsigned? (Text.trim value) = some id) : Domain flags config env (.ok id)
  | unreadable {value : String} (hid : flags.domainId.or config.domain.id = none)
      (hvalue : env.get? config.domain.envVar = some value) (hblank : Text.trim value ≠ "")
      (h : Number.readUnsigned? (Text.trim value) = none) :
      Domain flags config env (.error (.unreadableDomain config.domain.envVar value))

variable {flags : RunFlags} {config : RuntimeConfig} {env : Environment}

/-- The domain of a run is found as that of any context, under the run's options. -/
theorem RunFlags.domain_resolveDomain (flags : RunFlags) (config : RuntimeConfig)
    (env : Environment) : flags.Domain config env
      (resolveDomain (flags.domainId.or config.domain.id)
        ⟨config.domain.envVar, config.domain.defaultId⟩ (.process env)) := by
  unfold resolveDomain
  split
  · next id hid =>
    split
    · next h => exact .negative hid h
    · next h => exact .number hid h
  · next hid =>
    simp only [VariableSource.get?]
    split
    · next hvalue => exact .unset hid (by simp [hvalue])
    · next value hvalue =>
      split
      · next hblank => exact .unset hid (by simpa [hvalue] using hblank)
      · next hblank =>
        split
        · next id h => exact .readable hid hvalue hblank h
        · next h => exact .unreadable hid hvalue hblank h

theorem RunFlags.Domain.eq {found : Except ClientError UInt64} (h : flags.Domain config env found) :
    resolveDomain (flags.domainId.or config.domain.id)
      ⟨config.domain.envVar, config.domain.defaultId⟩ (.process env) = found := by
  unfold resolveDomain
  cases h with
  | negative hid h => simp only [hid, if_pos h]
  | number hid h => simp only [hid, if_neg h]
  | unset hid h =>
    simp only [hid, VariableSource.get?]
    cases hvalue : env.get? config.domain.envVar with
    | none => rfl
    | some value => simp only [h value hvalue, if_true]
  | readable hid hvalue hblank h =>
    simp only [hid, VariableSource.get?, hvalue, if_neg hblank, h]
  | unreadable hid hvalue hblank h =>
    simp only [hid, VariableSource.get?, hvalue, if_neg hblank, h]

/-! ## The checks -/

/-- The handlers of a run: those on the command line, else the configured ones, else all. -/
def RunFlags.Asks (flags : RunFlags) (config : RuntimeConfig) (handlers : HandlerOptions) : Prop :=
  match flags.signals with
  | some text => HandlerOptions.ofText text = .ok handlers
  | none => handlers = config.signals.defaultHandlers.getD .all

/-- What the checks of a run find. -/
structure Findings where
  handlers : HandlerOptions
  /-- The arguments as texts. -/
  texts : List String
  arguments : Arguments
  /-- The arguments outside the reserved blocks. -/
  plain : List String
  domainId : UInt64

/-- Whether all checks of a run pass, and what they find. -/
structure RunFlags.Passes (flags : RunFlags) (config : RuntimeConfig) (env : Environment)
    (f : Findings) : Prop where
  handlers : flags.Asks config f.handlers
  texts : Decoded flags.args f.texts
  arguments : Arguments.parse f.texts = .ok f.arguments
  plain : Arguments.plainArguments f.texts = .ok f.plain
  domain : flags.Domain config env (.ok f.domainId)
  node : ∀ name, flags.nodeName = some name →
    nodeNameDefect? (Node.remapName f.arguments name) = none ∧
      namespaceDefect? (Node.remapNamespace f.arguments name "/") = none

/-- Why a run fails: the first of its checks that does not pass, all before it having passed. -/
inductive RunFlags.Refused (flags : RunFlags) (config : RuntimeConfig) (env : Environment) :
    ClientError → Prop where
  | signals {text complaint : String} (htext : flags.signals = some text)
      (h : HandlerOptions.ofText text = .error complaint) :
      Refused flags config env (.configuration complaint)
  | undecodable {handlers : HandlerOptions} {defect : Text.Utf8.Defect}
      (hsignals : flags.Asks config handlers) (h : FirstUndecodable flags.args defect) :
      Refused flags config env (.undecodable defect)
  | arguments {handlers : HandlerOptions} {texts : List String} {e : ClientError}
      (hsignals : flags.Asks config handlers) (htexts : Decoded flags.args texts)
      (h : Arguments.parse texts = .error e) : Refused flags config env e
  | domain {handlers : HandlerOptions} {texts : List String} {arguments : Arguments}
      {e : ClientError} (hsignals : flags.Asks config handlers) (htexts : Decoded flags.args texts)
      (harguments : Arguments.parse texts = .ok arguments)
      (h : flags.Domain config env (.error e)) : Refused flags config env e
  | nodeName {handlers : HandlerOptions} {texts : List String} {arguments : Arguments}
      {domainId : UInt64} {name : String} {defect : NameDefect}
      (hsignals : flags.Asks config handlers) (htexts : Decoded flags.args texts)
      (harguments : Arguments.parse texts = .ok arguments)
      (hdomain : flags.Domain config env (.ok domainId)) (hname : flags.nodeName = some name)
      (h : nodeNameDefect? (Node.remapName arguments name) = some defect) :
      Refused flags config env
        (.invalidNodeName (Node.remapName arguments name) defect.reason)
  | nodeNamespace {handlers : HandlerOptions} {texts : List String} {arguments : Arguments}
      {domainId : UInt64} {name : String} {defect : NameDefect}
      (hsignals : flags.Asks config handlers) (htexts : Decoded flags.args texts)
      (harguments : Arguments.parse texts = .ok arguments)
      (hdomain : flags.Domain config env (.ok domainId)) (hname : flags.nodeName = some name)
      (hvalid : nodeNameDefect? (Node.remapName arguments name) = none)
      (h : namespaceDefect? (Node.remapNamespace arguments name "/") = some defect) :
      Refused flags config env
        (.invalidNamespace (Node.remapNamespace arguments name "/") defect.reason)

/-! ## Going through the checks -/

theorem RunFlags.asks_or_error (flags : RunFlags) (config : RuntimeConfig) :
    (∃ handlers, flags.Asks config handlers) ∨
      ∃ text complaint, flags.signals = some text ∧
        HandlerOptions.ofText text = .error complaint := by
  unfold RunFlags.Asks
  cases flags.signals with
  | none => exact .inl ⟨_, rfl⟩
  | some text =>
    cases htext : HandlerOptions.ofText text with
    | ok handlers => exact .inl ⟨handlers, htext⟩
    | error complaint => exact .inr ⟨text, complaint, rfl, htext⟩

theorem plainArguments_of_parse {texts : List String} {arguments : Arguments}
    (h : Arguments.parse texts = .ok arguments) :
    Arguments.plainArguments texts = .ok arguments.plain := by
  rw [Arguments.plainArguments, h]
  rfl

/-- Going through the checks in order ends at one that fails or at the end. -/
theorem RunFlags.refused_or_passes (flags : RunFlags) (config : RuntimeConfig)
    (env : Environment) :
    (∃ e, flags.Refused config env e) ∨ ∃ f, flags.Passes config env f := by
  rcases flags.asks_or_error config with ⟨handlers, hsignals⟩ | ⟨text, complaint, htext, h⟩
  · cases htexts : decodeArguments flags.args with
    | error e =>
      obtain ⟨defect, -, hdefect⟩ := decodeArguments_eq_error_iff.1 htexts
      exact .inl ⟨_, .undecodable hsignals hdefect⟩
    | ok texts =>
      rw [decodeArguments_eq_ok_iff] at htexts
      cases harguments : Arguments.parse texts with
      | error e => exact .inl ⟨e, .arguments hsignals htexts harguments⟩
      | ok arguments =>
        have hfound := flags.domain_resolveDomain config env
        generalize resolveDomain _ _ _ = found at hfound
        cases found with
        | error e => exact .inl ⟨e, .domain hsignals htexts harguments hfound⟩
        | ok domainId =>
          have hplain := plainArguments_of_parse harguments
          have passes : (∀ name, flags.nodeName = some name →
              nodeNameDefect? (Node.remapName arguments name) = none ∧
                namespaceDefect? (Node.remapNamespace arguments name "/") = none) →
              ∃ f, flags.Passes config env f := fun hnode =>
            ⟨⟨handlers, texts, arguments, arguments.plain, domainId⟩,
              hsignals, htexts, harguments, hplain, hfound, hnode⟩
          cases hname : flags.nodeName with
          | none => exact .inr (passes (by simp [hname]))
          | some name =>
            cases hdefect : nodeNameDefect? (Node.remapName arguments name) with
            | some defect =>
              exact .inl ⟨_, .nodeName hsignals htexts harguments hfound hname hdefect⟩
            | none =>
              cases hdefect' : namespaceDefect? (Node.remapNamespace arguments name "/") with
              | some defect =>
                exact .inl
                  ⟨_, .nodeNamespace hsignals htexts harguments hfound hname hdefect hdefect'⟩
              | none =>
                refine .inr (passes ?_)
                intro name' hname'
                obtain rfl := Option.some.inj (hname.symm.trans hname')
                exact ⟨hdefect, hdefect'⟩
  · exact .inl ⟨_, .signals htext h⟩

end Console
end RobotClient
