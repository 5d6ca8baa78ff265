import RobotClient.Proofs.Context.Stages
import RobotClient.Proofs.Context.Runs
import RobotClient.Proofs.Domain

set_option autoImplicit false

/-! # Initializing with a configuration

A configuration is checked when it is loaded, and its domain is looked at again, in other words, when
a context is initialized with it. Both agree: an initialization refuses what the check lets through
only for what the environment holds, and a negative number gets past neither. Main statement:
`Hub.init_ofConfig`. -/

namespace RobotClient

open Text (Blank)

/-! ## The domain of a configuration -/

namespace DomainConfig

variable {c : DomainConfig} {env : Environment} {m : UInt64} {n : Int64}

/-- The domain of a configuration: its own number, else that of the variable, else the default. -/
inductive Yields (c : DomainConfig) (env : Environment) : UInt64 → Prop where
  | number {n : Int64} {m : UInt64} (hid : c.id = some n) (hm : (m.toNat : Int) = n.toInt) :
      Yields c env m
  | found {value : String} {m : UInt64} (hid : c.id = none)
      (hvalue : env.get? c.envVar = some value) (hm : Denotes value m) : Yields c env m
  | default (hid : c.id = none) (h : ∀ value, env.get? c.envVar = some value → Blank value) :
      Yields c env c.defaultId

/-- Whether a configuration leaves the domain to a variable with a value that is neither blank nor
    the text of a number. -/
structure Misled (c : DomainConfig) (env : Environment) (value : String) : Prop where
  unset : c.id = none
  found : env.get? c.envVar = some value
  not_blank : ¬ Blank value
  not_denotes : ∀ m, ¬ Denotes value m

/-- The domain that an initialization with the configuration comes to. -/
def resolve (c : DomainConfig) (env : Environment) : Except ClientError UInt64 :=
  resolveDomain c.id ⟨c.envVar, c.defaultId⟩ (.process env)

theorem resolves_resolve (c : DomainConfig) (env : Environment) :
    Resolves c.id ⟨c.envVar, c.defaultId⟩ (env.get? c.envVar) (c.resolve env) :=
  resolves_resolveDomain c.id ⟨c.envVar, c.defaultId⟩ (.process env)

theorem yields_of_resolve (h : c.resolve env = .ok m) : c.Yields env m := by
  have hresolves := resolves_resolve c env
  rw [h] at hresolves
  cases hresolves with
  | explicit hid hm => exact .number hid hm
  | unset hid hvalue => exact .default hid (by simp [hvalue])
  | blank hid hvalue hblank =>
    refine .default hid ?_
    rw [hvalue]
    rintro value ⟨⟩
    exact hblank
  | readable hid hvalue hblank hm => exact .found hid hvalue hm

theorem resolve_of_negative (hid : c.id = some n) (hn : n.toInt < 0) :
    c.resolve env = .error (.negativeDomain n.toInt) :=
  resolveDomain_of_resolves (.negative hid hn)

theorem resolve_of_misled {value : String} (h : c.Misled env value) :
    c.resolve env = .error (.unreadableDomain c.envVar value) :=
  resolveDomain_of_resolves (.unreadable h.unset h.found h.not_blank h.not_denotes)

/-! ## Validation -/

theorem validate_of_negative (hid : c.id = some n) (hn : n.toInt < 0) :
    ∃ complaint, c.validate = .error complaint := by
  have hneg : n < 0 := int64_lt_zero_iff.2 hn
  unfold validate
  by_cases hblank : Text.isBlankText c.envVar = true
  · exact ⟨_, by simp only [hblank, if_true]; rfl⟩
  · exact ⟨_, by simp only [hblank, hid, hneg, if_true]; rfl⟩

end DomainConfig

theorem RuntimeConfig.complaints_of_negative {config : RuntimeConfig} {n : Int64}
    (hid : config.domain.id = some n) (hn : n.toInt < 0) : config.complaints ≠ [] := by
  obtain ⟨complaint, hcomplaint⟩ := DomainConfig.validate_of_negative hid hn
  simp [complaints, hcomplaint, sectionComplaint]

namespace DomainConfig

/-- The only way in which the domain of a valid configuration is not found. -/
theorem resolve_eq_error_iff {config : RuntimeConfig} {env : Environment} {e : ClientError}
    (hvalid : config.complaints = []) : config.domain.resolve env = .error e ↔
      ∃ value, config.domain.Misled env value ∧
        e = .unreadableDomain config.domain.envVar value := by
  constructor
  · intro h
    have hresolves := resolves_resolve config.domain env
    rw [h] at hresolves
    cases hresolves with
    | negative hid hn => exact absurd hvalid (RuntimeConfig.complaints_of_negative hid hn)
    | @unreadable value hid hvalue hblank hm => exact ⟨value, ⟨hid, hvalue, hblank, hm⟩, rfl⟩
  · rintro ⟨value, hmisled, rfl⟩
    exact resolve_of_misled hmisled

end DomainConfig

/-! ## Initializations -/

namespace Hub

variable {κ : Type} {p : Hub κ} {id : Nat}

theorem offer_ofConfig (p : Hub κ) (id : Nat) (config : RuntimeConfig) (env : Environment) :
    p.offer id (.ofConfig config env) = (config.domain.resolve env).map fun domainId =>
      let handlers := p.requestedHandlers id (.ofConfig config env)
      ⟨domainId, {}, handlers, decide (handlers ≠ .no) && p.table.isNone, p.clock⟩ :=
  rfl

theorem init_ofConfig_eq_error_iff (hphase : p.phase id = .uninitialized) {config : RuntimeConfig}
    {env : Environment} {e : ClientError} :
    p.init id (.ofConfig config env) = .error e ↔ config.domain.resolve env = .error e := by
  have hoffer := offer_ofConfig p id config env
  cases hresolve : config.domain.resolve env with
  | error e' =>
    rw [hresolve] at hoffer
    rw [init_of_offer_error hphase hoffer]
    simp
  | ok m =>
    rw [hresolve] at hoffer
    obtain ⟨q, hq, -⟩ := init_of_offer_ok hphase hoffer
    rw [hq]
    simp

/-- An initialization binds the context to the domain that is found. -/
theorem session?_of_init_ofConfig (hphase : p.phase id = .uninitialized) {config : RuntimeConfig}
    {env : Environment} {m : UInt64} (h : config.domain.resolve env = .ok m) :
    ∃ q s, p.init id (.ofConfig config env) = .ok q ∧ q.session? id = some s ∧ s.domainId = m ∧
      s.handlers = p.requestedHandlers id (.ofConfig config env) := by
  have hoffer := offer_ofConfig p id config env
  rw [h] at hoffer
  obtain ⟨q, hq, hcontexts, -⟩ := init_of_offer_ok hphase hoffer
  have hlive : p.phase id ≠ .shutdown := by simp [hphase]
  obtain ⟨c, hc⟩ := exists_find?_of_phase hlive
  exact ⟨q, _, hq, by rw [session?_of_opened hcontexts hc, if_pos rfl], rfl, rfl⟩

/-- **Initializing with a configuration.** Whatever else is going on, a context that is uninitialized
can be initialized with a valid configuration, unless the configuration leaves the domain to a
variable whose value is neither blank nor the text of a number, and this is then the error. The
context is bound to the configuration's own number, else to that of the variable, else to the
default; it asks for the configured handlers, else for all if it is the default context, and for none
if it is another one. A configuration with a negative number is not valid, and an initialization with
it fails. -/
theorem init_ofConfig (hphase : p.phase id = .uninitialized) (config : RuntimeConfig)
    (env : Environment) :
    (config.complaints = [] →
      (∀ e, p.init id (.ofConfig config env) = .error e ↔
        ∃ value, config.domain.Misled env value ∧
          e = .unreadableDomain config.domain.envVar value) ∧
      ((∀ value, ¬ config.domain.Misled env value) →
        ∃ q s, p.init id (.ofConfig config env) = .ok q ∧ q.session? id = some s ∧
          config.domain.Yields env s.domainId ∧
          s.handlers = config.signals.defaultHandlers.getD
            (if p.slot = some id then .all else .no))) ∧
    ∀ n, config.domain.id = some n → n.toInt < 0 →
      config.complaints ≠ [] ∧
      p.init id (.ofConfig config env) = .error (.negativeDomain n.toInt) := by
  constructor
  · intro hvalid
    have herror : ∀ e, config.domain.resolve env = .error e ↔ ∃ value,
        config.domain.Misled env value ∧ e = .unreadableDomain config.domain.envVar value :=
      fun e => DomainConfig.resolve_eq_error_iff hvalid
    constructor
    · intro e
      rw [init_ofConfig_eq_error_iff hphase, herror]
    · intro hmisled
      cases hresolve : config.domain.resolve env with
      | error e =>
        obtain ⟨value, hvalue, -⟩ := (herror e).1 hresolve
        exact absurd hvalue (hmisled value)
      | ok m =>
        obtain ⟨q, s, hq, hs, rfl, hhandlers⟩ := session?_of_init_ofConfig hphase hresolve
        refine ⟨q, s, hq, hs, DomainConfig.yields_of_resolve hresolve, ?_⟩
        simpa [requestedHandlers, isDefault, InitOptions.ofConfig] using hhandlers
  · intro n hid hn
    refine ⟨RuntimeConfig.complaints_of_negative hid hn, ?_⟩
    rw [init_ofConfig_eq_error_iff hphase]
    exact DomainConfig.resolve_of_negative hid hn

end Hub

namespace Machine

/-- A program that has made a context and not initialized it. -/
def withUninitialized : Machine := (fresh "" 1 false 0 0).run [.call [.create "a"], .work]

/-- An environment with a domain's number between blanks. -/
def domainSeven : Environment := { entries := [Environment.entry "ROS_DOMAIN_ID" [32, 55, 32]] }

theorem init_ofConfig_domainSeven :
    withUninitialized.Reachable ∧ withUninitialized.hub.phase 1 = .uninitialized ∧
      ({} : RuntimeConfig).complaints = [] ∧
      ∃ q s, withUninitialized.hub.init 1 (.ofConfig {} domainSeven) = .ok q ∧
        q.session? 1 = some s ∧ s.domainId = 7 ∧ s.handlers = .no := by
  have hphase : withUninitialized.hub.phase 1 = .uninitialized := rfl
  have hvalid : ({} : RuntimeConfig).complaints = [] := rfl
  have hvalue : domainSeven.get? "ROS_DOMAIN_ID" = some " 7 " := rfl
  have hread : Number.readUnsigned? (Text.trim " 7 ") = some 7 := rfl
  obtain ⟨-, hbound⟩ := (Hub.init_ofConfig hphase {} domainSeven).1 hvalid
  obtain ⟨q, s, hq, hs, hyields, hhandlers⟩ := hbound fun value hmisled => by
    obtain rfl : " 7 " = value := Option.some.inj (hvalue.symm.trans hmisled.found)
    exact hmisled.not_denotes 7 (denotes_iff.2 hread)
  refine ⟨(Reachable.start "" 1 false 0 0).run _, hphase, hvalid, q, s, hq, hs, ?_, hhandlers⟩
  generalize s.domainId = m at hyields
  cases hyields with
  | number hid hm => exact absurd hid (by simp)
  | @found value m hid hfound hm =>
    obtain rfl : " 7 " = value := Option.some.inj (hvalue.symm.trans hfound)
    exact Option.some.inj ((denotes_iff.1 hm).symm.trans hread)
  | default hid h => exact absurd (h " 7 " hvalue) (Denotes.not_blank (denotes_iff.2 hread))

end Machine
end RobotClient
