import RobotClient.Domain
import RobotClient.Logging.Config
import RobotClient.Signal
import RobotClient.Text.Blank

set_option autoImplicit false

/-! # Runtime configuration

The settings of a client: how its domain is found, which signals it handles, and how it logs. -/

namespace RobotClient

open Json (Record)
open LoggingConfig (optionText)

/-- How the domain is found. -/
structure DomainConfig where
  /-- The variable that holds the domain's number. -/
  envVar : String := "ROS_DOMAIN_ID"
  /-- The number used when the variable is unset or blank. -/
  defaultId : UInt64 := 0
  /-- A number that wins over both. -/
  id : Option Int64 := none
deriving DecidableEq, Repr, Inhabited

/-- Which signals are handled. -/
structure SignalConfig where
  /-- Unset, the default context handles all of them and any other context none. -/
  defaultHandlers : Option HandlerOptions := none
deriving DecidableEq, Repr, Inhabited

/-- The settings of a client. -/
structure RuntimeConfig where
  domain : DomainConfig := {}
  signals : SignalConfig := {}
  logging : LoggingConfig := {}
deriving DecidableEq, Repr, Inhabited

/-! ## Validation -/

/-- The first complaint about the domain's settings. -/
def DomainConfig.validate (c : DomainConfig) : Except String Unit := do
  if Text.isBlankText c.envVar then throw "Environment variable name cannot be empty"
  match c.id with
  | some id => if id < 0 then throw s!"Domain id must be non-negative, got {id}"
  | none => pure ()

/-- The complaint of one section, under the section's name. -/
def sectionComplaint (heading : String) : Except String Unit → List String
  | .ok () => []
  | .error complaint => [heading ++ ": " ++ complaint]

/-- The complaints about a configuration, one a section; none if it is valid. -/
def RuntimeConfig.complaints (c : RuntimeConfig) : List String :=
  sectionComplaint "Domain" c.domain.validate ++ sectionComplaint "Logging" c.logging.validate

/-! ## JSON -/

/-- The domain's settings in JSON; the number is left out when there is none. -/
def DomainConfig.toJson (c : DomainConfig) : Json :=
  .object ([("env_var", .text c.envVar), ("default_domain_id", .integer c.defaultId.toNat)]
    ++ Json.present "domain_id" (fun id : Int64 => .integer id.toInt) c.id)

/-- The signals' settings in JSON. -/
def SignalConfig.toJson (c : SignalConfig) : Json :=
  .object (Json.present "default_handlers" (fun o => .text o.name) c.defaultHandlers)

/-- A configuration in JSON. -/
def RuntimeConfig.toJson (c : RuntimeConfig) : Json :=
  .object
    [("domain", c.domain.toJson), ("signals", c.signals.toJson), ("logging", c.logging.toJson)]

/-- The domain's settings that JSON gives; what is left out has its default. -/
def DomainConfig.ofJson? (value : Json) : Option DomainConfig := do
  let r ← Record.of? 3 value
  return {
    envVar := ← r.orDefault 0 "env_var" Json.text? "ROS_DOMAIN_ID"
    defaultId := ← r.orDefault 1 "default_domain_id" Json.unsigned? 0
    id := ← r.orDefault 2 "domain_id" (Record.nullable Json.signed?) none }

/-- The signals' settings that JSON gives. -/
def SignalConfig.ofJson? (value : Json) : Option SignalConfig := do
  let r ← Record.of? 1 value
  return {
    defaultHandlers := ← r.orDefault 0 "default_handlers"
      (Record.nullable (Json.variant? HandlerOptions.ofName?)) none }

/-- The configuration that JSON gives; what is left out has its default. -/
def RuntimeConfig.ofJson? (value : Json) : Option RuntimeConfig := do
  let r ← Record.of? 3 value
  return {
    domain := ← r.orDefault 0 "domain" DomainConfig.ofJson? {}
    signals := ← r.orDefault 1 "signals" SignalConfig.ofJson? {}
    logging := ← r.orDefault 2 "logging" LoggingConfig.ofJson? {} }

/-! ## Display -/

/-- A choice of handlers as it is shown on one line. -/
def HandlerOptions.display : HandlerOptions → String
  | .all => "All"
  | .no => "No"
  | .interrupt => "SigInt"
  | .terminate => "SigTerm"

/-- The domain's settings on one line. -/
def DomainConfig.display (c : DomainConfig) : String :=
  "DomainConfig \x7b env_var: " ++ Text.quoted c.envVar ++ s!", default_domain_id: {c.defaultId}"
    ++ ", domain_id: " ++ optionText (fun id : Int64 => toString id) c.id ++ " \x7d"

/-- A configuration on one line. -/
def RuntimeConfig.display (c : RuntimeConfig) : String :=
  "RuntimeConfig \x7b domain: " ++ c.domain.display
    ++ ", signals: SignalConfig \x7b default_handlers: "
    ++ optionText HandlerOptions.display c.signals.defaultHandlers
    ++ " \x7d, logging: " ++ c.logging.display ++ " \x7d"

end RobotClient
