import RobotClient.Config.Basic

set_option autoImplicit false

/-! # Options of an initialization

What a context is initialized with: raw arguments, a domain, handlers, and where the domain's
variable is looked up. -/

namespace RobotClient

open LoggingConfig (optionText)

/-- What a context is initialized with. -/
structure InitOptions where
  args : List (List UInt8) := []
  /-- A number that wins over the environment and the default. -/
  domainId : Option Int64 := none
  /-- Unset, the default context handles all signals and any other context none. -/
  handlers : Option HandlerOptions := none
  domain : DomainSettings := {}
  source : VariableSource := .process {}
deriving DecidableEq, Repr, Inhabited

namespace InitOptions

/-- The options that a configuration asks for. -/
def ofConfig (config : RuntimeConfig) (env : Environment) : InitOptions where
  domainId := config.domain.id
  handlers := config.signals.defaultHandlers
  domain := { envVar := config.domain.envVar, defaultId := config.domain.defaultId }
  source := .process env

/-- The options on one line; where variables are looked up is not shown. -/
def display (o : InitOptions) : String :=
  "InitOptions \x7b args: [" ++ String.intercalate ", " (o.args.map Text.quotedOctets)
    ++ "], domain_id: " ++ optionText (fun id : Int64 => toString id) o.domainId
    ++ ", signal_handler_options: " ++ optionText HandlerOptions.display o.handlers
    ++ ", domain: DomainSettings \x7b env_var: " ++ Text.quoted o.domain.envVar
    ++ s!", default_domain_id: {o.domain.defaultId}" ++ " \x7d, .. \x7d"

end InitOptions
end RobotClient
