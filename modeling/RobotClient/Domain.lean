import RobotClient.Environment
import RobotClient.Error
import RobotClient.Number.Decimal
import RobotClient.Text.Blank

set_option autoImplicit false

/-! # Domain ids

Clients find each other inside a numbered domain. An explicit number wins; without one the number is
that of an environment variable, and where this is unset or blank it is the configured default. -/

namespace RobotClient

/-- Where the number of a domain comes from when none is given. -/
structure DomainSettings where
  /-- The variable that holds the number. -/
  envVar : String := "ROS_DOMAIN_ID"
  /-- The number used when the variable is unset or blank. -/
  defaultId : UInt64 := 0
deriving DecidableEq, Repr, Inhabited

/-- The domain to join. -/
def resolveDomain (explicit : Option Int64) (settings : DomainSettings) (source : VariableSource) :
    Except ClientError UInt64 :=
  match explicit with
  | some id => if id < 0 then .error (.negativeDomain id.toInt) else .ok id.toUInt64
  | none =>
    match source.get? settings.envVar with
    | none => .ok settings.defaultId
    | some value =>
      let trimmed := Text.trim value
      if trimmed = "" then .ok settings.defaultId
      else match Number.readUnsigned? trimmed with
        | some id => .ok id
        | none => .error (.unreadableDomain settings.envVar value)

end RobotClient
