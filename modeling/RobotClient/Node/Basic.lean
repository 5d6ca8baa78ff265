import RobotClient.Arguments.Basic
import RobotClient.Node.Name

set_option autoImplicit false

/-! # Nodes

A node is a name and a namespace within a context. The rules of the context's arguments may remap
both; all of them are looked up under the name that was asked for. -/

namespace RobotClient

/-- A named participant of a context. -/
structure Node where
  name : String
  namespaceText : String
  /-- The id of the context. -/
  context : Nat
deriving DecidableEq, Repr, Inhabited

namespace Node

/-- The name under which others find the node. -/
def fullName (node : Node) : String :=
  if node.namespaceText = "/" then "/" ++ node.name else node.namespaceText ++ "/" ++ node.name

/-- The name that the rules of `arguments` make of `name`. -/
def remapName (arguments : Arguments) (name : String) : String :=
  ((arguments.remapFor name "__node").or (arguments.remapFor name "__name")).getD name

/-- The anchored namespace that the rules of `arguments` make of `ns` for a node named `name`. -/
def remapNamespace (arguments : Arguments) (name ns : String) : String :=
  anchorNamespace ((arguments.remapFor name "__ns").getD ns)

/-- The node that a context makes of a name and a namespace, its arguments being given. -/
def make (context : Nat) (arguments : Arguments) (name ns : String) : Except ClientError Node := do
  let node : Node := ⟨remapName arguments name, remapNamespace arguments name ns, context⟩
  validateNodeName node.name
  validateNamespace node.namespaceText
  return node

end Node
end RobotClient
