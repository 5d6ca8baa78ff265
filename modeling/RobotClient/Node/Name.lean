import RobotClient.Error
import RobotClient.Text.Split

set_option autoImplicit false

/-! # Names of nodes

A node's name is one token of ASCII letters, digits and underscores. Its namespace is `/`, or such
tokens each after a slash. The checks report the first defect that they find. -/

namespace RobotClient

/-- The greatest length of a name or a namespace, in octets. -/
def maxNameLength : Nat := 255

/-! ## Tokens -/

/-- A character that a token may hold. -/
def isTokenChar (c : Char) : Bool := c.isAlphanum || c == '_'

/-- Why a text is no token. -/
inductive TokenDefect where
  | empty
  | leadingDigit
  | badCharacter (c : Char)
deriving DecidableEq, Repr

/-- The wording of a token's defect. -/
def TokenDefect.reason : TokenDefect → String
  | .empty => "must not be empty"
  | .leadingDigit => "must not start with a number"
  | .badCharacter c =>
    "must contain only alphanumeric characters and underscores, found " ++ Text.quotedChar c

/-- The defect of a token, if it has one. -/
def TokenDefect.of? (token : List Char) : Option TokenDefect :=
  match token with
  | [] => some .empty
  | first :: _ =>
    if first.isDigit then some .leadingDigit
    else (token.find? fun c => !isTokenChar c).map .badCharacter

/-! ## Names -/

/-- Why a text is no name of a node, or no namespace. -/
inductive NameDefect where
  | tooLong
  | token (defect : TokenDefect)
  | notAbsolute
  | trailingSlash
  | repeatedSlash
  | innerToken (token : String) (defect : TokenDefect)
deriving DecidableEq, Repr

/-- The wording of a name's defect. -/
def NameDefect.reason : NameDefect → String
  | .tooLong => s!"longer than {maxNameLength} characters"
  | .token d => d.reason
  | .notAbsolute => "must be absolute"
  | .trailingSlash => "must not end with '/'"
  | .repeatedSlash => "must not contain repeated '/'"
  | .innerToken t d => "token " ++ Text.quoted t ++ " " ++ d.reason

/-- The defect of a node's name, if it has one. -/
def nodeNameDefect? (name : String) : Option NameDefect :=
  if name.utf8ByteSize > maxNameLength then some .tooLong
  else (TokenDefect.of? name.toList).map .token

/-- The defect of one of a namespace's tokens, if it has one. -/
def segmentDefect? (token : List Char) : Option NameDefect :=
  if token.isEmpty then some .repeatedSlash
  else (TokenDefect.of? token).map (.innerToken (String.ofList token))

/-- The defect of a namespace, if it has one. -/
def namespaceDefect? (ns : String) : Option NameDefect :=
  match ns.toList with
  | '/' :: rest =>
    if rest.isEmpty then none
    else if rest.getLast? = some '/' then some .trailingSlash
    else if ns.utf8ByteSize > maxNameLength then some .tooLong
    else (Text.pieces '/' rest).findSome? segmentDefect?
  | _ => some .notAbsolute

/-- Whether a text can name a node; the failure names the first defect. -/
def validateNodeName (name : String) : Except ClientError Unit :=
  match nodeNameDefect? name with
  | none => .ok ()
  | some defect => .error (.invalidNodeName name defect.reason)

/-- Whether a text can be a namespace; the failure names the first defect. -/
def validateNamespace (ns : String) : Except ClientError Unit :=
  match namespaceDefect? ns with
  | none => .ok ()
  | some defect => .error (.invalidNamespace ns defect.reason)

/-! ## Anchoring -/

/-- A namespace with a slash in front. -/
def anchorNamespace (ns : String) : String :=
  if ns = "" then "/" else if ns.toList.head? = some '/' then ns else "/" ++ ns

end RobotClient
