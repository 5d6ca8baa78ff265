import RobotClient.Errno
import RobotClient.Text.Quoted

set_option autoImplicit false

/-! # Errors

Everything that a client operation can fail with, and the wording of each failure. -/

namespace RobotClient

/-- Why a client operation failed. -/
inductive ClientError where
  | alreadyInitialized
  | notInitialized
  | unknownArguments (tokens : List String)
  | invalidArguments (detail : String)
  | undecodable (defect : Text.Utf8.Defect)
  | negativeDomain (id : Int)
  | unreadableDomain (name value : String)
  | handlerInstall (signal : String) (cause : Errno)
  | watcherStart (cause : String)
  | invalidNodeName (name reason : String)
  | invalidNamespace (namespaceText reason : String)
  | configuration (detail : String)
deriving DecidableEq, Repr, Inhabited

/-! ## Lists of tokens -/

/-- A character inside single quotes: the quote and the backslash take a backslash. -/
def escapeToken (c : Char) : List Char :=
  if c = '\\' then ['\\', '\\'] else if c = '\'' then ['\\', '\''] else [c]

/-- A token between single quotes. -/
def quoteToken (token : String) : String :=
  String.ofList ('\'' :: token.toList.flatMap escapeToken ++ ['\''])

/-- A list of tokens between brackets. -/
def tokenList (tokens : List String) : String :=
  "[" ++ String.intercalate ", " (tokens.map quoteToken) ++ "]"

/-! ## Wording -/

/-- The wording of a failure. -/
def ClientError.message : ClientError → String
  | .alreadyInitialized => "Context is already initialized"
  | .notInitialized => "Context is not initialized"
  | .unknownArguments tokens => "Found unknown ROS arguments: " ++ tokenList tokens
  | .invalidArguments detail => "Invalid ROS arguments: " ++ detail
  | .undecodable defect => defect.message
  | .negativeDomain id => s!"Invalid domain id {id}: domain id must be non-negative"
  | .unreadableDomain name value =>
    "Invalid domain id in environment variable " ++ name ++ ": " ++ Text.quoted value
  | .handlerInstall signal cause =>
    "Failed to install handler for " ++ signal ++ ": " ++ cause.named
  | .watcherStart cause => "Failed to start signal watcher: " ++ cause
  | .invalidNodeName name reason => "Invalid node name " ++ Text.quoted name ++ ": " ++ reason
  | .invalidNamespace namespaceText reason =>
    "Invalid namespace " ++ Text.quoted namespaceText ++ ": " ++ reason
  | .configuration detail => "Configuration error: " ++ detail

/-- The wording for someone at a terminal, who is told what reserved arguments are. -/
def ClientError.advice (e : ClientError) : String :=
  match e with
  | .unknownArguments _ | .invalidArguments _ =>
    e.message ++ "\nReserved arguments follow --ros-args and end at --."
  | .undecodable _ => "Arguments must be valid UTF-8: " ++ e.message
  | _ => e.message

end RobotClient
