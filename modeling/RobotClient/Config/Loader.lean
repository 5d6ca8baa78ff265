import RobotClient.Config.Decode
import RobotClient.Config.Layer
import RobotClient.FileTree
import RobotClient.Json.Reader
import RobotClient.Logging.Record
import RobotClient.Text.Utf8
import RobotClient.Toml.Reader

set_option autoImplicit false

/-! # Loading a configuration

A configuration has three layers: built-in defaults, a file, and environment variables. The file is
the one that is asked for, which must exist, or the user's global one, which need not. -/

namespace RobotClient.Config

/-- The path of the global configuration file. -/
def globalOctets? (env : Environment) : Option (List UInt8) :=
  (env.userDirectory? "XDG_CONFIG_HOME" ".config").map fun directory =>
    FilePath.joinOctets (FilePath.joinOctets directory "rclctx") "config.toml"

/-- The global configuration file, with what is not text in its path replaced. -/
def globalPath? (env : Environment) : Option String :=
  (globalOctets? env).map Text.Utf8.decodeLossy

/-! ## Layers -/

/-- The built-in defaults. -/
def defaultLayer : List (String × Value) :=
  [("domain.env_var", .ofText "ROS_DOMAIN_ID"), ("domain.default_domain_id", .ofNat 0),
    ("logging.level", .ofText "info"), ("logging.format", .ofText "text"),
    ("logging.output", .ofText "stderr")]

/-- The start of the names of variables that are settings, in lower case. -/
def variableStart : String := "rclctx_"

/-- What the value of a variable is taken for: a truth value, a whole number, a real one, or
    text. -/
def guess (s : String) : Scalar :=
  let folded := Text.lower s
  if folded = "true" then .bool true
  else if folded = "false" then .bool false
  else match Number.readSigned? s with
    | some n => .integer n.toInt
    | none =>
      match Number.Binary64.read? s.toList with
      | some x => .real x
      | none => .text s

/-- Two underscores separate sections from settings. -/
def dotted : List Char → List Char
  | '_' :: '_' :: rest => '.' :: dotted rest
  | c :: rest => c :: dotted rest
  | [] => []

/-- The key that a variable sets, if it sets one. -/
def variableKey? (name : String) : Option String :=
  (Text.dropMark? variableStart.toList (Text.lower name).toList).map fun rest =>
    String.ofList (dotted rest)

/-- The settings in environment variables. -/
def environmentLayer (env : Environment) : List (String × Value) :=
  env.bindings.filterMap fun (name, value) =>
    (variableKey? name).map fun key => (key, .scalar (some "the environment") (guess value))

/-! ## Files -/

/-- The formats of configuration files: TOML, which is the documented one, and JSON, which the
    program prints as well. The library that reads the files also knows YAML, INI, RON and JSON5, by
    their extensions. The program names none of them, so they are left out here, and a file of
    theirs counts as one of no registered format. -/
inductive FileFormat where
  | toml
  | json
deriving DecidableEq, Repr

/-- The format of a file name's extension. -/
def FileFormat.ofExtension? (extension : String) : Option FileFormat :=
  if extension = "toml" then some .toml
  else if extension = "json" then some .json
  else none

/-- A path with something behind its last name. -/
def withSuffix? (path suffix : String) : Option String :=
  let parts := FilePath.parts path
  match parts.getLast? with
  | none | some ".." => none
  | some name => some (FilePath.ofPlace (parts.dropLast ++ [name ++ suffix]))

/-- The file that a path stands for, with its format. A path of no file is tried with the extensions
    of the formats, those of `FileFormat` alone. -/
def findFile (tree : FileTree) (path : String) : Except LoadError (String × FileFormat) :=
  let full := FilePath.join tree.workDir path
  if tree.isFile full then
    match (FilePath.extension? full).bind FileFormat.ofExtension? with
    | some format => .ok (full, format)
    | none =>
      .error (.other ("configuration file \"" ++ full ++ "\" is not of a registered file format"))
  else
    let candidates : List (String × FileFormat) := [(".toml", .toml), (".json", .json)]
    let found := candidates.findSome? fun (suffix, format) =>
      ((withSuffix? full suffix).filter tree.isFile).map fun file => (file, format)
    match found with
    | some file => .ok file
    | none => .error (.other ("configuration file \"" ++ path ++ "\" not found"))

/-- The text of a file, without a byte order mark. -/
def fileText (content : List UInt8) : String :=
  Text.Utf8.decodeLossy <|
    match content with
    | 0xEF :: 0xBB :: 0xBF :: rest => rest
    | _ => content

/-- The members of a document in a format. -/
def FileFormat.parse? (format : FileFormat) (text : String) : Option (List (String × Json)) :=
  match format with
  | .toml => Toml.parse? text
  | .json => (Json.parse? text).bind Json.object?

/-- The settings in a file of a format. -/
def settingsIn (tree : FileTree) (file : String) (format : FileFormat) :
    Except LoadError (List (String × Value)) :=
  let shown := FilePath.relativeTo tree.workDir file
  match format.parse? (fileText ((tree.read? file).getD [])) with
  | some members => .ok (Value.ofMembers (some shown) members)
  | none => .error (.unparsable shown)

/-- The settings in the file of a path, which must exist. -/
def fileLayer (tree : FileTree) (path : String) : Except LoadError (List (String × Value)) := do
  let (file, format) ← findFile tree path
  settingsIn tree file format

/-- The settings in the file of a path, if there is one. -/
def optionalFileLayer (tree : FileTree) (path : String) :
    Except LoadError (List (String × Value)) :=
  match findFile tree path with
  | .ok (file, format) => settingsIn tree file format
  | .error _ => .ok []

/-- The paths that loading looks at from a directory, for a file that is asked for or for the global
    one. -/
def pathsLookedAt (env : Environment) (workDir : String) (file : Option String) : List String :=
  let path? :=
    match file with
    | some path => some path
    | none => globalPath? env
  path?.toList.flatMap fun path =>
    let full := FilePath.join workDir path
    full :: [".toml", ".json"].filterMap (withSuffix? full)

/-! ## Loading -/

/-- What happens while a configuration is loaded. -/
inductive Event where
  | loaded (config : RuntimeConfig)
  | loadedFrom (path : String)
  | noGlobalFile (path : String)
deriving Repr, Inhabited

/-- An event as a log sees it. -/
def Event.record : Event → LogRecord
  | .loaded config =>
    ⟨.debug, "rclctx::config::facade", "Configuration loaded", [("config", .text config.display)]⟩
  | .loadedFrom path =>
    ⟨.debug, "rclctx::config::facade", "Configuration loaded from file", [("path", .text path)]⟩
  | .noGlobalFile path =>
    ⟨.debug, "rclctx::config::sources::global_file",
      "No global configuration file, using defaults", [("config_path", .text path)]⟩

/-- The outcome of loading, with the events on the way. -/
structure Loaded where
  result : Except LoadError RuntimeConfig
  events : List Event

/-- The configuration that a file layer makes between the defaults and the environment. -/
def ofFileLayer (env : Environment) (layer : List (String × Value)) :
    Except LoadError RuntimeConfig :=
  let layers := [defaultLayer, layer, environmentLayer env]
  if layersMiss (.table none []) layers then .error .noSuchItem
  else readRuntime (ofLayers layers)

/-- Loads a configuration with the global file. -/
def load (env : Environment) (tree : FileTree) : Loaded :=
  let (layer, events) : Except LoadError (List (String × Value)) × List Event :=
    match globalPath? env with
    | none => (.ok [], [])
    | some path =>
      if tree.pathExists path then (optionalFileLayer tree path, [])
      else (.ok [], [.noGlobalFile path])
  let result := layer.bind (ofFileLayer env)
  { result
    events := events ++
      match result with
      | .ok config => [.loaded config]
      | .error _ => [] }

/-- Loads a configuration with a file that must exist. -/
def loadFrom (env : Environment) (tree : FileTree) (path : String) : Loaded :=
  let result := (fileLayer tree path).bind (ofFileLayer env)
  { result
    events :=
      match result with
      | .ok _ => [.loadedFrom path]
      | .error _ => [] }

end RobotClient.Config
