import RobotClient.Config.Document
import RobotClient.Config.Loader
import RobotClient.Console.ArgumentsView
import RobotClient.Console.CommandLine
import RobotClient.Console.Summary
import RobotClient.Context.Run

set_option autoImplicit false

/-! # Executing commands

A command is executed under a configuration that was loaded and found valid. The command `run` takes
the default context through its whole life: whatever fails after the initialization, the context is
shut down. -/

namespace RobotClient.Console

/-! ## Configuration -/

/-- The configuration of a file, or of the user, if it is valid, with the events of loading it. -/
def loadConfig (env : Environment) (tree : FileTree) (file : Option String) :
    Except ClientError RuntimeConfig × List Config.Event :=
  let loaded :=
    match file with
    | some path => Config.loadFrom env tree path
    | none => Config.load env tree
  let valid : Except ClientError RuntimeConfig := do
    let config ← loaded.result.mapError fun e => .configuration e.message
    if config.complaints.isEmpty then return config
    throw (.configuration
      ("Configuration validation failed:\n" ++ String.intercalate "\n" config.complaints))
  (valid, loaded.events)

/-! ## Runs -/

/-- The options of the context of a run. -/
def RunFlags.options (flags : RunFlags) (config : RuntimeConfig) (env : Environment) :
    Except ClientError InitOptions := do
  let base := { InitOptions.ofConfig config env with args := flags.args }
  let base := { base with domainId := flags.domainId.or base.domainId }
  match flags.signals with
  | none => return base
  | some text =>
    let handlers ← (HandlerOptions.ofText text).mapError .configuration
    return { base with handlers := some handlers }

/-- The number of the handler with which a run notes the signals that reach it. -/
def runHandler : Nat := 1

/-- Shuts the default context down, if there is anything to shut down. -/
def shutdownDefault (m : Machine) : Machine := (m.perform (.shutdown none true)).machine

/-- The node that a run creates, if it has a name for one. -/
def createRunNode (hub : Hub Callback) (id : Nat) (name : Option String) :
    Except ClientError (Option Node × Hub Callback) :=
  match name with
  | none => .ok (none, hub)
  | some name => (hub.createNode id name "/").map fun (node, hub) => (some node, hub)

/-- What is left of a run of an initialized context: creates the node, waits, and shuts the context
    down. The wait ends when a signal arrives, or else by itself. -/
def finishRun (flags : RunFlags) (arrival : Option Signal) (m : Machine) (id : Nat) :
    Except ClientError Summary × Machine :=
  match createRunNode m.hub id flags.nodeName with
  | .error e => (.error e, shutdownDefault m)
  | .ok (node, hub) =>
    let waiting := { m with hub := hub.emit (.waiting id flags.timeout) }
    let ended := arrival.elim waiting fun signal => (waiting.perform (.raise signal)).machine
    (.ok {
      context := m.hub.status id
      node := node.map Node.fullName
      signal := (ended.hub.lastReceived runHandler).map Signal.name
      plain := ((m.hub.session? id).map (·.arguments.plain)).getD [] },
      shutdownDefault ended)

/-- Runs the default context through its life; `arrival` is the signal that ends the wait, if one
    does. -/
def run (config : RuntimeConfig) (env : Environment) (flags : RunFlags) (arrival : Option Signal)
    (m : Machine) : Except ClientError Summary × Machine :=
  match flags.options config env with
  | .error e => (.error e, m)
  | .ok options =>
    let (id, m) := { m with hub := m.hub.handOver runHandler }.contextFor none
    match m.hub.init id options with
    | .error e => (.error e, m)
    | .ok hub => finishRun flags arrival { m with hub } id

/-! ## Commands -/

/-- Executes a command: the text that it prints, or why it fails. -/
def execute (config : RuntimeConfig) (env : Environment) (arrival : Option Signal)
    (command : Command) (m : Machine) : Except ClientError String × Machine :=
  match command with
  | .args format args => ((Arguments.ofRaw args).map (showArguments format), m)
  | .run flags =>
    let (summary, m) := run config env flags arrival m
    (summary.map (Summary.inFormat flags.format), m)
  | .config format => (config.format format, m)

end RobotClient.Console
