import RobotClient.Arguments.Basic
import RobotClient.Arguments.Item
import RobotClient.Arguments.Json
import RobotClient.Arguments.Reader
import RobotClient.Arguments.Writer
import RobotClient.Config.Basic
import RobotClient.Config.Decode
import RobotClient.Config.Document
import RobotClient.Config.Layer
import RobotClient.Config.Loader
import RobotClient.Config.Path
import RobotClient.Config.Value
import RobotClient.Console.ArgumentsView
import RobotClient.Console.CommandLine
import RobotClient.Console.Option
import RobotClient.Console.Program
import RobotClient.Console.Run
import RobotClient.Console.Summary
import RobotClient.Console.Table
import RobotClient.Context.Basic
import RobotClient.Context.Event
import RobotClient.Context.Hub
import RobotClient.Context.Load
import RobotClient.Context.Machine
import RobotClient.Context.Op
import RobotClient.Context.Options
import RobotClient.Context.Run
import RobotClient.Domain
import RobotClient.Environment
import RobotClient.Errno
import RobotClient.Error
import RobotClient.FilePath
import RobotClient.FileTree
import RobotClient.Json.Basic
import RobotClient.Json.Printer
import RobotClient.Json.Reader
import RobotClient.Json.Record
import RobotClient.Logging.Config
import RobotClient.Logging.Directive
import RobotClient.Logging.Filter
import RobotClient.Logging.Line
import RobotClient.Logging.Pattern
import RobotClient.Logging.Record
import RobotClient.Logging.Setup
import RobotClient.Main
import RobotClient.Node.Basic
import RobotClient.Node.Name
import RobotClient.Number.Binary64
import RobotClient.Number.Decimal
import RobotClient.Proofs.Arguments.Content
import RobotClient.Proofs.Arguments.Grammar
import RobotClient.Proofs.Arguments.Value
import RobotClient.Proofs.Context.Dispatch
import RobotClient.Proofs.Context.Duties
import RobotClient.Proofs.Context.Ending
import RobotClient.Proofs.Context.Forwarding
import RobotClient.Proofs.Context.Initialization
import RobotClient.Proofs.Context.Lifetime
import RobotClient.Proofs.Context.Lookup
import RobotClient.Proofs.Context.Moment
import RobotClient.Proofs.Context.Operation
import RobotClient.Proofs.Context.Ownership
import RobotClient.Proofs.Context.Reachable
import RobotClient.Proofs.Context.Registry
import RobotClient.Proofs.Context.Replies
import RobotClient.Proofs.Context.Return
import RobotClient.Proofs.Context.Runs
import RobotClient.Proofs.Context.Step
import RobotClient.Proofs.Text.Lowercase
import RobotClient.Proofs.Text.Split
import RobotClient.Severity
import RobotClient.Signal
import RobotClient.Text.Alphanumeric
import RobotClient.Text.Blank
import RobotClient.Text.CharTable
import RobotClient.Text.Lowercase
import RobotClient.Text.Printable
import RobotClient.Text.Quoted
import RobotClient.Text.Split
import RobotClient.Text.Utf8
import RobotClient.Text.Width
import RobotClient.Text.WidthTable
import RobotClient.Toml.Printer
import RobotClient.Toml.Reader
import RobotClient.Toml.Scalar
import RobotClient.Toml.Text
import RobotClient.Toml.Time
import RobotClient.Toml.Tree
import RobotClient.Proofs.Context.Calls
import RobotClient.Proofs.Context.Grounded
import RobotClient.Proofs.Context.Inheritance
import RobotClient.Proofs.Context.Stages
import RobotClient.Proofs.Context.Refinement
import RobotClient.Proofs.Context.Ledger
import RobotClient.Proofs.Context.Callbacks
import RobotClient.Proofs.Context.Lockstep
import RobotClient.Proofs.Context.Answers
import RobotClient.Proofs.Context.Erasure
import RobotClient.Proofs.Context.Vacancy
import RobotClient.Proofs.Arguments.Canonical
import RobotClient.Proofs.Arguments.Composition
import RobotClient.Proofs.Context.Dispositions
import RobotClient.Proofs.Context.LiveContexts
import RobotClient.Proofs.Context.Locality
import RobotClient.Proofs.Context.Carry
import RobotClient.Proofs.Context.Names
import RobotClient.Proofs.Context.Independence
import RobotClient.Proofs.Context.Dormant
import RobotClient.Proofs.Console.Run
import RobotClient.Proofs.Config.Layer
import RobotClient.Proofs.Config.Decode
import RobotClient.Proofs.Config.Precedence
import RobotClient.Proofs.Number.Decimal
import RobotClient.Proofs.Text.Utf8
import RobotClient.Proofs.Json.RoundTrip
import RobotClient.Proofs.Toml.Scalar
import RobotClient.Proofs.Toml.Text
import RobotClient.Proofs.Toml.Tree
import RobotClient.Proofs.Toml.Document
import RobotClient.Proofs.Config.Document
import RobotClient.Proofs.Config.RoundTrip
import RobotClient.Proofs.Arguments.Refusal
import RobotClient.Proofs.Node.Naming
import RobotClient.Proofs.Json.Record
import RobotClient.Proofs.Console.Presentation
import RobotClient.Proofs.Context.Account
import RobotClient.Proofs.Context.Counting
import RobotClient.Proofs.Context.Chronicle
import RobotClient.Proofs.Node.Name
import RobotClient.Proofs.Context.MadeNodes
import RobotClient.Proofs.Text.Blank
import RobotClient.Proofs.Domain
import RobotClient.Proofs.Node.FullName
import RobotClient.Proofs.Context.Configured
import RobotClient.Proofs.Text.Decoding
import RobotClient.Proofs.Arguments.Decoding
import RobotClient.Proofs.Except
import RobotClient.Proofs.FilePath
import RobotClient.Proofs.FileTree
import RobotClient.Proofs.Logging.InForce
import RobotClient.Proofs.Logging.Setup
import RobotClient.Proofs.Logging.Validated
import RobotClient.Proofs.Number.Real
import RobotClient.Proofs.Config.Variable
import RobotClient.Proofs.Arguments.Removal
import RobotClient.Proofs.Arguments.Assignment
import RobotClient.Proofs.Node.Reason
import RobotClient.Proofs.Console.Option
import RobotClient.Proofs.Console.Separator
import RobotClient.Proofs.Error
