import Shorthand.Action
import Shorthand.Alias
import Shorthand.Cli.Arguments
import Shorthand.Cli.Dispatch
import Shorthand.Cli.Help
import Shorthand.Cli.Program
import Shorthand.Cli.Route
import Shorthand.Config.Basic
import Shorthand.Config.Printer
import Shorthand.Config.Reader
import Shorthand.Config.Search
import Shorthand.Config.Shape
import Shorthand.Config.Validation
import Shorthand.Digest.Blake3
import Shorthand.Fanout
import Shorthand.File.Basic
import Shorthand.File.Path
import Shorthand.File.Standard
import Shorthand.File.Tree
import Shorthand.Flag.Basic
import Shorthand.Flag.Expansion
import Shorthand.Flag.Kind
import Shorthand.Flag.Token
import Shorthand.Fragment
import Shorthand.Host.Basic
import Shorthand.Host.Memory
import Shorthand.Invocation.Assembly
import Shorthand.Invocation.Assignment
import Shorthand.Invocation.Basic
import Shorthand.Invocation.Fault
import Shorthand.Invocation.Script
import Shorthand.Json.Comment
import Shorthand.Json.Fault
import Shorthand.Json.Printer
import Shorthand.Json.Reader
import Shorthand.Json.Skip
import Shorthand.Json.Value
import Shorthand.Machine.Basic
import Shorthand.Machine.Call
import Shorthand.Machine.Error
import Shorthand.Machine.Programs
import Shorthand.Machine.Schedule
import Shorthand.Machine.Service
import Shorthand.Machine.Signal
import Shorthand.Main
import Shorthand.Number.Binary64
import Shorthand.Number.Floating
import Shorthand.Number.FormatField
import Shorthand.Number.Shortest
import Shorthand.Plan
import Shorthand.Pool.Basic
import Shorthand.Pool.Simulation
import Shorthand.Pool.Slots
import Shorthand.Pool.System
import Shorthand.Posix.Arithmetic
import Shorthand.Posix.Describing
import Shorthand.Posix.Evaluation
import Shorthand.Posix.Evaluator
import Shorthand.Posix.Expansion
import Shorthand.Posix.Integer
import Shorthand.Posix.Job
import Shorthand.Posix.Limit
import Shorthand.Posix.Lookup
import Shorthand.Posix.Mask
import Shorthand.Posix.Moving
import Shorthand.Posix.Options
import Shorthand.Posix.Parser
import Shorthand.Posix.Pattern
import Shorthand.Posix.Printing
import Shorthand.Posix.Reading
import Shorthand.Posix.Redirection
import Shorthand.Posix.Scan
import Shorthand.Posix.Setting
import Shorthand.Posix.Signalling
import Shorthand.Posix.Splitting
import Shorthand.Posix.Startup
import Shorthand.Posix.State
import Shorthand.Posix.Syntax
import Shorthand.Posix.Testing
import Shorthand.Posix.Words
import Shorthand.Proofs.Cli.Gate
import Shorthand.Proofs.Cli.Routing
import Shorthand.Proofs.Cli.Switches
import Shorthand.Proofs.Config.Blanks
import Shorthand.Proofs.Config.Braces
import Shorthand.Proofs.Config.Claims
import Shorthand.Proofs.Config.Comments
import Shorthand.Proofs.Config.Direct
import Shorthand.Proofs.Config.NulFree
import Shorthand.Proofs.Config.Reading
import Shorthand.Proofs.Config.Resolution
import Shorthand.Proofs.Config.RoundTrip
import Shorthand.Proofs.Config.Search
import Shorthand.Proofs.Config.Shapes
import Shorthand.Proofs.Config.Validity
import Shorthand.Proofs.Config.Written
import Shorthand.Proofs.Echo
import Shorthand.Proofs.Fanout.Complete
import Shorthand.Proofs.Fanout.Coverage
import Shorthand.Proofs.Fanout.Projects
import Shorthand.Proofs.Fanout.Schedule
import Shorthand.Proofs.Fanout.Single
import Shorthand.Proofs.Flag.Bundle
import Shorthand.Proofs.Flag.Composition
import Shorthand.Proofs.Flag.Internal
import Shorthand.Proofs.Flag.Leftover
import Shorthand.Proofs.Flag.Naming
import Shorthand.Proofs.Flag.NulFree
import Shorthand.Proofs.Flag.Value
import Shorthand.Proofs.Invocation.Building
import Shorthand.Proofs.Invocation.Configured
import Shorthand.Proofs.Invocation.Display
import Shorthand.Proofs.Invocation.Options
import Shorthand.Proofs.Invocation.Passthrough
import Shorthand.Proofs.Invocation.Spelling
import Shorthand.Proofs.Invocation.Statements
import Shorthand.Proofs.Invocation.Trailing
import Shorthand.Proofs.Invocation.Wrapping
import Shorthand.Proofs.Json.Carrying
import Shorthand.Proofs.Json.Commentless
import Shorthand.Proofs.Json.Fitting
import Shorthand.Proofs.Json.Lexing
import Shorthand.Proofs.Json.Next
import Shorthand.Proofs.Json.Padding
import Shorthand.Proofs.Json.Passing
import Shorthand.Proofs.Json.Pieces
import Shorthand.Proofs.Json.Printed
import Shorthand.Proofs.Json.Token
import Shorthand.Proofs.Json.Visible
import Shorthand.Proofs.Json.Written
import Shorthand.Proofs.Origin
import Shorthand.Proofs.Override
import Shorthand.Proofs.Planning
import Shorthand.Proofs.Pool.Accounts
import Shorthand.Proofs.Pool.Aftermath
import Shorthand.Proofs.Pool.Capacity
import Shorthand.Proofs.Pool.Closure
import Shorthand.Proofs.Pool.Draining
import Shorthand.Proofs.Pool.Entries
import Shorthand.Proofs.Pool.Fairness
import Shorthand.Proofs.Pool.Ledger
import Shorthand.Proofs.Pool.Moves
import Shorthand.Proofs.Pool.Precedence
import Shorthand.Proofs.Pool.Progress
import Shorthand.Proofs.Pool.Queue
import Shorthand.Proofs.Pool.Records
import Shorthand.Proofs.Pool.Requests
import Shorthand.Proofs.Pool.Runs
import Shorthand.Proofs.Pool.Serving
import Shorthand.Proofs.Pool.Tasks
import Shorthand.Proofs.Pool.Turns
import Shorthand.Proofs.Script.CmdLine
import Shorthand.Proofs.Script.PwshLine
import Shorthand.Proofs.Session.Path
import Shorthand.Proofs.Session.Together
import Shorthand.Proofs.Session.Waiting
import Shorthand.Proofs.Settings
import Shorthand.Proofs.Shell.Coherence
import Shorthand.Proofs.Shell.Fingerprint
import Shorthand.Proofs.Shell.Unrelated
import Shorthand.Proofs.Success
import Shorthand.Proofs.Template
import Shorthand.Proofs.Text.Blank
import Shorthand.Proofs.Text.ByteOrder
import Shorthand.Proofs.Words.Quoting
import Shorthand.Proofs.Words.Reading
import Shorthand.Proofs.Words.Unchanged
import Shorthand.Report
import Shorthand.Session
import Shorthand.Settings
import Shorthand.Shell.Detection
import Shorthand.Shell.Kind
import Shorthand.SortedMap
import Shorthand.Target
import Shorthand.Template
import Shorthand.Terminal.Output
import Shorthand.Terminal.Style
import Shorthand.Text.Alphanumeric
import Shorthand.Text.Blank
import Shorthand.Text.Bytes
import Shorthand.Text.Cut
import Shorthand.Text.Octets
import Shorthand.Text.Shown
import Shorthand.Tool.Basic
import Shorthand.Tool.Options
import Shorthand.Tool.Printf
import Shorthand.Tool.Quoted
import Shorthand.Tool.Sleep
import Shorthand.Tool.Small
import Shorthand.Tool.Tail
import Shorthand.Tool.Tail.Growth
import Shorthand.Tool.Tail.Progress
import Shorthand.Tool.Tail.Request
import Shorthand.Words.Quote
import Shorthand.Words.Split
