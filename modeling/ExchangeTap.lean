import ExchangeTap.Amqp.Fault
import ExchangeTap.Amqp.Properties
import ExchangeTap.Amqp.Value
import ExchangeTap.Binding
import ExchangeTap.Broker.Operation
import ExchangeTap.Broker.Simulated
import ExchangeTap.Clock
import ExchangeTap.CommandLine.Command
import ExchangeTap.CommandLine.Grammar
import ExchangeTap.CommandLine.Reading
import ExchangeTap.CommandLine.Taps
import ExchangeTap.Control.Bench
import ExchangeTap.Control.Path
import ExchangeTap.Failure
import ExchangeTap.FanIn.Merge
import ExchangeTap.FanIn.Sources
import ExchangeTap.Json.Codec
import ExchangeTap.Json.Number
import ExchangeTap.Json.Token
import ExchangeTap.Json.Tree
import ExchangeTap.Json.Value
import ExchangeTap.Json.Writer
import ExchangeTap.Log
import ExchangeTap.Main
import ExchangeTap.Message.Basic
import ExchangeTap.Message.Plain
import ExchangeTap.Message.Properties
import ExchangeTap.Message.Replay
import ExchangeTap.Message.Saved
import ExchangeTap.Number.Binary64
import ExchangeTap.Number.Shortest
import ExchangeTap.Output.Consumption
import ExchangeTap.Output.Directory
import ExchangeTap.Output.Printer
import ExchangeTap.Pipe
import ExchangeTap.Poll
import ExchangeTap.Proofs.Amqp.Conversion
import ExchangeTap.Proofs.Amqp.Widening
import ExchangeTap.Proofs.Control.Handing
import ExchangeTap.Proofs.Control.Lock
import ExchangeTap.Proofs.Failing
import ExchangeTap.Proofs.FanIn.Advancing
import ExchangeTap.Proofs.FanIn.Ending
import ExchangeTap.Proofs.FanIn.Giving
import ExchangeTap.Proofs.FanIn.Held
import ExchangeTap.Proofs.FanIn.Listening
import ExchangeTap.Proofs.FanIn.Rounds
import ExchangeTap.Proofs.FanIn.Traffic
import ExchangeTap.Proofs.FanIn.Waiting
import ExchangeTap.Proofs.Json.Building
import ExchangeTap.Proofs.Json.Coding
import ExchangeTap.Proofs.Json.Indented
import ExchangeTap.Proofs.Json.Lexing
import ExchangeTap.Proofs.Json.Nodes
import ExchangeTap.Proofs.Json.Reading
import ExchangeTap.Proofs.Json.Trailing
import ExchangeTap.Proofs.Json.Whole
import ExchangeTap.Proofs.Message.Lines
import ExchangeTap.Proofs.Message.Reading
import ExchangeTap.Proofs.Message.Replay
import ExchangeTap.Proofs.Message.Rows
import ExchangeTap.Proofs.Message.Saving
import ExchangeTap.Proofs.Number.Finite
import ExchangeTap.Proofs.Output.Filing
import ExchangeTap.Proofs.Output.Printing
import ExchangeTap.Proofs.Play
import ExchangeTap.Proofs.Session.Publishing
import ExchangeTap.Proofs.Session.Receiving
import ExchangeTap.Proofs.Supervision.Accounts
import ExchangeTap.Proofs.Supervision.Acts
import ExchangeTap.Proofs.Supervision.Attention
import ExchangeTap.Proofs.Supervision.Careers
import ExchangeTap.Proofs.Supervision.Channels
import ExchangeTap.Proofs.Supervision.Closing
import ExchangeTap.Proofs.Supervision.Epochs
import ExchangeTap.Proofs.Supervision.Leaving
import ExchangeTap.Proofs.Supervision.Move
import ExchangeTap.Proofs.Supervision.Phased
import ExchangeTap.Proofs.Supervision.Publishing
import ExchangeTap.Proofs.Supervision.Reconnects
import ExchangeTap.Proofs.Supervision.Redialing
import ExchangeTap.Proofs.Supervision.Reserved
import ExchangeTap.Proofs.Supervision.Seeking
import ExchangeTap.Proofs.Supervision.Shutdown
import ExchangeTap.Proofs.Supervision.Signalling
import ExchangeTap.Proofs.Supervision.Sound
import ExchangeTap.Proofs.Supervision.Steps
import ExchangeTap.Proofs.Supervision.Subscribing
import ExchangeTap.Proofs.Supervision.Timing
import ExchangeTap.Proofs.Supervision.Winding
import ExchangeTap.Proofs.Text.Base64
import ExchangeTap.Proofs.Text.Digits
import ExchangeTap.Proofs.Text.Keyed
import ExchangeTap.Proofs.Text.Pieces
import ExchangeTap.Proofs.Text.Utf8
import ExchangeTap.Proofs.Time.Calendar
import ExchangeTap.Proofs.Time.Reading
import ExchangeTap.Proofs.Url.Redaction
import ExchangeTap.Proofs.Url.Splitting
import ExchangeTap.Proofs.Worker.Attendance
import ExchangeTap.Proofs.Worker.Career
import ExchangeTap.Proofs.Worker.Channels
import ExchangeTap.Proofs.Worker.Chapters
import ExchangeTap.Proofs.Worker.Cleanup
import ExchangeTap.Proofs.Worker.Conduct
import ExchangeTap.Proofs.Worker.Course
import ExchangeTap.Proofs.Worker.Deliveries
import ExchangeTap.Proofs.Worker.Forwarding
import ExchangeTap.Proofs.Worker.Heeding
import ExchangeTap.Proofs.Worker.Idle
import ExchangeTap.Proofs.Worker.Intake
import ExchangeTap.Proofs.Worker.Journal
import ExchangeTap.Proofs.Worker.Ledger
import ExchangeTap.Proofs.Worker.Merging
import ExchangeTap.Proofs.Worker.Names
import ExchangeTap.Proofs.Worker.Naming
import ExchangeTap.Proofs.Worker.Promptness
import ExchangeTap.Proofs.Worker.Publishing
import ExchangeTap.Proofs.Worker.RunConduct
import ExchangeTap.Proofs.Worker.Setup
import ExchangeTap.Proofs.Worker.SetupFailure
import ExchangeTap.Proofs.Worker.Silence
import ExchangeTap.Proofs.Worker.Steady
import ExchangeTap.Proofs.Worker.Stuck
import ExchangeTap.Proofs.Worker.Subscribing
import ExchangeTap.Proofs.Worker.Takings
import ExchangeTap.Proofs.Worker.TapConduct
import ExchangeTap.Proofs.Worker.TapSteps
import ExchangeTap.Proofs.Worker.Teardown
import ExchangeTap.Proofs.Worker.Telling
import ExchangeTap.Proofs.Worker.World
import ExchangeTap.Session.Publishing
import ExchangeTap.Session.Receiving
import ExchangeTap.Settings
import ExchangeTap.Supervisor
import ExchangeTap.Text.Base64
import ExchangeTap.Text.Blank
import ExchangeTap.Text.CodeTable
import ExchangeTap.Text.Composed
import ExchangeTap.Text.Digits
import ExchangeTap.Text.Direction
import ExchangeTap.Text.Joining
import ExchangeTap.Text.Keyed
import ExchangeTap.Text.Marks
import ExchangeTap.Text.Pieces
import ExchangeTap.Text.Utf8
import ExchangeTap.Time.Calendar
import ExchangeTap.Time.Instant
import ExchangeTap.Time.Reading
import ExchangeTap.Topology.Client
import ExchangeTap.Topology.Codec
import ExchangeTap.Topology.Records
import ExchangeTap.Topology.Report
import ExchangeTap.Url.Domain
import ExchangeTap.Url.Folding
import ExchangeTap.Url.Host
import ExchangeTap.Url.Label
import ExchangeTap.Url.Parse
import ExchangeTap.Url.Path
import ExchangeTap.Url.Percent
import ExchangeTap.Url.Punycode
import ExchangeTap.Url.Redact
import ExchangeTap.Worker.Forward
import ExchangeTap.Worker.Publish
import ExchangeTap.Worker.Rehearsal
import ExchangeTap.Worker.Resource
import ExchangeTap.Worker.Run
import ExchangeTap.Worker.Script
import ExchangeTap.Worker.Stage
import ExchangeTap.Worker.Subscribe
import ExchangeTap.Worker.Tap
import ExchangeTap.Proofs.Output.Consuming
import ExchangeTap.Topology.Gathering
import ExchangeTap.Proofs.Url.Escaping
import ExchangeTap.Proofs.Url.Hosts
import ExchangeTap.Proofs.Url.Names
import ExchangeTap.Proofs.Url.Sites
import ExchangeTap.Proofs.Topology.Calls
import ExchangeTap.Proofs.Topology.Credentials
import ExchangeTap.Proofs.CommandLine.Bindings
import ExchangeTap.Proofs.CommandLine.Taps
import ExchangeTap.Proofs.Session.Buffers
import ExchangeTap.Proofs.Json.Accepting
import ExchangeTap.Proofs.Json.Integers
import ExchangeTap.Proofs.Json.Giving
import ExchangeTap.Proofs.Json.Keeping
import ExchangeTap.Proofs.Topology.Records
import ExchangeTap.Proofs.Topology.Report
