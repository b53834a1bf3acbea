import DnsForwarder.Bytes
import DnsForwarder.CommandLine
import DnsForwarder.CommandLine.Reader
import DnsForwarder.Config
import DnsForwarder.Config.Directory
import DnsForwarder.Config.Reader
import DnsForwarder.Config.Source
import DnsForwarder.Dialogue
import DnsForwarder.Engine
import DnsForwarder.Engine.Pipeline
import DnsForwarder.Engine.Status
import DnsForwarder.Error
import DnsForwarder.Event
import DnsForwarder.Event.Filter
import DnsForwarder.Event.Filter.Reader
import DnsForwarder.Event.Filter.ValuePattern
import DnsForwarder.Event.Printer
import DnsForwarder.Event.Source
import DnsForwarder.Filter.Blocklist
import DnsForwarder.Filter.Domain
import DnsForwarder.Filter.Policy
import DnsForwarder.Job.MetricsReport
import DnsForwarder.Job.Schedule
import DnsForwarder.Main
import DnsForwarder.Message
import DnsForwarder.Message.Decoder
import DnsForwarder.Message.Encoder
import DnsForwarder.Message.Frame
import DnsForwarder.Message.Name
import DnsForwarder.Message.Name.Printer
import DnsForwarder.Message.Reply
import DnsForwarder.Metrics.Histogram
import DnsForwarder.Metrics.Window
import DnsForwarder.Net.Address
import DnsForwarder.Net.Address.Printer
import DnsForwarder.Net.Address.Reader
import DnsForwarder.Net.Host
import DnsForwarder.Program
import DnsForwarder.Resolver.Channel
import DnsForwarder.Resolver.Channel.Socket
import DnsForwarder.Resolver.Description
import DnsForwarder.Resolver.Failover
import DnsForwarder.Resolver.Group
import DnsForwarder.Resolver.Health
import DnsForwarder.Resolver.History
import DnsForwarder.Resolver.Pool
import DnsForwarder.Resolver.Session
import DnsForwarder.Resolver.Slots
import DnsForwarder.Resolver.StreamExchange
import DnsForwarder.Resolver.Traffic
import DnsForwarder.Server.Connection
import DnsForwarder.Server.Lifecycle
import DnsForwarder.Server.Listener
import DnsForwarder.Server.Service
import DnsForwarder.Services
import DnsForwarder.Text.Alphanumeric
import DnsForwarder.Text.Blank
import DnsForwarder.Text.ControlSequence
import DnsForwarder.Text.Digit
import DnsForwarder.Text.Fixed
import DnsForwarder.Text.Pattern
import DnsForwarder.Text.Pattern.Reader
import DnsForwarder.Text.Quoted
import DnsForwarder.Toml
import DnsForwarder.Toml.Parser
import DnsForwarder.Toml.Scalar
import DnsForwarder.Toml.Statement
import DnsForwarder.Toml.Table
import DnsForwarder.Toml.Value
import DnsForwarder.Proofs.Metrics.Counts
import DnsForwarder.Proofs.Metrics.Ring
import DnsForwarder.Proofs.Metrics.SlidingWindow
import DnsForwarder.Proofs.Metrics.Recording
import DnsForwarder.Proofs.Metrics.Expiry
import DnsForwarder.Proofs.Metrics.Percentile
import DnsForwarder.Proofs.Transcript
import DnsForwarder.Proofs.Resolver.Pool
import DnsForwarder.Proofs.Resolver.Group
import DnsForwarder.Proofs.Resolver.Attempts
import DnsForwarder.Proofs.Resolver.Failover
import DnsForwarder.Proofs.Resolver.Recovery
import DnsForwarder.Proofs.Resolver.SharedSlots
import DnsForwarder.Proofs.Resolver.Health
import DnsForwarder.Proofs.Resolver.LateReplies
import DnsForwarder.Proofs.Resolver.Timeline
import DnsForwarder.Proofs.Resolver.Exchange
import DnsForwarder.Proofs.Resolver.Traffic
import DnsForwarder.Proofs.Resolver.FailedExchange
import DnsForwarder.Proofs.Resolver.Onward
import DnsForwarder.Proofs.Resolver.Deadlines
import DnsForwarder.Proofs.Resolver.Closing
import DnsForwarder.Proofs.Resolver.Rotation
import DnsForwarder.Proofs.Resolver.Consumption
import DnsForwarder.Proofs.Resolver.OneSlot
import DnsForwarder.Proofs.Net.Number
import DnsForwarder.Proofs.Net.Literal
import DnsForwarder.Proofs.Net.Endpoint
import DnsForwarder.Proofs.Resolver.Address
import DnsForwarder.Proofs.Resolver.Setup
import DnsForwarder.Proofs.Message.WrittenName
import DnsForwarder.Proofs.Message.Reading
import DnsForwarder.Proofs.Message.Regular
import DnsForwarder.Proofs.Message.PlacedName
import DnsForwarder.Proofs.Message.Compression
import DnsForwarder.Proofs.Message.Spelling
import DnsForwarder.Proofs.Message.RoundTrip
import DnsForwarder.Proofs.Message.Framing
import DnsForwarder.Proofs.Message.Truncation
import DnsForwarder.Proofs.Message.Synthesis
import DnsForwarder.Proofs.Filter.Ancestry
import DnsForwarder.Proofs.Filter.NormalForm
import DnsForwarder.Proofs.Filter.Coverage
import DnsForwarder.Proofs.Filter.Names
import DnsForwarder.Proofs.Filter.Climb
import DnsForwarder.Proofs.Engine.Forwarding
import DnsForwarder.Proofs.Engine.Blocking
import DnsForwarder.Proofs.Engine.Gating
import DnsForwarder.Proofs.Engine.Replies
import DnsForwarder.Proofs.Engine.Accounting
import DnsForwarder.Proofs.Engine.LetterCase
import DnsForwarder.Proofs.Server.Relay
import DnsForwarder.Proofs.Server.Identifiers
import DnsForwarder.Proofs.Server.Connection
import DnsForwarder.Proofs.Server.Pause
import DnsForwarder.Proofs.Config.Spelling
import DnsForwarder.Proofs.Config.Defaults
import DnsForwarder.Proofs.Config.Conditions
import DnsForwarder.Proofs.Config.Loading
