import LobbyPlacement.Announcement
import LobbyPlacement.Broker.Address
import LobbyPlacement.Broker.Basic
import LobbyPlacement.Broker.Connection
import LobbyPlacement.Broker.Dispatch
import LobbyPlacement.Broker.Patience
import LobbyPlacement.Broker.Publisher
import LobbyPlacement.Bus
import LobbyPlacement.CommandLine.Course
import LobbyPlacement.CommandLine.Element
import LobbyPlacement.CommandLine.Options
import LobbyPlacement.CommandLine.Plan
import LobbyPlacement.CommandLine.Session
import LobbyPlacement.Fault
import LobbyPlacement.Health
import LobbyPlacement.Http.Answer
import LobbyPlacement.Http.Api
import LobbyPlacement.Http.Endpoint
import LobbyPlacement.Http.HostAddress
import LobbyPlacement.Http.Monitor
import LobbyPlacement.Http.Target
import LobbyPlacement.Journal
import LobbyPlacement.Journal.Threshold
import LobbyPlacement.Json.Fault
import LobbyPlacement.Json.Lexer
import LobbyPlacement.Json.Number
import LobbyPlacement.Json.PoolText
import LobbyPlacement.Json.Reader
import LobbyPlacement.Json.Value
import LobbyPlacement.Load
import LobbyPlacement.Main
import LobbyPlacement.Metrics.Exposition
import LobbyPlacement.Metrics.Gauges
import LobbyPlacement.Metrics.Histogram
import LobbyPlacement.Metrics.Series
import LobbyPlacement.Number.Binary64
import LobbyPlacement.Number.Floating
import LobbyPlacement.Number.Shortest
import LobbyPlacement.Placement.Census
import LobbyPlacement.Placement.Desk
import LobbyPlacement.Placement.Request
import LobbyPlacement.Placement.Round
import LobbyPlacement.Placement.WriteMode
import LobbyPlacement.Pool
import LobbyPlacement.Product
import LobbyPlacement.Publisher
import LobbyPlacement.Recorder
import LobbyPlacement.Service.Assembly
import LobbyPlacement.Service.Basic
import LobbyPlacement.Service.Checkup
import LobbyPlacement.Service.Lifecycle
import LobbyPlacement.Settings.Basic
import LobbyPlacement.Settings.Document
import LobbyPlacement.Settings.Source
import LobbyPlacement.Settings.Validation
import LobbyPlacement.Store.Call
import LobbyPlacement.Store.Memory
import LobbyPlacement.Store.Scripted
import LobbyPlacement.Text.Blank
import LobbyPlacement.Text.CaseTable
import LobbyPlacement.Text.Duration
import LobbyPlacement.Text.Glob
import LobbyPlacement.Text.LowerCase
import LobbyPlacement.Text.Numeral
import LobbyPlacement.Text.Quoted
import LobbyPlacement.Text.Rest
import LobbyPlacement.Text.Split
import LobbyPlacement.Text.Utf8
import LobbyPlacement.Toml.Lexer
import LobbyPlacement.Toml.Reader
import LobbyPlacement.Toml.Scalar
import LobbyPlacement.Toml.Text
import LobbyPlacement.Toml.Tree
import LobbyPlacement.Toml.Value
import LobbyPlacement.Proofs.Store.Contents
import LobbyPlacement.Proofs.Store.Ledger
import LobbyPlacement.Proofs.Announcement
import LobbyPlacement.Proofs.Placement.Agreement
import LobbyPlacement.Proofs.Placement.Announcing
import LobbyPlacement.Proofs.Placement.Balance
import LobbyPlacement.Proofs.Placement.Coverage
import LobbyPlacement.Proofs.Placement.Filling
import LobbyPlacement.Proofs.Placement.Replay
import LobbyPlacement.Proofs.Placement.Turns
import LobbyPlacement.Proofs.Placement.Overwriting
import LobbyPlacement.Proofs.Placement.Office
import LobbyPlacement.Proofs.Placement.Accounting
import LobbyPlacement.Proofs.Store.Troubled
import LobbyPlacement.Proofs.Placement.Trace
import LobbyPlacement.Proofs.Placement.Answering
import LobbyPlacement.Proofs.Placement.Errands
import LobbyPlacement.Proofs.Placement.Indifference
import LobbyPlacement.Proofs.Placement.Modes
import LobbyPlacement.Proofs.Placement.Bureau
import LobbyPlacement.Proofs.Placement.Bookkeeping
import LobbyPlacement.Proofs.Bus.Inbox
import LobbyPlacement.Proofs.Bus.Delivery
import LobbyPlacement.Proofs.Service.Affairs
import LobbyPlacement.Proofs.Service.Observers
import LobbyPlacement.Proofs.Service.Invisibility
import LobbyPlacement.Proofs.Service.Gauges
import LobbyPlacement.Proofs.Service.Safety
import LobbyPlacement.Proofs.Http.Reconciling
import LobbyPlacement.Proofs.Settings.Setting
import LobbyPlacement.Proofs.Settings.Overlay
import LobbyPlacement.Proofs.Settings.Merging
import LobbyPlacement.Proofs.Settings.Overriding
import LobbyPlacement.Proofs.Text.Language
import LobbyPlacement.Proofs.Text.Cursors
import LobbyPlacement.Proofs.Store.Overheard
import LobbyPlacement.Proofs.Placement.Counting
import LobbyPlacement.Proofs.Placement.Calls
import LobbyPlacement.Proofs.Placement.Snapshot
import LobbyPlacement.Proofs.Broker.Retrying
import LobbyPlacement.Proofs.Broker.Overtime
import LobbyPlacement.Proofs.Broker.Depot
import LobbyPlacement.Proofs.Broker.Exchanges
import LobbyPlacement.Proofs.Text.Parts
import LobbyPlacement.Proofs.Broker.Locating
import LobbyPlacement.Proofs.Settings.Misspelling
import LobbyPlacement.Proofs.Store.Wordless
import LobbyPlacement.Proofs.Placement.Wording
import LobbyPlacement.Proofs.Http.Discretion
import LobbyPlacement.Proofs.Text.Entries
import LobbyPlacement.Proofs.Json.Texts
import LobbyPlacement.Proofs.Pool.Faults
import LobbyPlacement.Proofs.Pool.Listing
import LobbyPlacement.Proofs.Pool.Origins
