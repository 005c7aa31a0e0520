import Muster.Admission.Queue
import Muster.Client.AckPolicy
import Muster.Client.Browser
import Muster.Client.EventText
import Muster.Client.Listing
import Muster.Client.Session
import Muster.Control.Decoding
import Muster.Control.Encoding
import Muster.Control.Event
import Muster.Control.Packet
import Muster.Count
import Muster.Daemon.Basic
import Muster.Daemon.Config
import Muster.Daemon.Run
import Muster.Document.Admission
import Muster.Document.Basic
import Muster.Document.Control
import Muster.Document.Daemon
import Muster.Document.Match
import Muster.Document.Network
import Muster.Document.Probe
import Muster.Exchange.Basic
import Muster.Exchange.Dispatcher
import Muster.Exchange.Pending
import Muster.Exchange.Request
import Muster.Exchange.Socket
import Muster.Keyed
import Muster.Lookup.NameTable
import Muster.Lookup.Resolver
import Muster.Lookup.ServerList
import Muster.Match.Criteria
import Muster.Match.Evaluation
import Muster.Match.Group
import Muster.Match.Quality
import Muster.Match.Searcher
import Muster.Match.ServerView
import Muster.Matchmaker.Admission
import Muster.Matchmaker.Basic
import Muster.Matchmaker.Effect
import Muster.Matchmaker.Processor
import Muster.Matchmaker.Search
import Muster.Matchmaker.Tick
import Muster.Net.Endpoint
import Muster.Net.EndpointText
import Muster.Net.HostPort
import Muster.Order
import Muster.Probe.Infostring
import Muster.Probe.Message
import Muster.Probe.ProtocolError
import Muster.Probe.Scoreboard
import Muster.Probe.ServerInfo
import Muster.Probe.Snapshot
import Muster.Proofs.Admission.Activity
import Muster.Proofs.Admission.Admitted
import Muster.Proofs.Admission.Attempts
import Muster.Proofs.Admission.Joining
import Muster.Proofs.Admission.Lines
import Muster.Proofs.Admission.News
import Muster.Proofs.Admission.Observer
import Muster.Proofs.Admission.Operations
import Muster.Proofs.Admission.Passes
import Muster.Proofs.Admission.Players
import Muster.Proofs.Admission.Publishing
import Muster.Proofs.Admission.Recent
import Muster.Proofs.Admission.Servers
import Muster.Proofs.Admission.Stays
import Muster.Proofs.Admission.Sweeps
import Muster.Proofs.Admission.Visits
import Muster.Proofs.Admission.Walks
import Muster.Proofs.Admission.WellFormed
import Muster.Proofs.Control.Exactness
import Muster.Proofs.Control.Reading
import Muster.Proofs.Control.Sizes
import Muster.Proofs.Daemon.Ghosts
import Muster.Proofs.Daemon.Handling
import Muster.Proofs.Daemon.Mirror
import Muster.Proofs.Daemon.Runs
import Muster.Proofs.Daemon.Schedules
import Muster.Proofs.Daemon.Situations
import Muster.Proofs.Daemon.Turns
import Muster.Proofs.Exchange.Arrivals
import Muster.Proofs.Exchange.Attribution
import Muster.Proofs.Exchange.Bystanders
import Muster.Proofs.Exchange.Calls
import Muster.Proofs.Exchange.Commuting
import Muster.Proofs.Exchange.Dispatching
import Muster.Proofs.Exchange.Filing
import Muster.Proofs.Exchange.Handlers
import Muster.Proofs.Exchange.Index
import Muster.Proofs.Exchange.Keeping
import Muster.Proofs.Exchange.Leaving
import Muster.Proofs.Exchange.Orderly
import Muster.Proofs.Exchange.Requests
import Muster.Proofs.Exchange.Resolution
import Muster.Proofs.Exchange.Runs
import Muster.Proofs.Keyed
import Muster.Proofs.Lookup.Inquiries
import Muster.Proofs.Lookup.Names
import Muster.Proofs.Lookup.ServerLists
import Muster.Proofs.Match.Bookkeeping
import Muster.Proofs.Match.Companions
import Muster.Proofs.Match.Determinacy
import Muster.Proofs.Match.Groups
import Muster.Proofs.Match.Hints
import Muster.Proofs.Match.Maximality
import Muster.Proofs.Match.Optimality
import Muster.Proofs.Match.Precedence
import Muster.Proofs.Match.Prospects
import Muster.Proofs.Match.Rounds
import Muster.Proofs.Match.Safety
import Muster.Proofs.Match.Sizes
import Muster.Proofs.Matchmaker.Calls
import Muster.Proofs.Matchmaker.Commitment
import Muster.Proofs.Matchmaker.Conduct
import Muster.Proofs.Matchmaker.Conveyance
import Muster.Proofs.Matchmaker.Departure
import Muster.Proofs.Matchmaker.Freshness
import Muster.Proofs.Matchmaker.Handover
import Muster.Proofs.Matchmaker.Hearing
import Muster.Proofs.Matchmaker.Lines
import Muster.Proofs.Matchmaker.Meanwhile
import Muster.Proofs.Matchmaker.Notices
import Muster.Proofs.Matchmaker.Places
import Muster.Proofs.Matchmaker.Probing
import Muster.Proofs.Matchmaker.Processors
import Muster.Proofs.Matchmaker.Reporting
import Muster.Proofs.Matchmaker.Roll
import Muster.Proofs.Matchmaker.Staffing
import Muster.Proofs.Matchmaker.Staleness
import Muster.Proofs.Matchmaker.Ticks
import Muster.Proofs.Matchmaker.Withdrawals
import Muster.Proofs.Net.Addresses
import Muster.Proofs.Net.EndpointOrder
import Muster.Proofs.Net.HostPorts
import Muster.Proofs.Net.Numbers
import Muster.Proofs.Order
import Muster.Proofs.Parts
import Muster.Proofs.Probe.Entries
import Muster.Proofs.Probe.Framing
import Muster.Proofs.Probe.Grammar
import Muster.Proofs.Probe.Infostrings
import Muster.Proofs.Probe.Layouts
import Muster.Proofs.Probe.Replies
import Muster.Proofs.Probe.Scoreboards
import Muster.Proofs.Query.Answers
import Muster.Proofs.Query.Continuity
import Muster.Proofs.Query.Course
import Muster.Proofs.Query.Custody
import Muster.Proofs.Query.Given
import Muster.Proofs.Query.Results
import Muster.Proofs.Query.Service
import Muster.Proofs.Query.Single
import Muster.Proofs.Query.Withdrawal
import Muster.Proofs.Registry.Calls
import Muster.Proofs.Registry.Capacity
import Muster.Proofs.Registry.Freshness
import Muster.Proofs.Registry.Memory
import Muster.Proofs.Registry.Moves
import Muster.Proofs.Registry.Queues
import Muster.Proofs.Registry.Refreshing
import Muster.Proofs.Registry.Reports
import Muster.Proofs.Registry.Residence
import Muster.Proofs.Registry.Servers
import Muster.Proofs.Registry.Service
import Muster.Proofs.Session.Addresses
import Muster.Proofs.Text.Numeral
import Muster.Proofs.Text.Spans
import Muster.Proofs.Text.Utf8
import Muster.Query.Batch
import Muster.Query.Lookups
import Muster.Query.Network
import Muster.Query.Report
import Muster.Query.Service
import Muster.Registry.Basic
import Muster.Registry.GameServer
import Muster.Registry.PlayerSet
import Muster.Registry.Refresh
import Muster.Session.Sessions
import Muster.Text.Blank
import Muster.Text.CharacterRanges
import Muster.Text.ColorCode
import Muster.Text.Hex
import Muster.Text.Numeral
import Muster.Text.Quoted
import Muster.Text.Utf8
import Muster.Text.WholeNumber
