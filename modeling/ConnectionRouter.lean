import ConnectionRouter.Text.Blank
import ConnectionRouter.Text.Numeral
import ConnectionRouter.Text.Pieces
import ConnectionRouter.Table
import ConnectionRouter.Error
import ConnectionRouter.HostAddr
import ConnectionRouter.Placement.Basic
import ConnectionRouter.Placement.Preference
import ConnectionRouter.Topology.Member
import ConnectionRouter.Clock
import ConnectionRouter.Config.Basic
import ConnectionRouter.Config.Validation
import ConnectionRouter.Quarantine
import ConnectionRouter.Pool.Basic
import ConnectionRouter.Pool.LeastLoaded
import ConnectionRouter.Pool.Selection
import ConnectionRouter.Pool.Snapshot
import ConnectionRouter.Pool.View
import ConnectionRouter.Metrics.Ledger
import ConnectionRouter.Decimal.Shortest
import ConnectionRouter.Metrics.Exposition
import ConnectionRouter.Balancer.Turn
import ConnectionRouter.Balancer.Basic
import ConnectionRouter.Balancer.Refresh
import ConnectionRouter.Balancer.Registry
import ConnectionRouter.Cluster.Node
import ConnectionRouter.Cluster.Basic
import ConnectionRouter.Cluster.Network
import ConnectionRouter.Router.Basic
import ConnectionRouter.Router.Request
import ConnectionRouter.Router.World
import ConnectionRouter.Schedule
import ConnectionRouter.Router.Shutdown
import ConnectionRouter.Router.Change
import ConnectionRouter.Router.Traffic
import ConnectionRouter.Scenario.Basic
import ConnectionRouter.Balancer.Alone
import ConnectionRouter.Text.Utf8
import ConnectionRouter.Text.FormEncoding
import ConnectionRouter.Config.Url
import ConnectionRouter.Toml.Value
import ConnectionRouter.Toml.Scanner
import ConnectionRouter.Toml.Number
import ConnectionRouter.Toml.Document
import ConnectionRouter.Toml.Decode
import ConnectionRouter.Config.File
import ConnectionRouter.Cluster.File
import ConnectionRouter.Json.Basic
import ConnectionRouter.Toml.Printer
import ConnectionRouter.Config.Printer
import ConnectionRouter.Text.Alphanumeric
import ConnectionRouter.Text.ByteCut
import ConnectionRouter.Text.Fraction
import ConnectionRouter.Text.Regex
import ConnectionRouter.Config.LogDirective
import ConnectionRouter.CommandLine.Arguments
import ConnectionRouter.CommandLine.Help
import ConnectionRouter.CommandLine.Run
import ConnectionRouter.Main
import ConnectionRouter.Proofs.Table
import ConnectionRouter.Proofs.Pool.Validity
import ConnectionRouter.Proofs.Pool.Count
import ConnectionRouter.Proofs.Balancer.Validity
import ConnectionRouter.Proofs.Balancer.Leases
import ConnectionRouter.Proofs.Balancer.LeaseCounts
import ConnectionRouter.Proofs.Balancer.Turn
import ConnectionRouter.Proofs.Balancer.Account
import ConnectionRouter.Proofs.Cluster.OpenConnections
import ConnectionRouter.Proofs.Router.Hands
import ConnectionRouter.Proofs.Router.Parts
import ConnectionRouter.Proofs.Router.WorldTrades
import ConnectionRouter.Proofs.Router.Requests
import ConnectionRouter.Proofs.Router.Shutdowns
import ConnectionRouter.Proofs.Router.Soundness
import ConnectionRouter.Proofs.Router.Service
import ConnectionRouter.Proofs.Router.Conservation
import ConnectionRouter.Proofs.Pool.Quarantine
import ConnectionRouter.Proofs.Balancer.Crowd
import ConnectionRouter.Proofs.Balancer.CrowdOrder
import ConnectionRouter.Proofs.Balancer.RefreshProtocol
import ConnectionRouter.Proofs.Balancer.FirstRefresh
import ConnectionRouter.Proofs.Balancer.Together
import ConnectionRouter.Proofs.Balancer.ForcedRefresh
import ConnectionRouter.Proofs.Router.QueryTurns
import ConnectionRouter.Proofs.Pool.Eligibility
import ConnectionRouter.Proofs.Balancer.UpToDate
import ConnectionRouter.Proofs.Cluster.Responses
import ConnectionRouter.Proofs.Router.Course
import ConnectionRouter.Proofs.Router.Recovery
import ConnectionRouter.Proofs.Router.Journey
import ConnectionRouter.Proofs.Router.Rounds
import ConnectionRouter.Proofs.Router.Waits
import ConnectionRouter.Proofs.Router.AmongOthers
import ConnectionRouter.Proofs.Router.Degradation
import ConnectionRouter.Proofs.Router.Failover
import ConnectionRouter.Proofs.Cluster.Site
import ConnectionRouter.Proofs.Pool.Evenness
import ConnectionRouter.Proofs.Pool.Tally
import ConnectionRouter.Proofs.Router.Arrivals
import ConnectionRouter.Proofs.Router.Steady
import ConnectionRouter.Proofs.Router.InTurn
import ConnectionRouter.Proofs.Config.UrlSeeds
import ConnectionRouter.Proofs.Balancer.RankOrder
import ConnectionRouter.Proofs.Router.Bystanders
import ConnectionRouter.Proofs.Router.Progress
import ConnectionRouter.Proofs.Results
import ConnectionRouter.Proofs.Config.Faults
import ConnectionRouter.Proofs.Placement.Tiers
import ConnectionRouter.Proofs.Placement.Written
import ConnectionRouter.Proofs.Pool.Ruled
import ConnectionRouter.Proofs.Pool.FallbackChain
import ConnectionRouter.Proofs.Pool.Filling
import ConnectionRouter.Proofs.Pool.Listing
import ConnectionRouter.Proofs.Pool.Membership
import ConnectionRouter.Proofs.Pool.Turnover
import ConnectionRouter.Proofs.Pool.Releases
import ConnectionRouter.Proofs.LetterCase
import ConnectionRouter.Proofs.Placement.Ranking
import ConnectionRouter.Proofs.Numeral
import ConnectionRouter.Proofs.AddressForms
import ConnectionRouter.Proofs.Placement.Grammar
import ConnectionRouter.Proofs.Config.UrlParts
import ConnectionRouter.Proofs.Config.UrlOptions
import ConnectionRouter.Proofs.Placement.Reach
import ConnectionRouter.Proofs.Router.Incidents
import ConnectionRouter.Proofs.Router.Notes
import ConnectionRouter.Proofs.Router.Metering
import ConnectionRouter.Proofs.Pool.Minima
import ConnectionRouter.Proofs.Balancer.Provenance
import ConnectionRouter.Proofs.Balancer.CrowdLedger
import ConnectionRouter.Proofs.Balancer.RefreshCounts
import ConnectionRouter.Proofs.Balancer.ConnectionGauge
import ConnectionRouter.Proofs.Cluster.Books
import ConnectionRouter.Proofs.Cluster.Reports
