import Midscale.Api.DeviceConfig
import Midscale.Api.Devices
import Midscale.Config.Agreement
import Midscale.Data.Text
import Midscale.Daemon.Reconciler
import Midscale.Data.Json
import Midscale.Net.IPv4
import Midscale.Net.Leases
import Midscale.Net.Lpm
import Midscale.Relay.Frame
import Midscale.Relay.Server
import Midscale.Topology.Forwarding
import Midscale.Topology.Hybrid
import Midscale.Topology.Snapshot
import Midscale.Wireguard.HubPlan
import Midscale.Api.Addresses
import Midscale.Limits.RateLimiter
import Midscale.Topology.Routes
import Midscale.Config.Secrets
import Midscale.Api.Tokens
import Midscale.Api.Revocation
import Midscale.Api.Routes
import Midscale.Api.Rules
import Midscale.Access.Tenancy
import Midscale.Api.Endpoints
import Midscale.Api.Tenancy
import Midscale.Api.ReadIsolation
import Midscale.Api.Concurrent
import Midscale.Api.AddressRaces
import Midscale.Api.KeyRaces
import Midscale.Relay.Registry
import Midscale.Sessions.Endpoints
import Midscale.Sessions.Nat
import Midscale.Sessions.Connectivity
import Midscale.Api.Sessions
import Midscale.Api.Participants
import Midscale.Api.DeviceIsolation
import Midscale.Topology.ExitNodes
import Midscale.Api.ExitNodes
import Midscale.Api.RouteOverlaps
import Midscale.Wireguard.Dump
import Midscale.Daemon.Runtime
import Midscale.Wireguard.Routing
import Midscale.Daemon.Applied
import Midscale.Daemon.Delivery
import Midscale.Daemon.Endpoints
import Midscale.Relay.Inert
import Midscale.Relay.SessionTokens
import Midscale.Data.Regex
import Midscale.Daemon.IniRoundTrip
import Midscale.Api.DeviceWrites
import Midscale.Api.HubIdentity
import Midscale.Wireguard.ReconcileAll
import Midscale.Api.PublicKeys
import Midscale.Config.View
import Midscale.Config.InactiveDevices
import Midscale.Data.Sort
import Midscale.Config.Hash
import Midscale.Config.Freshness
import Midscale.Limits.SharedLimit
import Midscale.Config.Candidates
import Midscale.Stun.Binding
import Midscale.Sessions.EndpointIdentity
import Midscale.Events.PushOrder
import Midscale.Wireguard.Maintenance
import Midscale.Daemon.HolePuncher
import Midscale.Daemon.RunLoop
import Midscale.Daemon.PunchProtocol
import Midscale.Api.Withdrawal
import Midscale.Daemon.RelayStats
import Midscale.Daemon.RelayJoin
import Midscale.Daemon.Enrollment
import Midscale.Daemon.PeerProber
import Midscale.Dns.Sync
import Midscale.Wireguard.SharedInterface
import Midscale.Sessions.RelayGauge
import Midscale.Sessions.NatGauge
import Midscale.Events.RelayFallback
import Midscale.Api.StatsRaces
import Midscale.Topology.WellFormed
import Midscale.Api.PrefixSafety
import Midscale.Config.HashChanges
import Midscale.Config.Enrichment
import Midscale.Api.NetworkDeletion
import Midscale.Api.AuditTrail
import Midscale.Data.Tlv
import Midscale.Data.Calendar
import Midscale.Data.Utf8
import Midscale.Net.IPv6Text
import Midscale.Stun.Walk
import Midscale.Stun.Robustness
import Midscale.Stun.WellFormed
import Midscale.Dns.ReverseNames
import Midscale.Dns.Serials
import Midscale.Wireguard.PeerDiff
import Midscale.Limits.RetryAfter
import Midscale.Relay.Forwarding
import Midscale.Access.DeviceAccess
import Midscale.Config.CandidateOrder
import Midscale.Sessions.EndpointScores
import Midscale.Wireguard.StaleSweep
import Midscale.Api.ExitSelection
import Midscale.Run.Faults
import Midscale.Events.PunchFaults
import Midscale.Wireguard.Presence
import Midscale.Relay.Expiry
import Midscale.Wireguard.PeerFailures
import Midscale.Daemon.PunchSession
import Midscale.Dns.Labels
import Midscale.Config.HashOrder
import Midscale.Data.UuidText
import Midscale.Run.History
import Midscale.Access.Tickets
import Midscale.Api.Accounts
import Midscale.Api.Logins
import Midscale.Limits.LoginGuard
import Midscale.Data.Paging
import Midscale.Api.AuditPages
import Midscale.Daemon.LegacyPull
import Midscale.Wireguard.MockKernel
import Midscale.Api.KeyCustody
import Midscale.Config.Renderer
import Midscale.Daemon.Lockout
import Midscale.Api.RouteClaims
import Midscale.Daemon.EndpointAgreement
