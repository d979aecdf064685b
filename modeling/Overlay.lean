import Overlay.Action
import Overlay.Address.Basic
import Overlay.Address.Codec
import Overlay.Address.Family
import Overlay.Address.Socket
import Overlay.Address.Text
import Overlay.Bus
import Overlay.Cluster
import Overlay.Config
import Overlay.Decimal.Nearest
import Overlay.Decimal.Shortest
import Overlay.Gateway
import Overlay.Hierarchy
import Overlay.Http.Api
import Overlay.Http.Basic
import Overlay.Http.Client
import Overlay.Http.MediaType
import Overlay.Http.Percent
import Overlay.Http.Url
import Overlay.Job.Basic
import Overlay.Job.Form
import Overlay.Json.Basic
import Overlay.Json.Form
import Overlay.Json.Text
import Overlay.Message.Downward
import Overlay.Message.Request
import Overlay.Message.Upward
import Overlay.NameSet
import Overlay.Numeral
import Overlay.Pool.Basic
import Overlay.Pool.Layout
import Overlay.Proofs.Action
import Overlay.Proofs.Address.Agreement
import Overlay.Proofs.Address.Canonical
import Overlay.Proofs.Address.RoundTrip
import Overlay.Proofs.Cluster.Copies
import Overlay.Proofs.Cluster.Lookups
import Overlay.Proofs.Cluster.Operations
import Overlay.Proofs.Cluster.Queries
import Overlay.Proofs.Cluster.Refreshes
import Overlay.Proofs.Cluster.Reports
import Overlay.Proofs.Cluster.Withdrawal
import Overlay.Proofs.Hierarchy.Announcements
import Overlay.Proofs.Hierarchy.Callbacks
import Overlay.Proofs.Hierarchy.Calls
import Overlay.Proofs.Hierarchy.Changes
import Overlay.Proofs.Hierarchy.Climbing
import Overlay.Proofs.Hierarchy.Coherence
import Overlay.Proofs.Hierarchy.Coverage
import Overlay.Proofs.Hierarchy.Direct
import Overlay.Proofs.Hierarchy.Farewells
import Overlay.Proofs.Hierarchy.Frames
import Overlay.Proofs.Hierarchy.Ghosts
import Overlay.Proofs.Hierarchy.Networks
import Overlay.Proofs.Hierarchy.Propagation
import Overlay.Proofs.Hierarchy.Requests
import Overlay.Proofs.Hierarchy.Subnets
import Overlay.Proofs.Hierarchy.Unreliable
import Overlay.Proofs.Http.Callbacks
import Overlay.Proofs.Http.Counts
import Overlay.Proofs.Job.Batches
import Overlay.Proofs.Job.Instances
import Overlay.Proofs.Job.Reports
import Overlay.Proofs.Job.Turns
import Overlay.Proofs.Json.Reading
import Overlay.Proofs.Json.Records
import Overlay.Proofs.Json.RoundTrip
import Overlay.Proofs.Message.Topics
import Overlay.Proofs.Numeral
import Overlay.Proofs.Pool.Basic
import Overlay.Proofs.Pool.Exclusive
import Overlay.Proofs.Pool.Exhaustion
import Overlay.Proofs.Pool.Layout
import Overlay.Proofs.Pool.Ledger
import Overlay.Proofs.Pool.Offers
import Overlay.Proofs.Pool.Order
import Overlay.Proofs.Pool.Runs
import Overlay.Proofs.Registry.Jobs
import Overlay.Proofs.Registry.Merging
import Overlay.Proofs.Registry.Pools
import Overlay.Proofs.Retry
import Overlay.Proofs.Root.Capacity
import Overlay.Proofs.Root.Conservation
import Overlay.Proofs.Root.Frames
import Overlay.Proofs.Root.Gateways
import Overlay.Proofs.Root.Identifiers
import Overlay.Proofs.Root.Ledger
import Overlay.Proofs.Root.Lifecycle
import Overlay.Proofs.Root.Notifiers
import Overlay.Proofs.Root.Numbers
import Overlay.Proofs.Root.Operations
import Overlay.Proofs.Root.Overrun
import Overlay.Proofs.Root.Registration
import Overlay.Proofs.Root.Reregistration
import Overlay.Proofs.Root.Returns
import Overlay.Proofs.Root.Rollback
import Overlay.Proofs.Root.Runs
import Overlay.Proofs.Root.Scheduling
import Overlay.Proofs.Root.Subnets
import Overlay.Proofs.Root.Tasks
import Overlay.Proofs.Root.Undeployment
import Overlay.Proofs.Root.Uniqueness
import Overlay.Proofs.Table
import Overlay.Proofs.Text.Split
import Overlay.Proofs.Tier.Batches
import Overlay.Proofs.Tier.Changes
import Overlay.Proofs.Tier.FanOut
import Overlay.Proofs.Tier.Interest
import Overlay.Proofs.Tier.Operations
import Overlay.Proofs.Tier.Reports
import Overlay.Registry.Basic
import Overlay.Retry
import Overlay.Selector
import Overlay.Standalone
import Overlay.Table
import Overlay.Text.Blank
import Overlay.Text.Split
import Overlay.Tier.Basic
import Overlay.Tier.Error
import Overlay.Tier.Gateways
import Overlay.Tier.Interest
import Overlay.Tier.Membership
import Overlay.Tier.Registration
import Overlay.Tier.Reports
import Overlay.Tier.Requests
import Overlay.Tier.Resolution
import Overlay.Tier.Subnets
import Overlay.Tier.Undeployment
import Overlay.Toml.Basic
import Overlay.Toml.Quoted
import Overlay.Toml.Text
