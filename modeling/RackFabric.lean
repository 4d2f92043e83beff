import RackFabric.Core.Bytes
import RackFabric.Core.Hash
import RackFabric.Model.Types
import RackFabric.Model.Evidence
import RackFabric.Foundation.Tally
import RackFabric.Model.Sorting
import RackFabric.Compose.Scope
import RackFabric.Compose.Composer
import RackFabric.Authority.Grant
import RackFabric.Authority.Registry
import RackFabric.Persist.Store
import RackFabric.Runtime.Daemon
import RackFabric.Foundation.Machine
import RackFabric.Runtime.System
import RackFabric.Runtime.Frame
import RackFabric.Authority.Lease
import RackFabric.Runtime.Boot
import RackFabric.Runtime.LeaseGate
import RackFabric.Authority.Sweep
import RackFabric.Authority.Acquire
import RackFabric.Persist.Encoding
import RackFabric.Persist.Trail
import RackFabric.Persist.Recovery
import RackFabric.Authority.Calls
import RackFabric.Authority.Rebuild
import RackFabric.Foundation.Journal
import RackFabric.Runtime.Logging
import RackFabric.Runtime.RecoveryGate
import RackFabric.Runtime.Moves
import RackFabric.Runtime.QuietRun
import RackFabric.Authority.Standing
import RackFabric.Runtime.Retirement
import RackFabric.Foundation.Best
import RackFabric.Model.Ledger
import RackFabric.Compose.Arrival
import RackFabric.Runtime.Books
import RackFabric.Runtime.LedgerRecovery
import RackFabric.Authority.Replay
import RackFabric.Compose.Horizon
import RackFabric.Runtime.ReplayTwice
import RackFabric.Authority.Accounts
import RackFabric.Authority.Balance
import RackFabric.Authority.Trims
import RackFabric.Authority.Bookkeeping
import RackFabric.Authority.Reconcile
import RackFabric.Authority.Basis
import RackFabric.Authority.Exclusion
import RackFabric.Core.Reader
import RackFabric.Foundation.Framing
import RackFabric.Persist.Casts
import RackFabric.Persist.Decoding
import RackFabric.Persist.Wire
import RackFabric.Persist.Log
import RackFabric.Persist.Directory
import RackFabric.Persist.Tail
import RackFabric.Persist.Reopen
import RackFabric.Persist.CheckpointFile
import RackFabric.Persist.FailedAppend
import RackFabric.Compose.Membership
import RackFabric.Compose.Passes
import RackFabric.Compose.Closure
import RackFabric.Compose.Drain
import RackFabric.Foundation.Exact
import RackFabric.Core.Canonical
import RackFabric.Persist.EvidenceCodec
import RackFabric.Compose.SnapshotDecoding
import RackFabric.Compose.SnapshotCodec
import RackFabric.Compose.SnapshotCanonical
import RackFabric.Compose.Bounds
import RackFabric.Compose.Depth
import RackFabric.Compose.SnapshotRoundTrip
import RackFabric.Net.Protocol
import RackFabric.Net.ProtocolCodec
import RackFabric.Net.Messages
import RackFabric.Net.Listable
import RackFabric.Net.ListableRun
import RackFabric.Net.GrantListing
import RackFabric.Net.Frame
import RackFabric.Net.Dispatch
import RackFabric.Net.Client
import RackFabric.Net.Server
import RackFabric.Net.ServerRun
import RackFabric.Net.Slots
import RackFabric.Net.Answers
import RackFabric.Net.Remote
import RackFabric.Compose.MemberSet
import RackFabric.Persist.Chart
import RackFabric.Authority.Dated
import RackFabric.Runtime.Course
import RackFabric.Runtime.Composing
import RackFabric.Runtime.Counters
import RackFabric.Runtime.CounterRun
import RackFabric.Runtime.CounterStart
import RackFabric.Runtime.Regression
import RackFabric.Runtime.EpochNames
import RackFabric.Compose.CapacityLedger
import RackFabric.Runtime.Reached
import RackFabric.Runtime.Refused
import RackFabric.Runtime.FirstStart
import RackFabric.Authority.Asked
import RackFabric.Authority.PairwiseScan
import RackFabric.Authority.Supply
import RackFabric.Authority.Limits
import RackFabric.Authority.Tokens
import RackFabric.Compose.Roots
import RackFabric.Authority.BasisFencing
import RackFabric.Compose.PathLookup
import RackFabric.Compose.Selecting
import RackFabric.Compose.Published
import RackFabric.Compose.Observations
import RackFabric.Compose.Disputes
import RackFabric.Compose.Obligations
import RackFabric.Compose.Directives
import RackFabric.Foundation.Trail
import RackFabric.Compose.Walks
import RackFabric.Compose.Exploring
import RackFabric.Compose.Reach
import RackFabric.Core.Checksum
import RackFabric.Compose.Containment
import RackFabric.Authority.RackPool
import RackFabric.Persist.SelfCheck
import RackFabric.Core.Utf8
import RackFabric.Model.References
import RackFabric.Model.Histories
import RackFabric.Foundation.Simulation
import RackFabric.Runtime.Lending
import RackFabric.Net.Leases
import RackFabric.Authority.Recalls
import RackFabric.Net.Retries
import RackFabric.Authority.TakenUp
import RackFabric.Runtime.Restart
import RackFabric.Persist.Retained
import RackFabric.Runtime.Durable
import RackFabric.Runtime.Convergence
import RackFabric.Foundation.Keeper
import RackFabric.Persist.Calls
import RackFabric.Persist.Image
import RackFabric.Persist.Incarnations
import RackFabric.Persist.Refinement
import RackFabric.Persist.Served
import RackFabric.Persist.Survival
