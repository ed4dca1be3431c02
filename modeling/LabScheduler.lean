import LabScheduler.Boot
import LabScheduler.Canonical
import LabScheduler.Capability
import LabScheduler.CapabilitySets
import LabScheduler.Cluster.Acknowledged
import LabScheduler.Cluster.Answers
import LabScheduler.Cluster.Assignments
import LabScheduler.Cluster.Incarnations
import LabScheduler.Cluster.Loading
import LabScheduler.Cluster.Messages
import LabScheduler.Cluster.Overtaking
import LabScheduler.Cluster.Ownership
import LabScheduler.Cluster.Recorded
import LabScheduler.Cluster.Replies
import LabScheduler.Cluster.Saving
import LabScheduler.Cluster.Server
import LabScheduler.Cluster.Startup
import LabScheduler.Cluster.Unsaved
import LabScheduler.Cluster.Worker
import LabScheduler.Codec.Acceptance
import LabScheduler.Codec.Boundaries
import LabScheduler.Codec.Bounds
import LabScheduler.Codec.Bytes
import LabScheduler.Codec.Checks
import LabScheduler.Codec.Connection
import LabScheduler.Codec.Delivery
import LabScheduler.Codec.Framing
import LabScheduler.Codec.Parts
import LabScheduler.Codec.Payloads
import LabScheduler.Codec.Persistence
import LabScheduler.Codec.Rearranged
import LabScheduler.Codec.Records
import LabScheduler.Codec.Restart
import LabScheduler.Codec.Storage
import LabScheduler.Codec.Transport
import LabScheduler.Codec.Wire
import LabScheduler.Durable
import LabScheduler.Engine.Accounting
import LabScheduler.Engine.Advertising
import LabScheduler.Engine.Anchored
import LabScheduler.Engine.AuditLog
import LabScheduler.Engine.Audited
import LabScheduler.Engine.Calls
import LabScheduler.Engine.Candidates
import LabScheduler.Engine.Capacity
import LabScheduler.Engine.Changes
import LabScheduler.Engine.Commit
import LabScheduler.Engine.Completable
import LabScheduler.Engine.Completeness
import LabScheduler.Engine.Currentness
import LabScheduler.Engine.Decisions
import LabScheduler.Engine.Descriptions
import LabScheduler.Engine.Disclosed
import LabScheduler.Engine.Displayed
import LabScheduler.Engine.Drain
import LabScheduler.Engine.Eligibility
import LabScheduler.Engine.Evidence
import LabScheduler.Engine.ExactlyOnce
import LabScheduler.Engine.Exclusivity
import LabScheduler.Engine.Exhaustive
import LabScheduler.Engine.Explaining
import LabScheduler.Engine.Fencing
import LabScheduler.Engine.Finality
import LabScheduler.Engine.FixedPoint
import LabScheduler.Engine.Frames
import LabScheduler.Engine.Generations
import LabScheduler.Engine.Incarnation
import LabScheduler.Engine.Interchange
import LabScheduler.Engine.Irrelevance
import LabScheduler.Engine.Issued
import LabScheduler.Engine.Keys
import LabScheduler.Engine.Leasing
import LabScheduler.Engine.Ledger
import LabScheduler.Engine.Lifecycle
import LabScheduler.Engine.Lives
import LabScheduler.Engine.Loss
import LabScheduler.Engine.Mirrors
import LabScheduler.Engine.Operations
import LabScheduler.Engine.Optimality
import LabScheduler.Engine.Pairing
import LabScheduler.Engine.Passes
import LabScheduler.Engine.Ranking
import LabScheduler.Engine.Reassignment
import LabScheduler.Engine.Rebuilt
import LabScheduler.Engine.Recovery
import LabScheduler.Engine.Refused
import LabScheduler.Engine.Registration
import LabScheduler.Engine.Rejections
import LabScheduler.Engine.Releases
import LabScheduler.Engine.Repeated
import LabScheduler.Engine.Reports
import LabScheduler.Engine.Resources
import LabScheduler.Engine.Restarts
import LabScheduler.Engine.Retention
import LabScheduler.Engine.Retirement
import LabScheduler.Engine.Scheduling
import LabScheduler.Engine.Scores
import LabScheduler.Engine.Selection
import LabScheduler.Engine.Selections
import LabScheduler.Engine.Sequences
import LabScheduler.Engine.Shutdown
import LabScheduler.Engine.Soundness
import LabScheduler.Engine.Staleness
import LabScheduler.Engine.State
import LabScheduler.Engine.Termination
import LabScheduler.Engine.Ties
import LabScheduler.Engine.Transitions
import LabScheduler.Engine.Validated
import LabScheduler.Engine.Vouched
import LabScheduler.Engine.WholePlacement
import LabScheduler.Error
import LabScheduler.Foundation.Bisect
import LabScheduler.Foundation.Decoding
import LabScheduler.Foundation.Digits
import LabScheduler.Foundation.Evolution
import LabScheduler.Foundation.Files
import LabScheduler.Foundation.Journal
import LabScheduler.Foundation.Leases
import LabScheduler.Foundation.Lexicographic
import LabScheduler.Foundation.Matching
import LabScheduler.Foundation.Mixing
import LabScheduler.Foundation.Numbered
import LabScheduler.Foundation.Order
import LabScheduler.Foundation.Paired
import LabScheduler.Foundation.Refusals
import LabScheduler.Foundation.Rounding
import LabScheduler.Foundation.Run
import LabScheduler.Foundation.Saves
import LabScheduler.Foundation.Search
import LabScheduler.Foundation.Separated
import LabScheduler.Foundation.Session
import LabScheduler.Foundation.Simulation
import LabScheduler.Foundation.Sorted
import LabScheduler.Foundation.Stamped
import LabScheduler.Foundation.Streams
import LabScheduler.Foundation.Table
import LabScheduler.Identity
import LabScheduler.IdentityText
import LabScheduler.Limits
import LabScheduler.Numerals
import LabScheduler.Placement
import LabScheduler.Request
import LabScheduler.Resource
import LabScheduler.Topology
