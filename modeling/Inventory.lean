import Inventory.Broker.Publication
import Inventory.Deployment
import Inventory.Household.Projection
import Inventory.Household.View
import Inventory.IdSource
import Inventory.Main
import Inventory.Metrics.Server
import Inventory.Record.TableRow
import Inventory.Startup
import Inventory.Proofs.Traffic
import Inventory.Proofs.Traffic.DispatchStep
import Inventory.Proofs.EventStore
import Inventory.Proofs.EventStore.Order
import Inventory.Proofs.Traffic.Journal
import Inventory.Proofs.Traffic.Contiguity
import Inventory.Proofs.Dispatch
import Inventory.Proofs.Untimed
import Inventory.Proofs.Traffic.Serial
import Inventory.Proofs.Traffic.Tally
import Inventory.Proofs.Traffic.Effects
import Inventory.Proofs.Traffic.Account
import Inventory.Proofs.Traffic.Assignments
import Inventory.Proofs.Traffic.Order
import Inventory.Proofs.Household.Name
import Inventory.Proofs.Json.Shape
import Inventory.Proofs.Household.Fact
import Inventory.Proofs.Household.History
import Inventory.Proofs.Household.Wire
import Inventory.Proofs.Json.Reader
import Inventory.Proofs.Json.Streaming
import Inventory.Proofs.Record
import Inventory.Proofs.Traffic.Budget
import Inventory.Proofs.Traffic.Broadcast
import Inventory.Proofs.Traffic.Heard
import Inventory.Proofs.Household.Contents
import Inventory.Proofs.Table
import Inventory.Proofs.Household.Projection
import Inventory.Proofs.Household.ReadModel
import Inventory.Proofs.EventStore.Ledger
import Inventory.Proofs.EventBus.Consumer
import Inventory.Proofs.Audience
import Inventory.Proofs.Audience.ReadStep
import Inventory.Proofs.Audience.Attended
import Inventory.Proofs.Audience.Alone
import Inventory.Proofs.Audience.InOrder
import Inventory.Proofs.Audience.Called
import Inventory.Proofs.Audience.Roster
import Inventory.Proofs.Household.Convergence
import Inventory.Proofs.Household.Rows
import Inventory.Proofs.Json.Reading
import Inventory.Proofs.Traffic.Stamps
import Inventory.Proofs.Traffic.Times
import Inventory.Proofs.Metrics
import Inventory.Proofs.Traffic.MetricsCalls
import Inventory.Proofs.Traffic.Reckoning
import Inventory.Proofs.EventStore.Census
import Inventory.Proofs.Traffic.Totals
import Inventory.Proofs.Traffic.Balance
import Inventory.Proofs.Audience.Served
import Inventory.Proofs.Service
import Inventory.Proofs.Household.Invariant
import Inventory.Proofs.Household.Acceptance
import Inventory.Proofs.Household.Spelling
import Inventory.Proofs.Traffic.Likeness
import Inventory.Proofs.Traffic.Within
import Inventory.Proofs.Traffic.Seclusion
import Inventory.Proofs.Aggregate.Rebuilding
import Inventory.Proofs.Traffic.Replay
import Inventory.Proofs.Delivery
import Inventory.Proofs.EventBus.Publishing
import Inventory.Proofs.Breaker
import Inventory.Proofs.Breaker.Overlap
import Inventory.Proofs.Breaker.Cooling
import Inventory.Proofs.Retry
import Inventory.Proofs.Breaker.Trial
import Inventory.Proofs.Settings
import Inventory.Proofs.Aggregate.Stamping
import Inventory.Proofs.Broker.Publication
import Inventory.Proofs.Registration
