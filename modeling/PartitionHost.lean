import PartitionHost.Main
import PartitionHost.Proofs.Bucket.Contention
import PartitionHost.Proofs.Bucket.Ledger
import PartitionHost.Proofs.Bucket.Revisions
import PartitionHost.Proofs.Checkpoint.Engines
import PartitionHost.Proofs.Checkpoint.Fencing
import PartitionHost.Proofs.Checkpoint.Origin
import PartitionHost.Proofs.Checkpoint.Seeding
import PartitionHost.Proofs.CommandLine.Command
import PartitionHost.Proofs.Host.Announcements
import PartitionHost.Proofs.Host.Congestion
import PartitionHost.Proofs.Host.Departure
import PartitionHost.Proofs.Host.Exactness
import PartitionHost.Proofs.Host.Losses
import PartitionHost.Proofs.Host.Neighbours
import PartitionHost.Proofs.Host.Progress
import PartitionHost.Proofs.Host.Provision
import PartitionHost.Proofs.Host.Relinquishing
import PartitionHost.Proofs.Host.Timely
import PartitionHost.Proofs.Hub.Lookup
import PartitionHost.Proofs.Lease.Contest
import PartitionHost.Proofs.Lease.Engines
import PartitionHost.Proofs.Lease.Exclusive
import PartitionHost.Proofs.Lease.Failover
import PartitionHost.Proofs.Lease.Linear
import PartitionHost.Proofs.Lease.Tenure
import PartitionHost.Proofs.RecordLayout
import PartitionHost.Proofs.Retry.Node
import PartitionHost.Scenario
import PartitionHost.Session.Clocked
import PartitionHost.Stopwatch
