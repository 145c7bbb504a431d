import BuildScheduler.Daemon
import BuildScheduler.Kubernetes.Watch
import BuildScheduler.Main
import BuildScheduler.Proofs.Launch.Protocol
import BuildScheduler.Proofs.Launch.Exits
import BuildScheduler.Proofs.Launch.Moves
import BuildScheduler.Proofs.Resubmission.Accounting
import BuildScheduler.Proofs.Concurrency.Crew
import BuildScheduler.Proofs.Concurrency.Ownership
import BuildScheduler.Proofs.Concurrency.Phases
import BuildScheduler.Proofs.Concurrency.OneBuild
import BuildScheduler.Proofs.History
import BuildScheduler.Proofs.Locks.Answers
import BuildScheduler.Proofs.Launch.Course
import BuildScheduler.Proofs.Resubmission.Launches
import BuildScheduler.Proofs.Runs.LockHistory
import BuildScheduler.Proofs.Identifiers
import BuildScheduler.Proofs.Resubmission.Effect
import BuildScheduler.Proofs.Retry.Success
import BuildScheduler.Proofs.Kubernetes.Creation
import BuildScheduler.Proofs.Deferral.Insertions
import BuildScheduler.Proofs.Reaper.Reconnection
import BuildScheduler.Proofs.Runs.LockNames
import BuildScheduler.Proofs.Json.Members
import BuildScheduler.Proofs.Json.Values
import BuildScheduler.Proofs.Config.Accepted
import BuildScheduler.Proofs.Container.PassThrough
import BuildScheduler.Proofs.Kubernetes.Conversion
import BuildScheduler.Proofs.Launch.Likeness
import BuildScheduler.Proofs.Launch.Twins
import BuildScheduler.Proofs.Runs.Identifiers
import BuildScheduler.Proofs.Runs.LaunchIdentities
import BuildScheduler.Proofs.Launch.Branches
import BuildScheduler.Proofs.Locks.Expiry
import BuildScheduler.Proofs.Kubernetes.Admission
import BuildScheduler.Proofs.RoundTrip.Stored
import BuildScheduler.Proofs.Config.Mistyped
import BuildScheduler.Proofs.Deferral.Rows
import BuildScheduler.Proofs.Retry.Schedule
import BuildScheduler.Proofs.Kubernetes.Calls
import BuildScheduler.Proofs.Pods.Assembly
import BuildScheduler.Proofs.Pods.Labels
import BuildScheduler.Proofs.Config.Order
import BuildScheduler.Proofs.Resubmission.Shutdown
