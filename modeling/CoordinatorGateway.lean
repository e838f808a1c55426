import CoordinatorGateway.Coordinator.Remote
import CoordinatorGateway.Coordinator.Scripted
import CoordinatorGateway.Gateway.Handle
import CoordinatorGateway.RateLimit.Sweeper
import CoordinatorGateway.Settings.Load
import CoordinatorGateway.Audit.Timestamp
import CoordinatorGateway.Proofs.RateLimit.Isolation
import CoordinatorGateway.Proofs.RateLimit.Windows
import CoordinatorGateway.Proofs.Launch.Orders
import CoordinatorGateway.Proofs.Launch.Stages
import CoordinatorGateway.Proofs.Launch.Requests
import CoordinatorGateway.Proofs.Supervisor.Moves
import CoordinatorGateway.Proofs.Supervisor.Operations
import CoordinatorGateway.Proofs.Supervisor.Runs
import CoordinatorGateway.Proofs.Supervisor.Shutdown
import CoordinatorGateway.Proofs.Supervisor.Starts
import CoordinatorGateway.Proofs.Supervisor.Undisturbed
import CoordinatorGateway.Proofs.Supervisor.Coordinators
import CoordinatorGateway.Proofs.Supervisor.WorkerIds
import CoordinatorGateway.Proofs.Supervisor.Survivors
import CoordinatorGateway.Proofs.Text.Pieces
import CoordinatorGateway.Proofs.Validation.Folders
import CoordinatorGateway.Proofs.Supervisor.InputsFolder
import CoordinatorGateway.Proofs.Redaction.Rewriting
import CoordinatorGateway.Proofs.Redaction.Rules
import CoordinatorGateway.Proofs.Redaction.Leftovers
import CoordinatorGateway.Proofs.Redaction.Redacted
import CoordinatorGateway.Proofs.Gateway.Sessions
import CoordinatorGateway.Proofs.Supervisor.Apart
import CoordinatorGateway.Proofs.Agreement
import CoordinatorGateway.Proofs.Gateway.Agreement
import CoordinatorGateway.Proofs.Gateway.Capacities
import CoordinatorGateway.Proofs.Coordinator.Races
import CoordinatorGateway.Proofs.Coordinator.Alike
import CoordinatorGateway.Proofs.Gateway.Discretion
import CoordinatorGateway.Proofs.Gateway.Endpoints
import CoordinatorGateway.Proofs.Text.Words
import CoordinatorGateway.Proofs.Redaction.KeptWords
import CoordinatorGateway.Proofs.Redaction.Addresses
import CoordinatorGateway.Proofs.Validation.Bases
import CoordinatorGateway.Proofs.Gateway.InputRoots
import CoordinatorGateway.Proofs.Supervisor.ChildPaths
import CoordinatorGateway.Proofs.Wire.RoundTrip
import CoordinatorGateway.Proofs.Coordinator.Peer
import CoordinatorGateway.Proofs.Launch.Refusals
import CoordinatorGateway.Proofs.Gateway.Exclusion
import CoordinatorGateway.Proofs.Gateway.Questions
import CoordinatorGateway.Proofs.Wire.Messages
import CoordinatorGateway.Proofs.Gateway.Forwarding
import CoordinatorGateway.Proofs.Audit.Notes
import CoordinatorGateway.Proofs.Audit.Processes
import CoordinatorGateway.Proofs.Audit.Launches
import CoordinatorGateway.Proofs.Gateway.Audit
import CoordinatorGateway.Proofs.Supervisor.FailedStarts
import CoordinatorGateway.Proofs.Validation.NormalForms
import CoordinatorGateway.Proofs.Processes.Listing
import CoordinatorGateway.Proofs.Supervisor.Targets
import CoordinatorGateway.Proofs.Json.Digits
import CoordinatorGateway.Proofs.Json.Strings
import CoordinatorGateway.Proofs.Launch.CapacityTexts
import CoordinatorGateway.Proofs.Files.Walks
import CoordinatorGateway.Proofs.Programs.Search
import CoordinatorGateway.Proofs.Supervisor.Status
import CoordinatorGateway.Proofs.Supervisor.Bystanders
import CoordinatorGateway.Proofs.Supervisor.Escalation
import CoordinatorGateway.Proofs.Processes.Execution
import CoordinatorGateway.Proofs.Supervisor.LocatedPrograms
import CoordinatorGateway.Proofs.Json.Objects
import CoordinatorGateway.Proofs.Failures
import CoordinatorGateway.Proofs.RateLimit.RetryHints
import CoordinatorGateway.Proofs.Gateway.Parameters
import CoordinatorGateway.Proofs.Supervisor.WorkerStatus
import CoordinatorGateway.Proofs.Coordinator.Details
import CoordinatorGateway.Proofs.RateLimit.Sweeps
import CoordinatorGateway.Proofs.Settings.Blanks
import CoordinatorGateway.Proofs.Settings.Rules
import CoordinatorGateway.Proofs.Coordinator.Address
import CoordinatorGateway.Proofs.Supervisor.CommandLines
import CoordinatorGateway.Proofs.Supervisor.Interleavings
