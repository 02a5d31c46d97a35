import LabLifecycle.Engine.Scripted
import LabLifecycle.Main
import LabLifecycle.Proofs.Call.Cancellation
import LabLifecycle.Proofs.Call.CancelledStart
import LabLifecycle.Proofs.Call.CommandVisits
import LabLifecycle.Proofs.Call.Executions
import LabLifecycle.Proofs.Call.ExperimentChanges
import LabLifecycle.Proofs.Call.Independence
import LabLifecycle.Proofs.Call.InertEntries
import LabLifecycle.Proofs.Call.InitResults
import LabLifecycle.Proofs.Call.Invariants
import LabLifecycle.Proofs.Call.Limits
import LabLifecycle.Proofs.Call.Reports
import LabLifecycle.Proofs.Call.Results
import LabLifecycle.Proofs.Call.ToldOptions
import LabLifecycle.Proofs.Cancel.Requests
import LabLifecycle.Proofs.Cli.DryRuns
import LabLifecycle.Proofs.Cli.Publishing
import LabLifecycle.Proofs.Experiment.Completion
import LabLifecycle.Proofs.Hook.ExternalCommand
import LabLifecycle.Proofs.Hook.Launches
import LabLifecycle.Proofs.Hook.Overlooking
import LabLifecycle.Proofs.Hook.Stateless
import LabLifecycle.Proofs.Host.CommandSearch
import LabLifecycle.Proofs.Host.FileWriting
import LabLifecycle.Proofs.Registry.Expectations
import LabLifecycle.Proofs.Registry.Names
import LabLifecycle.Proofs.Settings.Decoding
import LabLifecycle.Proofs.Status.ConsoleLines
import LabLifecycle.Proofs.Status.Records
import LabLifecycle.Proofs.Status.RunIdOrder
