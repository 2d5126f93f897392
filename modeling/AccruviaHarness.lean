import AccruviaHarness.Leases.Capacity
import AccruviaHarness.Leases.Ownership
import AccruviaHarness.Concurrency.TaskStatusWrites
import AccruviaHarness.Services.AttemptBudget
import AccruviaHarness.Control.Pause
import AccruviaHarness.Reviews.Clearance
import AccruviaHarness.Workflows.LifecycleWorkflow
import AccruviaHarness.Merging.MergeRollback
import AccruviaHarness.Promotion.DirectMain
import AccruviaHarness.Telemetry.Processes
import AccruviaHarness.Services.RunGuarantee
import AccruviaHarness.Skills.JsonExtraction
import AccruviaHarness.Skills.Enforcement
import AccruviaHarness.Skills.MaterializedPlans
import AccruviaHarness.Control.Budgets
import AccruviaHarness.Store.RecordReads
import AccruviaHarness.Control.NoProgress
import AccruviaHarness.Services.Affirmability
import AccruviaHarness.Services.WorkspaceCleanup
import AccruviaHarness.Services.IssueSync
import AccruviaHarness.Services.IssueIsolation
import AccruviaHarness.Reviews.ReviewSafety
import AccruviaHarness.Services.PlanLineage
import AccruviaHarness.Services.InheritedDispositions
import AccruviaHarness.Skills.EditFrames
import AccruviaHarness.Services.ImplementRounds
import AccruviaHarness.Services.HeartbeatSpacing
import AccruviaHarness.Services.OneShotSupervision
import AccruviaHarness.Services.WorkflowRuntimes
import AccruviaHarness.Services.AcceptanceAgreement
import AccruviaHarness.Promotion.StructuralFixSafety
import AccruviaHarness.Merging.GateTotality
import AccruviaHarness.Services.WorkerCalls
import AccruviaHarness.Mermaid.Reachability
import AccruviaHarness.Mermaid.RuleAcceptance
import AccruviaHarness.Mermaid.ExactReading
import AccruviaHarness.Skills.PathGrounding
import AccruviaHarness.Skills.SupersededSymbols
import AccruviaHarness.Services.QueueBatch
import AccruviaHarness.Services.WinnerSelection
import AccruviaHarness.Promotion.PathConfinement
import AccruviaHarness.Reviews.RemediationTasks
import AccruviaHarness.Llm.Router
import AccruviaHarness.Llm.AvailabilityGate
import AccruviaHarness.Control.BudgetRecovery
import AccruviaHarness.Control.StuckState
import AccruviaHarness.Llm.ExplorationPolicy
import AccruviaHarness.Config
import AccruviaHarness.Store.Timestamps
import AccruviaHarness.Concurrency.DiagramHistory
import AccruviaHarness.Concurrency.StartedRounds
import AccruviaHarness.Services.HeartbeatProposals
import AccruviaHarness.Services.ReviewWatching
import AccruviaHarness.TypedDomain
import AccruviaHarness.Store.Migrations
import AccruviaHarness.Services.RedTeamLoop
