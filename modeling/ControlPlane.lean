import ControlPlane.Programs
import ControlPlane.ProviderPort
import ControlPlane.Runs
import ControlPlane.Tables
import ControlPlane.Texts
import ControlPlane.Domain
import ControlPlane.Commands
import ControlPlane.EventValidation
import ControlPlane.WorkflowSchema
import ControlPlane.WorkflowStore
import ControlPlane.StoreRules
import ControlPlane.Fencing
import ControlPlane.Replays
import ControlPlane.Replayability
import ControlPlane.LifecycleWorkflow
import ControlPlane.SagaRules
import ControlPlane.Transitions
import ControlPlane.FailureClassification
import ControlPlane.ProviderBoundary
import ControlPlane.Orchestrator
import ControlPlane.Purge
import ControlPlane.Inheritance
import ControlPlane.Custody
import ControlPlane.Transactions
import ControlPlane.ControlSchema
import ControlPlane.Acceptance
import ControlPlane.ProjectionStore
import ControlPlane.AcceptanceRules
import ControlPlane.Lifecycle
import ControlPlane.Addresses
import ControlPlane.AddressPool
import ControlPlane.Retention
import ControlPlane.Quota
import ControlPlane.ProxmoxOwnership
import ControlPlane.ProxmoxProvider
import ControlPlane.ProxmoxRules
import ControlPlane.AdapterRefusals
import ControlPlane.ProxmoxNode
import ControlPlane.AdapterReadiness
import ControlPlane.CrashResume
import ControlPlane.OwnershipAgreement
import ControlPlane.TerminalAgreement
import ControlPlane.Snapshots
import ControlPlane.ReadModel
import ControlPlane.ActiveLifecycle
import ControlPlane.TopicOrder
import ControlPlane.ExactlyOnce
import ControlPlane.Shadowing
import ControlPlane.RequestValidation
import ControlPlane.ControlPlaneApplication
import ControlPlane.CommandRouting
import ControlPlane.CommandAgreement
import ControlPlane.CommandConsumer
import ControlPlane.Provenance
import ControlPlane.Platform
import ControlPlane.Rejections
import ControlPlane.Operations
import ControlPlane.EventAgreement
import ControlPlane.Exclusion
import ControlPlane.PurgeWindow
import ControlPlane.MutationGuard
import ControlPlane.PlanGate
import ControlPlane.DiskGrowth
import ControlPlane.VmidProbing
import ControlPlane.TerraformVariables
import ControlPlane.DeclarativeFrame
import ControlPlane.VmidAssignment
import ControlPlane.TerraformInventory
import ControlPlane.TerraformRunner
import ControlPlane.TerraformProvider
import ControlPlane.TerraformRules
import ControlPlane.BackgroundApply
import ControlPlane.Convergence
import ControlPlane.PowerAgreement
import ControlPlane.WorkingDirectories
import ControlPlane.RunFencing
import ControlPlane.Redaction
import ControlPlane.Numerals
import ControlPlane.Ipv4Allocation
import ControlPlane.PoolGrammar
import ControlPlane.AddressQuota
import ControlPlane.Reconciliation
import ControlPlane.SagaOrder
import ControlPlane.RetryPolicy
import ControlPlane.ResizeAcceptance
import ControlPlane.Claimability
import ControlPlane.JsonTexts
import ControlPlane.CanonicalJson
import ControlPlane.RepeatedSubmit
import ControlPlane.WorkspaceIsolation
import ControlPlane.IsoDates
import ControlPlane.WireTimestamps
import ControlPlane.WorkflowRegistry
import ControlPlane.SshKeys
import ControlPlane.JsonReading
import ControlPlane.MarkerCodec
import ControlPlane.TextEncodings
import ControlPlane.SeekPages
import ControlPlane.PageCursor
import ControlPlane.Listings
import ControlPlane.CursorAcceptance
import ControlPlane.NetworkListing
import ControlPlane.KeyExpiry
import ControlPlane.WireMessages
import ControlPlane.FakeRequests
import ControlPlane.FakeProvider
import ControlPlane.Drift
import ControlPlane.DriftAgreement
import ControlPlane.ProvenAbsence
import ControlPlane.ProxmoxWrites
import ControlPlane.Serializability
import ControlPlane.LockOrder
import ControlPlane.AcceptanceSessions
import ControlPlane.AcceptanceOrder
import ControlPlane.AcceptanceKeys
import ControlPlane.TenantIsolation
import ControlPlane.RequestHashes
import ControlPlane.KeyConflicts
import ControlPlane.ConsoleBff
import ControlPlane.ConsoleKeys
import ControlPlane.ConsoleSecrecy
import ControlPlane.RestRequests
import ControlPlane.TransportParity
