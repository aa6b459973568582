import ControlPlane.Autonomy.AllOrNothing
import ControlPlane.Autonomy.Capacity
import ControlPlane.Autonomy.Completion
import ControlPlane.Autonomy.Confinement
import ControlPlane.Autonomy.Containment
import ControlPlane.Autonomy.DispatchRetries
import ControlPlane.Autonomy.CrashRecovery
import ControlPlane.Autonomy.Grants
import ControlPlane.Autonomy.ExternalAtomic
import ControlPlane.Autonomy.ExternalDispatches
import ControlPlane.Autonomy.ExternalIsolation
import ControlPlane.Autonomy.ExternalProvider
import ControlPlane.Autonomy.ExternalRevocation
import ControlPlane.Autonomy.ExternalSessions
import ControlPlane.Autonomy.Fencing
import ControlPlane.Autonomy.HumanGate
import ControlPlane.Autonomy.LeaseRouting
import ControlPlane.Autonomy.LocalCalls
import ControlPlane.Autonomy.LocalDispatches
import ControlPlane.Autonomy.LocalSessions
import ControlPlane.Autonomy.OrphanLeases
import ControlPlane.Autonomy.PlanHash
import ControlPlane.Autonomy.Reconcile
import ControlPlane.Autonomy.ProjectionAgreement
import ControlPlane.Autonomy.RecoveryFencing
import ControlPlane.Autonomy.Retry
import ControlPlane.Autonomy.Terminal
import ControlPlane.Interleaving.Protocol
import ControlPlane.Directive.ApprovalUses
import ControlPlane.Directive.AuditWords
import ControlPlane.Directive.LeaseExclusion
import ControlPlane.Directive.DurableReload
import ControlPlane.Directive.KillswitchHalt
import ControlPlane.Directive.KillswitchResumes
import ControlPlane.Directive.ExecutionEvidence
import ControlPlane.Directive.QueueDamage
import ControlPlane.Directive.QueueInstances
import ControlPlane.Directive.InboxDrain
import ControlPlane.Directive.AckOutcome
import ControlPlane.StateMachine.EvidenceOrder
import ControlPlane.Autonomy.MessageIds
import ControlPlane.Autonomy.QueueGrowth
import ControlPlane.Autonomy.Residue
import ControlPlane.Autonomy.ServiceRuns
import ControlPlane.Directive.GovernanceSources
import ControlPlane.Directive.DerivedIdentities
import ControlPlane.Engine.RemotePublication
import ControlPlane.Directive.SignerAuthorization
import ControlPlane.Directive.AckContainment
import ControlPlane.Directive.LedgerDurability
import ControlPlane.Data.SlidingWindow
import ControlPlane.Directive.Notifications
import ControlPlane.Directive.RetryStorms
import ControlPlane.Data.PythonTree
import ControlPlane.Directive.HardcodeScanner
import ControlPlane.Directive.CheckpointOrigins
import ControlPlane.Autonomy.SignedFrames
import ControlPlane.Directive.SafeRecovery
import ControlPlane.Directive.Revalidations
import ControlPlane.Autonomy.QueueReadiness
import ControlPlane.Autonomy.VerifierContract
import ControlPlane.Autonomy.PayloadBinding
import ControlPlane.Autonomy.ExactlyOnce
import ControlPlane.Autonomy.Permanence
import ControlPlane.Autonomy.LeaseHistory
import ControlPlane.Engine.Observation
import ControlPlane.Engine.Sweeps
