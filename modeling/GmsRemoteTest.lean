import GmsRemoteTest.Auth.Accounts
import GmsRemoteTest.Auth.RateLimit
import GmsRemoteTest.Automation.ExecutionPolicy
import GmsRemoteTest.Automation.PlanBatches
import GmsRemoteTest.Automation.PlanSchedule
import GmsRemoteTest.Automation.QueueRotation
import GmsRemoteTest.Automation.ReservationLeak
import GmsRemoteTest.Automation.RunAuthority
import GmsRemoteTest.Automation.RunHistory
import GmsRemoteTest.Build.QueueSweep
import GmsRemoteTest.Cluster.AttemptOutcome
import GmsRemoteTest.Cluster.CommandDelivery
import GmsRemoteTest.Cluster.CommandFinality
import GmsRemoteTest.Cluster.DebugQueue
import GmsRemoteTest.Cluster.ExclusiveHost
import GmsRemoteTest.Cluster.HeartbeatRenewal
import GmsRemoteTest.Cluster.JobReplays
import GmsRemoteTest.Cluster.LeaseOwnership
import GmsRemoteTest.Cluster.LockExclusion
import GmsRemoteTest.Cluster.ReconcileContract
import GmsRemoteTest.Cluster.RetentionContract
import GmsRemoteTest.Cluster.StopAck
import GmsRemoteTest.Cluster.SubmissionFailure
import GmsRemoteTest.Cluster.TransferContract
import GmsRemoteTest.Cluster.TransitionHistory
import GmsRemoteTest.Devices.Generations
import GmsRemoteTest.Devices.OperationGate
import GmsRemoteTest.Devices.RouteContract
import GmsRemoteTest.Devices.ScrcpyRelay
import GmsRemoteTest.Devices.UsbipPortAgreement
import GmsRemoteTest.Firmware.BurnRequest
import GmsRemoteTest.Firmware.GsiBurn
import GmsRemoteTest.Firmware.LocalFlash
import GmsRemoteTest.Foundation.ArchiveRoots
import GmsRemoteTest.Foundation.AuditChain
import GmsRemoteTest.Foundation.CacheLoads
import GmsRemoteTest.Foundation.ConvertCommands
import GmsRemoteTest.Foundation.JobEnv
import GmsRemoteTest.Foundation.RuntimeUpdate
import GmsRemoteTest.Foundation.UnlockCalls
import GmsRemoteTest.Ops.AlertDelivery
import GmsRemoteTest.Redmine.AiExecutionLedger
import GmsRemoteTest.Redmine.AnalysisEvents
import GmsRemoteTest.Redmine.AssertionLine
import GmsRemoteTest.Redmine.CancelFlag
import GmsRemoteTest.Redmine.OwnerMigration
import GmsRemoteTest.Redmine.StartedRuns
import GmsRemoteTest.Scripts.ExtractVerified
import GmsRemoteTest.Scripts.SpecArguments
import GmsRemoteTest.WorkerAgent.CommandEvents
import GmsRemoteTest.WorkerAgent.Fencing
import GmsRemoteTest.WorkerAgent.LaunchOnce
import GmsRemoteTest.WorkerAgent.LogContract
import GmsRemoteTest.WorkerAgent.Playback
import GmsRemoteTest.WorkerAgent.PlaybackRuns
import GmsRemoteTest.WorkerNative.UsbipOutcome
