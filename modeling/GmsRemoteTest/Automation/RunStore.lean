import Mathlib.Data.Prod.Lex
import Mathlib.Data.String.Basic
import GmsRemoteTest.Automation.PlanStore

/-! Rows of `automation_runs` with the columns the pipeline works on, the executor answers that are
kept in them, and the operations of the run store. Each operation is one transaction; a time is the
text `utc_now_iso` gives, and the empty text stands for no time. -/
namespace GmsRemoteTest.Automation
open Text

/-- What `answer.get(..)` finds: nothing truthy, something truthy, or `True` itself. -/
inductive Flag
  | unset | truthy | yes
deriving DecidableEq, Repr

def Flag.holds : Flag → Bool
  | .unset => false
  | .truthy | .yes => true

/-- `aoa_result`; one that is no object counts as empty. -/
structure AoaResult where
  success : Flag := .unset
  adbRecovered : Flag := .unset
  adbState : String := ""
deriving DecidableEq, Repr

/-- What `_report_snapshot` takes from a collected report. -/
structure Report where
  outcome : Option TestOutcome := none
  sourceTimestamp : Option String := none
  workerId : String := ""
deriving DecidableEq, Repr

/-- An answer of the executor. `outcome` is what `report_snapshot` finds in the answer as a whole. -/
structure Answer where
  success : Flag := .unset
  error : Option String := none
  running : Flag := .unset
  building : Flag := .unset
  retry : Flag := .unset
  reconcileRequired : Flag := .unset
  verified : Flag := .unset
  result : String := ""
  jenkinsQueueUrl : Option String := none
  jenkinsBuildNumber : Option String := none
  jenkinsBuildUrl : Option String := none
  artifactUrl : Option String := none
  artifactPath : Option String := none
  artifactId : String := ""
  devices : List String := []
  workerId : Option String := none
  reservationId : Option String := none
  stageId : Option String := none
  commandId : Option String := none
  aoaResult : AoaResult := {}
  clusterJobId : Option String := none
  attemptId : Option String := none
  reportTimestamp : Option String := none
  reportId : Option String := none
  report : Report := {}
  outcome : Option TestOutcome := none
deriving DecidableEq, Repr

/-- The entries of `result_json`. -/
structure ResultJson where
  postFlash : Option Answer := none
  testStart : Option Answer := none
  analysis : Option Answer := none
  stageStartedAt : String := ""
deriving DecidableEq, Repr

/-- The entries of `test_plan_json` that the pipeline and its device stages read. -/
structure RunPlan where
  buildProvider : String := ""
  buildServerId : String := ""
  buildTemplateId : String := ""
  flashMode : String := ""
  aoaMode : String := ""
deriving DecidableEq, Repr

structure AutomationRun extends Run where
  stateVersion : Nat := 1
  recoveryCount : Nat := 0
  lastRecoveredAt : String := ""
  owner : String := ""
  createdBy : String := ""
  currentStage : RunStatus := .queued
  jenkinsJob : String := ""
  jenkinsQueueUrl : String := ""
  jenkinsBuildNumber : String := ""
  jenkinsBuildUrl : String := ""
  artifactUrl : String := ""
  artifactPath : String := ""
  buildArtifactId : String := ""
  deviceReservationId : String := ""
  flashStageId : String := ""
  flashCommandId : String := ""
  aoaCommandId : String := ""
  clusterJobId : String := ""
  attemptId : String := ""
  devices : List String := []
  testPlan : RunPlan := {}
  reportTimestamp : String := ""
  resultJson : ResultJson := {}
  error : String := ""
  createdAt : String := ""
  updatedAt : String := ""
  finishedAt : String := ""
  leaseExpiresAt : String := ""
  notBefore : String := ""
deriving DecidableEq, Repr

structure RunRequest where
  sourceType : SourceType := .other "manual"
  sourceKey : String := ""
  owner : String := ""
  createdBy : String := ""
  jenkinsJob : String := ""
  artifactUrl : String := ""
  artifactPath : String := ""
  workerId : String := ""
  devices : List String := []
  testSuite : String := ""
  testPlan : RunPlan := {}
  retryOf : Option String := none
  retryRoot : Option String := none
  retryIndex : Nat := 0
  retryLimit : Nat := 0
  planId : Option String := none
  planBatchId : Option String := none
  notBefore : String := ""
deriving DecidableEq, Repr

def RunRequest.toRunDict (request : RunRequest) (id now : String) : AutomationRun :=
  { id := id, sourceType := request.sourceType, sourceKey := request.sourceKey, status := .queued, startedAt := ""
    leaseOwner := "", workerId := request.workerId, reportId := "", testSuite := request.testSuite
    summary := ⟨none,"",""⟩, retryOf := request.retryOf, retryRoot := request.retryRoot
    retryIndex := request.retryIndex, retryLimit := request.retryLimit, followup := .undecided
    planId := request.planId, planBatchId := request.planBatchId, owner := request.owner, createdBy := request.createdBy
    jenkinsJob := request.jenkinsJob, artifactUrl := request.artifactUrl, artifactPath := request.artifactPath
    devices := request.devices, testPlan := request.testPlan, notBefore := request.notBefore, createdAt := now
    updatedAt := now }

structure Columns where
  startedAt : Option String := none
  finishedAt : Option String := none
  error : Option String := none
  jenkinsQueueUrl : Option String := none
  jenkinsBuildNumber : Option String := none
  jenkinsBuildUrl : Option String := none
  artifactUrl : Option String := none
  artifactPath : Option String := none
  buildArtifactId : Option String := none
  workerId : Option String := none
  devices : Option (List String) := none
  deviceReservationId : Option String := none
  flashStageId : Option String := none
  flashCommandId : Option String := none
  aoaCommandId : Option String := none
  clusterJobId : Option String := none
  attemptId : Option String := none
  reportTimestamp : Option String := none
  reportId : Option String := none
  resultJson : Option ResultJson := none
  summary : Option Summary := none
deriving DecidableEq, Repr

def Columns.apply (columns : Columns) (run : AutomationRun) : AutomationRun :=
  {run with
    startedAt := columns.startedAt.getD run.startedAt
    finishedAt := columns.finishedAt.getD run.finishedAt
    error := columns.error.getD run.error
    jenkinsQueueUrl := columns.jenkinsQueueUrl.getD run.jenkinsQueueUrl
    jenkinsBuildNumber := columns.jenkinsBuildNumber.getD run.jenkinsBuildNumber
    jenkinsBuildUrl := columns.jenkinsBuildUrl.getD run.jenkinsBuildUrl
    artifactUrl := columns.artifactUrl.getD run.artifactUrl
    artifactPath := columns.artifactPath.getD run.artifactPath
    buildArtifactId := columns.buildArtifactId.getD run.buildArtifactId
    workerId := columns.workerId.getD run.workerId
    devices := columns.devices.getD run.devices
    deviceReservationId := columns.deviceReservationId.getD run.deviceReservationId
    flashStageId := columns.flashStageId.getD run.flashStageId
    flashCommandId := columns.flashCommandId.getD run.flashCommandId
    aoaCommandId := columns.aoaCommandId.getD run.aoaCommandId
    clusterJobId := columns.clusterJobId.getD run.clusterJobId
    attemptId := columns.attemptId.getD run.attemptId
    reportTimestamp := columns.reportTimestamp.getD run.reportTimestamp
    reportId := columns.reportId.getD run.reportId
    resultJson := columns.resultJson.getD run.resultJson
    summary := columns.summary.getD run.summary}

namespace RunStore

def getRun (runs : List AutomationRun) (id : String) : Option AutomationRun := Table.fetch (·.id = id) runs

def createRun (runs : List AutomationRun) (run : AutomationRun) : List AutomationRun :=
  if ∃ old ∈ runs, old.id = run.id ∨ run.sourceKey ≠ "" ∧ old.sourceKey = run.sourceKey then runs else runs++[run]

def leaseFree (now : String) (run : AutomationRun) : Prop :=
  run.leaseOwner = "" ∨ run.leaseExpiresAt = "" ∨ run.leaseExpiresAt < now

instance (now : String) (run : AutomationRun) : Decidable (leaseFree now run) := inferInstanceAs (Decidable (_ ∨ _ ∨ _))

def due (now : String) (run : AutomationRun) : Prop := run.notBefore = "" ∨ run.notBefore ≤ now

instance (now : String) (run : AutomationRun) : Decidable (due now run) := inferInstanceAs (Decidable (_ ∨ _))

/-- The runs `claim_next_active` chooses from. -/
def Eligible (now : String) (run : AutomationRun) : Prop :=
  run.status.terminal = false ∧ due now run ∧ leaseFree now run

instance (now : String) (run : AutomationRun) : Decidable (Eligible now run) := inferInstanceAs (Decidable (_ ∧ _ ∧ _))

def queueKey (run : AutomationRun) : String ×ₗ String ×ₗ String := toLex (run.updatedAt,toLex (run.createdAt,run.id))

/-- The `SET` of both claims. A lease that is taken from another owner counts as a recovery. -/
def claimed (owner now expiry : String) (run : AutomationRun) : AutomationRun :=
  let recovered := run.leaseOwner ≠ "" ∧ run.leaseOwner ≠ owner
  {run with
    leaseOwner := owner
    leaseExpiresAt := expiry
    recoveryCount := if recovered then run.recoveryCount+1 else run.recoveryCount
    lastRecoveredAt := if recovered then now else run.lastRecoveredAt}

def claimNextActive (runs : List AutomationRun) (owner now expiry : String) : Option String × List AutomationRun :=
  match ((Table.select (Eligible now) runs).insertionSort fun first second => queueKey first ≤ queueKey second).head? with
  | none => (none,runs)
  | some row => (some row.id,Table.update (fun run => run.id = row.id ∧ leaseFree now run) (claimed owner now expiry) runs)

def claimable (id owner now : String) (run : AutomationRun) : Prop :=
  run.id = id ∧ (run.leaseOwner = owner ∨ leaseFree now run) ∧ due now run

instance (id owner now : String) (run : AutomationRun) : Decidable (claimable id owner now run) :=
  inferInstanceAs (Decidable (_ ∧ _ ∧ _))

def claimRun (runs : List AutomationRun) (id owner now expiry : String) : Bool × List AutomationRun :=
  (∃ run ∈ runs, claimable id owner now run,Table.update (claimable id owner now) (claimed owner now expiry) runs)

def releaseClaim (runs : List AutomationRun) (id owner : String) : List AutomationRun :=
  Table.update (fun run : AutomationRun => run.id = id ∧ run.leaseOwner = owner)
    (fun run => {run with leaseOwner := "", leaseExpiresAt := ""}) runs

def renewClaim (runs : List AutomationRun) (id owner expiry : String) : List AutomationRun :=
  Table.update (fun run : AutomationRun => run.id = id ∧ run.leaseOwner = owner)
    (fun run => {run with leaseExpiresAt := expiry}) runs

def written (target : RunStatus) (columns : Columns) (now : String) (run : AutomationRun) : AutomationRun :=
  {columns.apply run with
    status := target
    currentStage := if target = run.status then run.currentStage else target
    stateVersion := if target = run.status then run.stateVersion else run.stateVersion+1
    updatedAt := now}

def updateRunIfStatus (runs : List AutomationRun) (id : String) (expected target : RunStatus) (columns : Columns) (now : String) :
    Bool × List AutomationRun :=
  if expected.allows target then
    (∃ run ∈ runs, run.id = id ∧ run.status = expected,
      Table.update (fun run : AutomationRun => run.id = id ∧ run.status = expected) (written target columns now) runs)
  else (false,runs)

def stopPending (runs : List AutomationRun) (batchId now : String) : List AutomationRun :=
  Table.update (fun run : AutomationRun => run.toRun.pendingRetry batchId) (fun run => {run with
    status := .cancelled
    currentStage := .cancelled
    followup := .done
    finishedAt := now
    updatedAt := now
    stateVersion := run.stateVersion+1}) runs

end RunStore
end GmsRemoteTest.Automation
