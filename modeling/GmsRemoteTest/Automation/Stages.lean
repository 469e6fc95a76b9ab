import GmsRemoteTest.Automation.RunStore

/-! What `_advance_run` decides: for an unfinished run the stage it starts, and for the answer of a
stage the change of the row it asks for. -/
namespace GmsRemoteTest.Automation
open Text

inductive ExecutorCall
  | triggerBuild | pollBuild | selectArtifact | selectDevices | flash | verifyPostFlash | aoaRecover | startTest | pollTest
  | collectReport | analyzeReport | reportResult | cancel | releaseResources
deriving DecidableEq, Repr

def AutomationRun.hasBuild (run : AutomationRun) : Bool :=
  run.testPlan.buildProvider ≠ "" || run.testPlan.buildServerId ≠ "" || run.testPlan.buildTemplateId ≠ ""

def ResultJson.verified (result : ResultJson) : Bool := (result.postFlash.map (·.verified)) == some .yes

inductive Opening
  | ended
  | move (target : RunStatus)
  | call (call : ExecutorCall)
deriving DecidableEq, Repr

def RunStatus.stageCall : RunStatus → Option ExecutorCall
  | .jenkinsQueued => some .triggerBuild
  | .jenkinsBuilding => some .pollBuild
  | .artifactReady => some .selectArtifact
  | .waitingDevice => some .selectDevices
  | .flashing => some .flash
  | .postFlashVerifying => some .verifyPostFlash
  | .aoaRecovering => some .aoaRecover
  | .testing => some .startTest
  | .testRunning => some .pollTest
  | .reportCollecting => some .collectReport
  | .analyzing => some .analyzeReport
  | .reporting => some .reportResult
  | _ => none

def opening (aoaEnabled : AutomationRun → Bool) (run : AutomationRun) : Opening :=
  match run.status with
  | .queued => .move (if run.jenkinsJob ≠ "" ∨ run.hasBuild = true then .jenkinsQueued else .waitingDevice)
  | .deviceLocked => .move .flashing
  | .flashCompleted => .move (if aoaEnabled run then .aoaRecovering else .postFlashVerifying)
  | .flashVerified =>
    .move (if run.resultJson.verified then .testing else if aoaEnabled run then .aoaRecovering else .postFlashVerifying)
  | status => match status.stageCall with
    | some call => .call call
    | none => .ended

def stripColons (text : String) : String :=
  String.ofList (((text.toList.dropWhile (· = ':')).reverse.dropWhile (· = ':')).reverse)

def collectedSnapshot (summary : Summary) (report : Report) : Summary :=
  { outcome := report.outcome.or summary.outcome
    retryDir := report.sourceTimestamp.getD summary.retryDir
    retryWorkerId := report.workerId }

inductive Next
  | stay (columns : Columns)
  | move (target : RunStatus) (columns : Columns)
  | fail (target : RunStatus) (error : String) (reconcile : Bool)
deriving DecidableEq, Repr

def Answer.failing (answer : Answer) (target : RunStatus) (error : String) : Next :=
  .fail target (answer.error.getD error) answer.reconcileRequired.holds

def Answer.buildArtifactId (answer : Answer) : String :=
  orElse answer.artifactId
    (stripColons (answer.jenkinsBuildNumber.getD "" ++ ":" ++ orElse (answer.artifactPath.getD "") (answer.artifactUrl.getD "")))

def settle (run : AutomationRun) (answer : Answer) (now : String) : Next :=
  match run.status with
  | .jenkinsQueued =>
    if answer.success.holds = false then answer.failing .jenkinsFailed "Jenkins trigger failed"
    else
      .move .jenkinsBuilding
        { jenkinsQueueUrl := some (answer.jenkinsQueueUrl.getD "")
          jenkinsBuildNumber := some (answer.jenkinsBuildNumber.getD "")
          jenkinsBuildUrl := some (answer.jenkinsBuildUrl.getD "") }
  | .jenkinsBuilding =>
    if answer.success.holds = false then answer.failing .jenkinsFailed "Firmware build failed"
    else if answer.building.holds then .stay {}
    else if answer.result ≠ "" ∧ answer.result ≠ "SUCCESS" then
      .fail .jenkinsFailed ("Jenkins build result: " ++ answer.result) answer.reconcileRequired.holds
    else
      .move .artifactReady
        { jenkinsQueueUrl := some (answer.jenkinsQueueUrl.getD run.jenkinsQueueUrl)
          jenkinsBuildNumber := some (answer.jenkinsBuildNumber.getD run.jenkinsBuildNumber)
          jenkinsBuildUrl := some (answer.jenkinsBuildUrl.getD run.jenkinsBuildUrl)
          artifactUrl := some (answer.artifactUrl.getD run.artifactUrl)
          artifactPath := some (answer.artifactPath.getD run.artifactPath)
          buildArtifactId := some answer.buildArtifactId }
  | .artifactReady =>
    if answer.success.holds = false then answer.failing .artifactMissing "artifact missing"
    else
      .move .waitingDevice
        { artifactUrl := some (answer.artifactUrl.getD "")
          artifactPath := some (answer.artifactPath.getD run.artifactPath) }
  | .waitingDevice =>
    if answer.success.holds = false then
      -- no idle devices yet: the worker retries, and enforces a timeout
      if answer.retry.holds then .stay {} else answer.failing .failed "device selection failed"
    else
      .move .deviceLocked
        { devices := some answer.devices
          workerId := some (answer.workerId.getD run.workerId)
          deviceReservationId := some (answer.reservationId.getD "") }
  | .flashing =>
    if answer.success.holds = false then answer.failing .flashFailed "flash failed"
    else
      let columns : Columns :=
        { flashStageId := some (answer.stageId.getD run.flashStageId)
          flashCommandId := some (answer.commandId.getD run.flashCommandId) }
      if answer.running.holds then .stay columns else .move .flashCompleted columns
  | .postFlashVerifying =>
    if answer.running.holds then .stay {}
    else if answer.success ≠ .yes ∨ answer.verified ≠ .yes then answer.failing .flashFailed "post-flash verification failed"
    else .move .flashVerified {resultJson := some {run.resultJson with postFlash := some answer}}
  | .aoaRecovering =>
    let columns : Columns := {aoaCommandId := some (answer.commandId.getD run.aoaCommandId)}
    if answer.success.holds = false then answer.failing .aoaFailed "AOA recovery failed"
    else if answer.running.holds then .stay columns
    else if answer.aoaResult.success ≠ .yes ∨ answer.aoaResult.adbRecovered ≠ .yes ∨ answer.aoaResult.adbState ≠ "device" then
      .fail .aoaFailed "AOA recovery did not verify ADB online" true
    else .move .postFlashVerifying columns
  | .testing =>
    if answer.success.holds = false then answer.failing .testFailed "test failed"
    else
      .move .testRunning
        { resultJson := some {run.resultJson with testStart := some answer}
          clusterJobId := some (answer.clusterJobId.getD "")
          attemptId := some (answer.attemptId.getD "") }
  | .testRunning =>
    if answer.success.holds = false then answer.failing .testFailed "test failed"
    else if answer.running.holds then .stay {}
    else
      .move .reportCollecting
        { reportTimestamp := some (answer.reportTimestamp.getD "")
          reportId := some (answer.reportId.getD "") }
  | .reportCollecting =>
    if answer.success.holds = false then
      if answer.retry.holds then .stay {} else answer.failing .testFailed "report collection failed"
    else
      .move .analyzing
        { reportTimestamp := some (answer.reportTimestamp.getD "")
          reportId := some (answer.reportId.getD run.reportId)
          summary := some (collectedSnapshot run.summary answer.report) }
  | .analyzing =>
    if answer.success.holds = false then answer.failing .analysisFailed "analysis failed"
    else
      .move .reporting
        { resultJson := some {run.resultJson with analysis := some answer}
          summary := some {run.summary with outcome := answer.outcome.or run.summary.outcome} }
  | .reporting =>
    if answer.success.holds = false then answer.failing .reportingFailed "result reporting failed"
    else .move .completed {finishedAt := some now}
  -- no other status has a stage that answers
  | _ => .stay {}

section
variable {aoaEnabled : AutomationRun → Bool} {run : AutomationRun} {answer : Answer} {now : String} {target : RunStatus}

theorem opening_allowed (moved : opening aoaEnabled run = .move target) : run.status.allows target := by
  cases status : run.status <;> simp only [opening,RunStatus.stageCall,status,reduceCtorEq,Opening.move.injEq] at moved
  all_goals
    subst moved
    repeat' split
    all_goals decide

theorem opening_call {call : ExecutorCall} (asked : opening aoaEnabled run = .call call) : run.status.stageCall = some call := by
  cases status : run.status <;> simp only [opening,RunStatus.stageCall,status,reduceCtorEq,Opening.call.injEq] at asked ⊢
  all_goals exact congrArg some asked

theorem settle_allowed {columns : Columns} (moved : settle run answer now = .move target columns) : run.status.allows target := by
  unfold settle Answer.failing at moved
  split at moved
  all_goals
    rename_i status
    repeat' (split at moved)
    all_goals first
      | cases moved; rw [status]; decide
      | cases moved

theorem settle_fail {error : String} {reconcile : Bool} (failed : settle run answer now = .fail target error reconcile) :
    target.terminal = true ∧ run.status.allows target := by
  unfold settle Answer.failing at failed
  split at failed
  all_goals
    rename_i status
    repeat' (split at failed)
    all_goals first
      | cases failed; rw [status]; decide
      | cases failed

end

end GmsRemoteTest.Automation
