import GmsRemoteTest.Lib.Table
import GmsRemoteTest.Foundation.Text

/-! Test plans, their batches and the automation runs, with the operations of the plan store. Each
operation is one transaction: it returns the tables it commits, or fails and leaves them as they are. -/
namespace GmsRemoteTest.Automation
open Text

inductive RunStatus
  | queued | jenkinsQueued | jenkinsBuilding | artifactReady | waitingDevice | deviceLocked | flashing | flashCompleted
  | postFlashVerifying | flashVerified | aoaRecovering | testing | testRunning | reportCollecting | analyzing | reporting
  | completed | cancelled | failed | jenkinsFailed | artifactMissing | flashFailed | aoaFailed | testFailed | analysisFailed
  | reportingFailed
deriving DecidableEq, Repr

/-- `TERMINAL_STATUSES`. -/
def RunStatus.terminal : RunStatus → Bool
  | .completed | .cancelled | .failed | .jenkinsFailed | .artifactMissing | .flashFailed | .aoaFailed | .testFailed
  | .analysisFailed | .reportingFailed => true
  | _ => false

def RunStatus.forward : RunStatus → List RunStatus
  | .queued => [.jenkinsQueued,.waitingDevice]
  | .jenkinsQueued => [.jenkinsBuilding,.jenkinsFailed]
  | .jenkinsBuilding => [.artifactReady,.jenkinsFailed]
  | .artifactReady => [.waitingDevice,.artifactMissing]
  | .waitingDevice => [.deviceLocked]
  | .deviceLocked => [.flashing]
  | .flashing => [.flashCompleted,.flashFailed]
  | .flashCompleted => [.aoaRecovering,.postFlashVerifying]
  | .postFlashVerifying => [.flashVerified,.flashFailed]
  | .flashVerified => [.aoaRecovering,.postFlashVerifying,.testing]
  | .aoaRecovering => [.postFlashVerifying,.aoaFailed]
  | .testing => [.testRunning,.testFailed]
  | .testRunning => [.reportCollecting,.testFailed]
  | .reportCollecting => [.analyzing,.testFailed]
  | .analyzing => [.reporting,.analysisFailed]
  | .reporting => [.completed,.reportingFailed]
  | _ => []

def RunStatus.allows (source target : RunStatus) : Prop :=
  source = target ∨ source.terminal = false ∧ target ∈ source.forward++[.cancelled,.failed]

instance (source target : RunStatus) : Decidable (source.allows target) :=
  inferInstanceAs (Decidable (source = target ∨ source.terminal = false ∧ target ∈ source.forward++[.cancelled,.failed]))

inductive TestOutcome
  | passed | failed | incomplete
deriving DecidableEq, Repr

/-- `test_summary_json`. -/
structure Summary where
  outcome : Option TestOutcome
  retryDir : String
  retryWorkerId : String
deriving DecidableEq, Repr

inductive SourceType
  | schedule | autoRetry | other (name : String)
deriving DecidableEq, Repr

/-- `followup_state`; the empty text is `undecided`. -/
inductive Followup
  | undecided | done | retried | retryLimitReached | missingRetryContext | retryAuthorizationUnavailable | batchStopped
deriving DecidableEq, Repr

structure Run where
  id : String
  sourceType : SourceType
  sourceKey : String
  status : RunStatus
  startedAt : String
  leaseOwner : String
  workerId : String
  reportId : String
  testSuite : String
  summary : Summary
  retryOf : Option String
  retryRoot : Option String
  retryIndex : Nat
  retryLimit : Nat
  followup : Followup
  planId : Option String
  planBatchId : Option String
deriving DecidableEq, Repr

/-- What `_materialize` takes from a stored step. -/
structure StepTemplate where
  workerId : String
  testSuite : String
  retryLimit : Nat
deriving DecidableEq, Repr

structure TestPlan where
  id : String
  createdBy : String
  enabled : Bool
  stopOnFailure : Bool
  steps : List StepTemplate
  stepCount : Nat
  nextRunAt : String
  lastError : String
  activeBatchId : Option String
  version : Nat
deriving DecidableEq, Repr

inductive BatchStatus
  | running | stopping | completed | failed | cancelled
deriving DecidableEq, Repr

structure Batch where
  id : String
  planId : String
  steps : List StepTemplate
  stopOnFailure : Bool
  stepCount : Nat
  nextStep : Nat
  lastRunId : String
  status : BatchStatus
  hadFailures : Bool
deriving DecidableEq, Repr

structure PlanDb where
  plans : List TestPlan
  batches : List Batch
  runs : List Run
deriving DecidableEq, Repr

inductive StoreError
  | conflict (message : String) | integrity
deriving DecidableEq, Repr

/-- `status IN ('running','stopping')`. -/
def Batch.active (batch : Batch) : Prop := batch.status = .running ∨ batch.status = .stopping

instance (batch : Batch) : Decidable batch.active := inferInstanceAs (Decidable (_ ∨ _))

def Followup.decided (followup : Followup) : Prop := followup ≠ .undecided ∧ followup ≠ .retried

instance (followup : Followup) : Decidable followup.decided := inferInstanceAs (Decidable (_ ∧ _))

def fetchPlan (db : PlanDb) (id : String) : Option TestPlan := Table.fetch (·.id = id) db.plans

def fetchBatch (db : PlanDb) (id : String) : Option Batch := Table.fetch (·.id = id) db.batches

def getRun (db : PlanDb) (id : String) : Option Run := Table.fetch (·.id = id) db.runs

def insertRun (db : PlanDb) (run : Run) : Except StoreError PlanDb :=
  if ∃ old ∈ db.runs, old.id = run.id ∨ run.sourceKey ≠ "" ∧ old.sourceKey = run.sourceKey then .error .integrity
  else .ok {db with runs := db.runs++[run]}

def setPlan (db : PlanDb) (id : String) (set : TestPlan → TestPlan) : PlanDb :=
  {db with plans := Table.update (·.id = id) set db.plans}

def setBatch (db : PlanDb) (id : String) (set : Batch → Batch) : PlanDb :=
  {db with batches := Table.update (·.id = id) set db.batches}

def setRun (db : PlanDb) (id : String) (set : Run → Run) : PlanDb :=
  {db with runs := Table.update (·.id = id) set db.runs}

def save (db : PlanDb) (data : TestPlan) (version : Nat) : Except StoreError PlanDb :=
  match fetchPlan db data.id with
  | some old =>
    if old.createdBy ≠ data.createdBy ∨ old.version ≠ version then .error (.conflict "Plan changed; reload before saving")
    else
      .ok (setPlan db data.id fun plan =>
        {plan with
          enabled := data.enabled
          stopOnFailure := data.stopOnFailure
          steps := data.steps
          stepCount := data.stepCount
          nextRunAt := data.nextRunAt
          version := plan.version+1
          lastError := ""})
  | none =>
    if version ≠ 0 then .error (.conflict "Plan no longer exists")
    else .ok {db with plans := db.plans++[{data with lastError := "", activeBatchId := none, version := 1}]}

def setEnabled (db : PlanDb) (planId : String) (enabled : Bool) (nextRunAt : String) (version : Nat) : Except StoreError PlanDb :=
  if ∃ plan ∈ db.plans, plan.id = planId ∧ plan.version = version then
    .ok (setPlan db planId fun plan => {plan with enabled := enabled, nextRunAt := nextRunAt, version := plan.version+1, lastError := ""})
  else .error (.conflict "Plan changed; reload before updating")

def startBatch (db : PlanDb) (plan : TestPlan) (batchId : String) (first : Option Run) (now nextRunAt : String) (due : Bool) :
    Except StoreError (PlanDb × Bool) :=
  match fetchPlan db plan.id with
  | none => .error (.conflict "Plan changed before dispatch")
  | some current =>
    if current.version ≠ plan.version then .error (.conflict "Plan changed before dispatch")
    else if due = true ∧ (current.enabled = false ∨ current.nextRunAt = "" ∨ now < current.nextRunAt) then .ok (db,false)
    else if current.activeBatchId ≠ none then
      if due then
        .ok (setPlan db plan.id fun row =>
          {row with nextRunAt := nextRunAt, lastError := "Previous batch is still active; scheduled occurrence skipped"},false)
      else .error (.conflict "This plan already has an active batch")
    else
      match first with
      | none => .ok (db,false)
      | some run =>
        match insertRun db run with
        | .error error => .error error
        | .ok db =>
          if ∃ old ∈ db.batches, old.id = batchId then .error .integrity
          else
            let batch : Batch := ⟨batchId,plan.id,plan.steps,plan.stopOnFailure,plan.stepCount,1,run.id,.running,false⟩
            .ok (setPlan {db with batches := db.batches++[batch]} plan.id fun row =>
              {row with
                activeBatchId := some batchId
                lastError := ""
                nextRunAt := if due then nextRunAt else current.nextRunAt},true)

def deferError (db : PlanDb) (plan : TestPlan) (nextRunAt message : String) : PlanDb :=
  let selects := fun row : TestPlan => row.id = plan.id ∧ row.version = plan.version ∧ row.nextRunAt = plan.nextRunAt
  let plans := Table.update selects (fun row => {row with nextRunAt := nextRunAt, lastError := message}) db.plans
  {db with plans := plans}

def advanceBatch (db : PlanDb) (batch : Batch) (prepared : Option Run) (status : BatchStatus) (stepFailed : Bool) :
    Except StoreError (PlanDb × Bool) :=
  match fetchBatch db batch.id with
  | none => .ok (db,false)
  | some current =>
    if ¬ current.active ∨ current.lastRunId ≠ batch.lastRunId then .ok (db,false)
    else if prepared ≠ none ∧ current.status ≠ .running then .ok (db,false)
    else
      match getRun db current.lastRunId with
      | none => .ok (db,false)
      | some previous =>
        if ¬ previous.followup.decided then .ok (db,false)
        else
          match prepared with
          | some run =>
            match insertRun db run with
            | .error error => .error error
            | .ok db =>
              .ok (setBatch db batch.id fun row =>
                {row with nextStep := row.nextStep+1, lastRunId := run.id, hadFailures := row.hadFailures || stepFailed},true)
          | none =>
            let final := if status = .completed ∧ (current.hadFailures = true ∨ stepFailed = true) then .failed else status
            let message :=
              if final = .failed then "A test step failed, had unknown results, or could not be dispatched" else ""
            let ended := setBatch db batch.id fun row => {row with status := final}
            let plans := Table.update (fun row : TestPlan => row.id = batch.planId ∧ row.activeBatchId = some batch.id)
              (fun row => {row with activeBatchId := none, lastError := message}) ended.plans
            .ok ({ended with plans := plans},true)

def Run.pendingRetry (batchId : String) (run : Run) : Prop :=
  run.planBatchId = some batchId ∧ run.sourceType = .autoRetry ∧ run.status = .queued ∧ run.startedAt = "" ∧ run.leaseOwner = ""

instance (batchId : String) (run : Run) : Decidable (run.pendingRetry batchId) :=
  inferInstanceAs (Decidable (_ ∧ _ ∧ _ ∧ _ ∧ _))

def stopBatch (db : PlanDb) (planId : String) : PlanDb :=
  match (fetchPlan db planId).bind (·.activeBatchId) with
  | none => db
  | some batchId =>
    let batches := Table.update (fun row : Batch => row.id = batchId ∧ row.status = .running)
      (fun row => {row with status := .stopping}) db.batches
    let runs := Table.update (Run.pendingRetry batchId) (fun row => {row with status := .cancelled, followup := .done}) db.runs
    {db with batches := batches, runs := runs}

def finishFollowup (db : PlanDb) (run : Run) (decision : Followup) (prepared : Option Run) : Except StoreError (PlanDb × Bool) :=
  match Table.fetch (fun row : Run => row.id = run.id ∧ row.followup = .undecided) db.runs with
  | none => .ok (db,false)
  | some current =>
    if current.status.terminal = false then .ok (db,false)
    else
      let stopped := prepared ≠ none ∧ run.planBatchId ≠ none ∧
        ((run.planBatchId.bind (fetchBatch db)).map (·.status)) ≠ some .running
      if stopped then .ok (setRun db run.id fun row => {row with followup := .batchStopped},false)
      else
        match prepared with
        | none => .ok (setRun db run.id fun row => {row with followup := decision},false)
        | some child =>
          match insertRun db child with
          | .error error => .error error
          | .ok db =>
            let selects := fun row : Batch => some row.id = run.planBatchId ∧ row.lastRunId = run.id ∧ row.status = .running
            let batches := Table.update selects (fun row => {row with lastRunId := child.id}) db.batches
            .ok (setRun {db with batches := batches} run.id fun row => {row with followup := decision},true)

def updateRunIfStatus (db : PlanDb) (id : String) (expected target : RunStatus) (workerId reportId startedAt : String)
    (summary : Summary) : PlanDb :=
  if expected.terminal = true ∨ ¬ expected.allows target then db
  else
    let runs := Table.update (fun row : Run => row.id = id ∧ row.status = expected)
      (fun row => {row with
        status := target
        workerId := workerId
        reportId := reportId
        startedAt := startedAt
        summary := summary}) db.runs
    {db with runs := runs}

end GmsRemoteTest.Automation
