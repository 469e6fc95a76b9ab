import GmsRemoteTest.Lib.Runs
import GmsRemoteTest.Automation.PlanStore

/-! The automation planner. It decides on rows that were read in an earlier transaction, so every row that was ever read
by a tick, a manual start or a restarted process is part of the state and may still be acted on. -/
namespace GmsRemoteTest.Automation
open Text

def planKey (batchId : String) (index : Nat) : String := "plan:" ++ batchId ++ ":" ++ toString index

def retryKey (root : String) (index : Nat) : String := "retry:" ++ root ++ ":" ++ toString index

def freshRun (id : String) : Run :=
  ⟨id,.other "manual","",.queued,"","","","","",⟨none,"",""⟩,none,none,0,0,.undecided,none,none⟩

def materialize (template : StepTemplate) (planId batchId : String) (index : Nat) (runId : String) : Run :=
  {freshRun runId with
    workerId := template.workerId
    testSuite := template.testSuite
    retryLimit := template.retryLimit
    planId := some planId
    planBatchId := some batchId
    sourceType := .schedule
    sourceKey := planKey batchId index}

def validFolder (folder : String) : Bool :=
  match folder.toList with
  | [] => false
  | first :: rest => first.isAlphanum && rest.length ≤ 255 && rest.all fun c => c.isAlphanum || c ∈ ['_','.','-']

/-- `_retry`; `authorized` is whether the retry policy is valid and the owner may still run the plan. -/
def retry (run : Run) (childId : String) (authorized : Bool) : Followup × Option Run :=
  if run.status ≠ .completed ∨ run.retryLimit = 0 then (.done,none)
  else if run.summary.outcome ≠ some .failed then (.done,none)
  else if run.retryLimit ≤ run.retryIndex then (.retryLimitReached,none)
  else if validFolder run.summary.retryDir = false ∨ run.workerId = "" ∨ run.reportId = "" ∨
      run.summary.retryWorkerId ≠ run.workerId then (.missingRetryContext,none)
  else if run.testSuite = "" then (.missingRetryContext,none)
  else if authorized = false then (.retryAuthorizationUnavailable,none)
  else
    let root := run.retryRoot.getD run.id
    (.retried,some {freshRun childId with
      workerId := run.workerId
      testSuite := run.testSuite
      retryOf := some run.id
      retryRoot := some root
      retryIndex := run.retryIndex+1
      retryLimit := run.retryLimit
      sourceType := .autoRetry
      sourceKey := retryKey root (run.retryIndex+1)
      planId := run.planId
      planBatchId := run.planBatchId})

structure Planner where
  db : PlanDb
  followups : List Run
  actives : List Batch
  inspected : List (Batch × Run)
  plans : List TestPlan
deriving DecidableEq, Repr

def commit {α : Type} (planner : Planner) : Except StoreError (PlanDb × α) → Planner
  | .ok (db,_) => {planner with db := db}
  | .error _ => planner

def readFollowup (planner : Planner) (id : String) : Planner :=
  match getRun planner.db id with
  | some run =>
    if run.followup = .undecided ∧ (0 < run.retryLimit ∨ run.planBatchId ≠ none) ∧ run.status.terminal = true then
      {planner with followups := run :: planner.followups}
    else planner
  | none => planner

def followUp (planner : Planner) (run : Run) (childId : String) (authorized : Bool) : Planner :=
  if run ∈ planner.followups then
    let (decision,child) := retry run childId authorized
    commit planner (finishFollowup planner.db run decision child)
  else planner

def readActive (planner : Planner) (id : String) : Planner :=
  match fetchBatch planner.db id with
  | some batch => if batch.active then {planner with actives := batch :: planner.actives} else planner
  | none => planner

def inspectBatch (planner : Planner) (batch : Batch) : Planner :=
  if batch ∈ planner.actives then
    match getRun planner.db batch.lastRunId with
    | some run => {planner with inspected := (batch,run) :: planner.inspected}
    | none => planner
  else planner

def Run.passed (run : Run) : Prop := run.status = .completed ∧ run.summary.outcome = some .passed

instance (run : Run) : Decidable run.passed := inferInstanceAs (Decidable (_ ∧ _))

def advance (planner : Planner) (batch : Batch) (run : Run) (runId : String) (authorized : Bool) : Planner :=
  if (batch,run) ∉ planner.inspected ∨ run.status.terminal = false ∨ ¬ run.followup.decided then planner
  else
    let failed := decide (¬ run.passed)
    if batch.status = .stopping ∨ run.status = .cancelled then commit planner (advanceBatch planner.db batch none .cancelled false)
    else if failed = true ∧ batch.stopOnFailure = true then commit planner (advanceBatch planner.db batch none .failed false)
    else if batch.stepCount ≤ batch.nextStep then commit planner (advanceBatch planner.db batch none .completed failed)
    else
      match batch.steps[batch.nextStep]?, authorized with
      | some step, true =>
        let prepared := materialize step batch.planId batch.id batch.nextStep runId
        commit planner (advanceBatch planner.db batch (some prepared) .completed failed)
      | _, _ => commit planner (advanceBatch planner.db batch none .failed false)

def readPlan (planner : Planner) (id : String) : Planner :=
  match fetchPlan planner.db id with
  | some plan => {planner with plans := plan :: planner.plans}
  | none => planner

/-- `start`, for a manual start or for a plan that is due. -/
def start (planner : Planner) (plan : TestPlan) (batchId runId : String) (authorized : Bool) (now nextRunAt : String) (due : Bool) :
    Planner :=
  if plan ∉ planner.plans then planner
  else if due = true ∧ plan.activeBatchId ≠ none then commit planner (startBatch planner.db plan batchId none now nextRunAt due)
  else
    match plan.steps, authorized with
    | step :: _, true =>
      let first := materialize step plan.id batchId 0 runId
      commit planner (startBatch planner.db plan batchId (some first) now nextRunAt due)
    | _, _ => planner

inductive PlanOp
  | save (data : TestPlan) (version : Nat)
  | setEnabled (planId : String) (enabled : Bool) (nextRunAt : String) (version : Nat)
  | stopBatch (planId : String)
  | readFollowup (id : String)
  | followUp (run : Run) (childId : String) (authorized : Bool)
  | readActive (id : String)
  | inspectBatch (batch : Batch)
  | advance (batch : Batch) (run : Run) (runId : String) (authorized : Bool)
  | readPlan (id : String)
  | start (plan : TestPlan) (batchId runId : String) (authorized : Bool) (now nextRunAt : String) (due : Bool)
  | deferError (plan : TestPlan) (nextRunAt message : String)
  | createRun (id sourceKey workerId testSuite : String) (sourceType : SourceType) (retryLimit : Nat)
  | updateRun (id : String) (expected target : RunStatus) (workerId reportId startedAt : String) (summary : Summary)
  | leaseRun (id owner : String)

def planStep : PlanOp → Planner → Planner
  | .save data version, planner => commit planner ((save planner.db data version).map fun db => (db,()))
  | .setEnabled planId enabled nextRunAt version, planner =>
    commit planner ((setEnabled planner.db planId enabled nextRunAt version).map fun db => (db,()))
  | .stopBatch planId, planner => {planner with db := stopBatch planner.db planId}
  | .readFollowup id, planner => readFollowup planner id
  | .followUp run childId authorized, planner => followUp planner run childId authorized
  | .readActive id, planner => readActive planner id
  | .inspectBatch batch, planner => inspectBatch planner batch
  | .advance batch run runId authorized, planner => advance planner batch run runId authorized
  | .readPlan id, planner => readPlan planner id
  | .start plan batchId runId authorized now nextRunAt due, planner =>
    start planner plan batchId runId authorized now nextRunAt due
  | .deferError plan nextRunAt message, planner =>
    if plan ∈ planner.plans then {planner with db := deferError planner.db plan nextRunAt message} else planner
  -- a run of its own, outside every batch
  | .createRun id sourceKey workerId testSuite sourceType retryLimit, planner =>
    let run := {freshRun id with
      sourceType := sourceType
      sourceKey := sourceKey
      workerId := workerId
      testSuite := testSuite
      retryLimit := retryLimit}
    commit planner ((insertRun planner.db run).map fun db => (db,()))
  | .updateRun id expected target workerId reportId startedAt summary, planner =>
    {planner with db := updateRunIfStatus planner.db id expected target workerId reportId startedAt summary}
  -- `claim_run`, `claim_next_active` and `release_claim`
  | .leaseRun id owner, planner => {planner with db := setRun planner.db id fun row => {row with leaseOwner := owner}}

def emptyPlanner : Planner := ⟨⟨[],[],[]⟩,[],[],[],[]⟩

end GmsRemoteTest.Automation
