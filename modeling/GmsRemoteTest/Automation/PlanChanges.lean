import GmsRemoteTest.Automation.Planning

/-! What one step of the planner can do to the tables. Every operation of the plan store is one of the
changes below, with the conditions it re-checks inside its transaction. -/
namespace GmsRemoteTest.Automation

def Run.frozen (run : Run) : Run := {run with followup := .undecided, leaseOwner := ""}

structure Run.SameOrigin (before after : Run) : Prop where
  id : after.id = before.id
  sourceKey : after.sourceKey = before.sourceKey
  retryOf : after.retryOf = before.retryOf
  retryRoot : after.retryRoot = before.retryRoot
  retryIndex : after.retryIndex = before.retryIndex
  retryLimit : after.retryLimit = before.retryLimit
  planBatchId : after.planBatchId = before.planBatchId

structure Run.Updates (before after : Run) : Prop where
  origin : before.SameOrigin after
  ended : before.status.terminal = true → after.frozen = before.frozen
  kept : before.followup ≠ .undecided → after.followup = before.followup
  decides : after.followup ≠ .undecided → before.followup = .undecided → after.status.terminal = true

structure Batch.SameOrigin (before after : Batch) : Prop where
  id : after.id = before.id
  planId : after.planId = before.planId
  stepCount : after.stepCount = before.stepCount

structure Run.Starts (run : Run) : Prop where
  retryOf : run.retryOf = none
  retryRoot : run.retryRoot = none
  retryIndex : run.retryIndex = 0
  undecided : run.followup = .undecided

structure Run.StepOf (run : Run) (batchId : String) (index : Nat) : Prop where
  starts : run.Starts
  sourceKey : run.sourceKey = planKey batchId index
  planBatchId : run.planBatchId = some batchId

structure Run.Retries (child run : Run) : Prop where
  retryOf : child.retryOf = some run.id
  retryRoot : child.retryRoot = some (run.retryRoot.getD run.id)
  retryIndex : child.retryIndex = run.retryIndex+1
  retryLimit : child.retryLimit = run.retryLimit
  within : run.retryIndex < run.retryLimit
  planBatchId : child.planBatchId = run.planBatchId

def Fresh (db : PlanDb) (run : Run) : Prop := ∀ old ∈ db.runs, old.id ≠ run.id

inductive Change (db : PlanDb) : PlanDb → Prop
  | settings (plans : List TestPlan)
      (same : plans.map (fun plan => (plan.id,plan.activeBatchId)) = db.plans.map fun plan => (plan.id,plan.activeBatchId)) :
      Change db {db with plans := plans}
  | added (plan : TestPlan) (fresh : ∀ old ∈ db.plans, old.id ≠ plan.id) (idle : plan.activeBatchId = none) :
      Change db {db with plans := db.plans++[plan]}
  | started (plan : TestPlan) (batch : Batch) (run : Run) (set : TestPlan → TestPlan) (member : plan ∈ db.plans)
      (idle : plan.activeBatchId = none) (fresh : Fresh db run) (newBatch : ∀ old ∈ db.batches, old.id ≠ batch.id)
      (step : run.StepOf batch.id 0) (planId : batch.planId = plan.id) (running : batch.status = .running)
      (nextStep : batch.nextStep = 1) (lastRunId : batch.lastRunId = run.id)
      (sets : ∀ row, (set row).id = row.id ∧ (set row).activeBatchId = some batch.id) :
      Change db ⟨Table.update (·.id = plan.id) set db.plans,db.batches++[batch],db.runs++[run]⟩
  | advanced (batch : Batch) (previous run : Run) (failed : Bool) (member : batch ∈ db.batches) (running : batch.status = .running)
      (last : previous ∈ db.runs) (lastRunId : previous.id = batch.lastRunId) (decided : previous.followup.decided)
      (fresh : Fresh db run) (step : run.StepOf batch.id batch.nextStep) (honest : failed = false → previous.passed) :
      Change db
        ⟨db.plans,Table.update (·.id = batch.id)
          (fun row => {row with nextStep := row.nextStep+1, lastRunId := run.id, hadFailures := row.hadFailures || failed}) db.batches,
          db.runs++[run]⟩
  | ended (batch : Batch) (previous : Run) (status : BatchStatus) (message : String) (member : batch ∈ db.batches)
      (active : batch.active) (last : previous ∈ db.runs) (lastRunId : previous.id = batch.lastRunId)
      (decided : previous.followup.decided) (halted : status ≠ .running ∧ status ≠ .stopping)
      (honest : status = .completed → batch.hadFailures = false ∧ previous.passed ∧ batch.stepCount ≤ batch.nextStep) :
      Change db
        ⟨Table.update (fun row : TestPlan => row.id = batch.planId ∧ row.activeBatchId = some batch.id)
          (fun row => {row with activeBatchId := none, lastError := message}) db.plans,
          Table.update (·.id = batch.id) (fun row => {row with status := status}) db.batches,db.runs⟩
  | touched (selected : Batch → Prop) [DecidablePred selected] (runs : Run → Run) (running : ∀ row, selected row → row.status = .running)
      (updates : ∀ run ∈ db.runs, run.Updates (runs run)) :
      Change db
        ⟨db.plans,Table.update selected (fun row => {row with status := .stopping}) db.batches,db.runs.map runs⟩
  | retried (now child : Run) (member : now ∈ db.runs) (undecided : now.followup = .undecided) (ended : now.status.terminal = true)
      (fresh : Fresh db child) (retries : child.Retries now) (waiting : child.followup = .undecided)
      (running : ∀ id, now.planBatchId = some id → ∃ batch ∈ db.batches, batch.id = id ∧ batch.status = .running) :
      Change db
        ⟨db.plans,Table.update (fun row : Batch => some row.id = now.planBatchId ∧ row.lastRunId = now.id ∧ row.status = .running)
          (fun row => {row with lastRunId := child.id}) db.batches,
          Table.update (·.id = now.id) (fun row => {row with followup := .retried}) db.runs++[child]⟩
  | created (run : Run) (fresh : Fresh db run) (starts : run.Starts) (alone : run.planBatchId = none) :
      Change db {db with runs := db.runs++[run]}

end GmsRemoteTest.Automation
