import GmsRemoteTest.Lib.Runs
import GmsRemoteTest.Automation.Stages

/-! The orchestrators of the automation pipeline. Every call of the run store is one step, and so is every step of an
executor call; in between a caller keeps what it has read, whether or not it still holds the lease of its run. A caller
is one call of `advance_next`, `advance_run` or `cancel_run`; those of one orchestrator share its claim owner. -/
namespace GmsRemoteTest.Automation

/-- The executor: a call starts with the row it is given and goes on step by step until it answers, or
raises (`none`). `outside` is what others do to the things it works on. -/
structure Executor (Env Local Input : Type) where
  start : ExecutorCall → AutomationRun → Local
  proceed : ExecutorCall → AutomationRun → Local → Input → Env → Env × (Local ⊕ Option Answer)
  aoaEnabled : AutomationRun → Bool
  outside : Input → Env → Env

inductive Task
  | advance
  | cancel (cleanup : Bool)
deriving DecidableEq, Repr

/-- What a call of the executor is made for: the stage of the run, the cleanup of `cancel_run`, or
the release and the report of `_fail`. -/
inductive Purpose
  | stage
  | cleanup
  | release (target : RunStatus) (error : String)
  | report (target : RunStatus) (error : String) (reconcile : Bool)
deriving DecidableEq, Repr

def Purpose.argument (purpose : Purpose) (run : AutomationRun) : AutomationRun :=
  match purpose with
  | .report target error _ => {run with status := target, error := error}
  | _ => run

inductive Phase (Local : Type)
  | idle
  | found (id : String) (task : Task)
  | claimed (id : String) (task : Task)
  | calling (run : AutomationRun) (call : ExecutorCall) (purpose : Purpose) (state : Local)
  | moving (run : AutomationRun) (target : RunStatus) (columns : Columns)
  | failing (run : AutomationRun) (target : RunStatus) (error : String) (reconcile : Bool)
  | swapping (run : AutomationRun) (target : RunStatus) (columns : Columns) (reconcile : Bool)
  | leaving (id : String)

/-- What has happened to the runs, in order: the changes of status with the `reconcile_required` of
their payload, and the answers of the executor. -/
inductive Event
  | moved (id : String) (source target : RunStatus) (reconcile : Bool)
  | answered (id : String) (call : ExecutorCall) (answer : Answer)
deriving DecidableEq, Repr

structure Shared (Env : Type) where
  runs : List AutomationRun
  env : Env
  events : List Event

structure World (Env Local : Type) extends Shared Env where
  phases : String → Phase Local

def staged (run : AutomationRun) (target : RunStatus) (columns : Columns) (now : String) : Columns :=
  {columns with
    resultJson := some {columns.resultJson.getD run.resultJson with stageStartedAt := now}
    startedAt := if run.startedAt = "" ∧ target ≠ .queued then some now else columns.startedAt}

section
variable {Env Local Input : Type} (executor : Executor Env Local Input)

def calls (run : AutomationRun) (call : ExecutorCall) (purpose : Purpose) : Phase Local :=
  .calling run call purpose (executor.start call (purpose.argument run))

def reporting (run : AutomationRun) (target : RunStatus) (error : String) (reconcile : Bool) (now : String) : Phase Local :=
  if target = .reportingFailed then .swapping run target {error := some error, finishedAt := some now} reconcile
  else calls executor run .reportResult (.report target error reconcile)

def afterAnswer (run : AutomationRun) (call : ExecutorCall) (now : String) : Purpose → Option Answer → Phase Local
  | .stage, none => .leaving run.id
  | .stage, some answer => match settle run answer now with
    | .stay columns => .swapping run run.status columns false
    | .move target columns => .moving run target columns
    | .fail target error reconcile => .failing run target error reconcile
  -- a release that raises is logged and passed over; a cleanup that fails makes `cancel_run` raise
  | .cleanup, answer =>
    if call = .releaseResources ∨ (answer.map (·.success.holds)) = some true then
      .moving run .cancelled {finishedAt := some now}
    else .leaving run.id
  | .release target error, _ => reporting executor run target error false now
  | .report target error reconcile, _ => .swapping run target {error := some error, finishedAt := some now} reconcile

def begin (run : AutomationRun) : Task → Phase Local
  | .advance => match opening executor.aoaEnabled run with
    | .ended => .leaving run.id
    | .move target => .moving run target {}
    | .call call => calls executor run call .stage
  | .cancel cleanup => calls executor run (if cleanup then .cancel else .releaseResources) .cleanup

def ended (runs : List AutomationRun) (id : String) : Bool :=
  ((RunStore.getRun runs id).map (·.status.terminal)) == some true

def answeredEvent (run : AutomationRun) (call : ExecutorCall) : Option Answer → List Event
  | none => []
  | some answer => [.answered run.id call answer]

def proceed (owner : String) (input : Input) (now expiry : String) (shared : Shared Env) : Phase Local → Shared Env × Phase Local
  | .idle => (shared,.idle)
  | .found id task =>
    let claim := RunStore.claimRun shared.runs id owner now expiry
    ({shared with runs := claim.2},if claim.1 then .claimed id task else .idle)
  | .claimed id task => match RunStore.getRun shared.runs id with
    | none => (shared,.leaving id)
    | some run => (shared,if run.status.terminal then .leaving id else begin executor run task)
  | .calling run call purpose state =>
    let outcome := executor.proceed call (purpose.argument run) state input shared.env
    match outcome.2 with
    | .inl state => ({shared with env := outcome.1},.calling run call purpose state)
    | .inr answer =>
      ({shared with env := outcome.1, events := shared.events++answeredEvent run call answer},
        afterAnswer executor run call now purpose answer)
  | .moving run target columns =>
    (shared,if ended shared.runs run.id then .leaving run.id else .swapping run target (staged run target columns now) false)
  | .failing run target error reconcile =>
    (shared,if ended shared.runs run.id then .leaving run.id
      else if reconcile then reporting executor run target error reconcile now
      else calls executor run .releaseResources (.release target error))
  | .swapping run target columns reconcile =>
    let swap := RunStore.updateRunIfStatus shared.runs run.id run.status target columns now
    let events := if swap.1 = true ∧ target ≠ run.status then [Event.moved run.id run.status target reconcile] else []
    ({shared with runs := swap.2, events := shared.events++events},.leaving run.id)
  | .leaving id => ({shared with runs := RunStore.releaseClaim shared.runs id owner},.idle)

inductive PipelineOp (Input : Type)
  | createRun (request : RunRequest) (id now : String)
  | advanceNext (caller now expiry : String)
  | advanceRun (caller id : String)
  | cancelRun (caller id : String) (cleanup : Bool)
  | go (caller : String) (input : Input) (now expiry : String)
  | renewClaim (caller id expiry : String)
  | stopBatch (batchId now : String)
  | crash (caller : String)
  | outside (input : Input)

def lookUp (runs : List AutomationRun) (id : String) (task : Task) : Phase Local :=
  match RunStore.getRun runs id with
  | none => .idle
  | some run => if run.status.terminal then .idle else .found id task

def opens (world : World Env Local) (caller : String) (next : Shared Env × Phase Local) : World Env Local :=
  match world.phases caller with
  | .idle => ⟨next.1,Function.update world.phases caller next.2⟩
  | _ => world

def stopEvents (runs : List AutomationRun) (batchId : String) : List Event :=
  (Table.select (fun run : AutomationRun => run.toRun.pendingRetry batchId) runs).map fun run =>
    .moved run.id run.status .cancelled false

variable (owner : String → String)

def pipelineStep : PipelineOp Input → World Env Local → World Env Local
  | .createRun request id now, world => {world with runs := RunStore.createRun world.runs (request.toRunDict id now)}
  | .advanceNext caller now expiry, world =>
    let claim := RunStore.claimNextActive world.runs (owner caller) now expiry
    opens world caller ({world.toShared with runs := claim.2},match claim.1 with
      | none => .idle
      | some id => .claimed id .advance)
  | .advanceRun caller id, world => opens world caller (world.toShared,lookUp world.runs id .advance)
  | .cancelRun caller id cleanup, world => opens world caller (world.toShared,lookUp world.runs id (.cancel cleanup))
  | .go caller input now expiry, world =>
    let next := proceed executor (owner caller) input now expiry world.toShared (world.phases caller)
    ⟨next.1,Function.update world.phases caller next.2⟩
  | .renewClaim caller id expiry, world => {world with runs := RunStore.renewClaim world.runs id (owner caller) expiry}
  | .stopBatch batchId now, world =>
    {world with
      runs := RunStore.stopPending world.runs batchId now
      events := world.events++stopEvents world.runs batchId}
  -- the process dies, or the release of the claim itself fails
  | .crash caller, world => {world with phases := Function.update world.phases caller .idle}
  | .outside input, world => {world with env := executor.outside input world.env}

end

def scripted : Executor Unit Unit (Option Answer) where
  start := fun _ _ => ()
  proceed := fun _ _ _ answer _ => ((),.inr answer)
  aoaEnabled := fun _ => false
  outside := fun _ _ => ()

def emptyWorld {Env Local : Type} (env : Env) : World Env Local := ⟨⟨[],env,[]⟩,fun _ => .idle⟩

def Purpose.proper (purpose : Purpose) (run : AutomationRun) (call : ExecutorCall) : Prop :=
  match purpose with
  | .stage => run.status.stageCall = some call
  | .cleanup => call = .cancel ∨ call = .releaseResources
  | .release target _ => call = .releaseResources ∧ target.terminal = true ∧ run.status.allows target
  | .report target _ _ => call = .reportResult ∧ target.terminal = true ∧ run.status.allows target

def Phase.proper {Local : Type} : Phase Local → Prop
  | .idle | .found _ _ | .claimed _ _ | .leaving _ => True
  | .calling run call purpose _ => run.status.terminal = false ∧ purpose.proper run call
  | .moving run target _ | .swapping run target _ _ => run.status.terminal = false ∧ run.status.allows target
  | .failing run target _ _ => run.status.terminal = false ∧ target.terminal = true ∧ run.status.allows target

section
variable {Env Local Input : Type} {executor : Executor Env Local Input} {run : AutomationRun}

theorem proper_reporting (unfinished : run.status.terminal = false) {target : RunStatus} (final : target.terminal = true)
    (allowed : run.status.allows target) (error : String) (reconcile : Bool) (now : String) :
    (reporting executor run target error reconcile now).proper := by
  unfold reporting
  split
  · exact ⟨unfinished,allowed⟩
  · exact ⟨unfinished,rfl,final,allowed⟩

theorem proper_begin (unfinished : run.status.terminal = false) (task : Task) : (begin executor run task).proper := by
  cases task with
  | advance =>
    simp only [begin]
    split
    · trivial
    · rename_i target moved
      exact ⟨unfinished,opening_allowed moved⟩
    · rename_i call asked
      exact ⟨unfinished,opening_call asked⟩
  | cancel cleanup => cases cleanup <;> exact ⟨unfinished,by simp [Purpose.proper]⟩

theorem proper_afterAnswer {call : ExecutorCall} {purpose : Purpose} (unfinished : run.status.terminal = false)
    (fits : purpose.proper run call) (answer : Option Answer) (now : String) :
    (afterAnswer executor run call now purpose answer).proper := by
  cases purpose with
  | stage =>
    cases answer with
    | none => trivial
    | some answer =>
      simp only [afterAnswer]
      split
      · exact ⟨unfinished,.inl rfl⟩
      · rename_i target columns moved
        exact ⟨unfinished,settle_allowed moved⟩
      · rename_i target error reconcile failed
        exact ⟨unfinished,settle_fail failed⟩
  | cleanup =>
    simp only [afterAnswer]
    split
    · exact ⟨unfinished,.inr ⟨unfinished,by simp⟩⟩
    · trivial
  | release target error => exact proper_reporting unfinished fits.2.1 fits.2.2 error false now
  | report target error reconcile => exact ⟨unfinished,fits.2.2⟩

theorem proper_proceed {phase : Phase Local} (proper : phase.proper) (owner : String) (input : Input) (now expiry : String)
    (shared : Shared Env) : (proceed executor owner input now expiry shared phase).2.proper := by
  cases phase with
  | idle => trivial
  | found id task =>
    simp only [proceed]
    split <;> trivial
  | claimed id task =>
    simp only [proceed]
    split
    · trivial
    · dsimp only
      split
      · trivial
      · rename_i unfinished
        exact proper_begin (by simpa using unfinished) task
  | calling run call purpose state =>
    simp only [proceed]
    split
    · exact proper
    · exact proper_afterAnswer proper.1 proper.2 _ now
  | moving run target columns =>
    simp only [proceed]
    split
    · trivial
    · exact proper
  | failing run target error reconcile =>
    simp only [proceed]
    split
    · trivial
    · split
      · exact proper_reporting proper.1 proper.2.1 proper.2.2 error reconcile now
      · exact ⟨proper.1,rfl,proper.2⟩
  | swapping run target columns reconcile => trivial
  | leaving id => trivial

theorem proper_lookUp (runs : List AutomationRun) (id : String) (task : Task) : (lookUp runs id task : Phase Local).proper := by
  unfold lookUp
  split
  · trivial
  · split <;> trivial

theorem proper_update {phases : String → Phase Local} (proper : ∀ caller, (phases caller).proper) (caller : String)
    {phase : Phase Local} (next : phase.proper) (other : String) : (Function.update phases caller phase other).proper := by
  by_cases same : other = caller
  · subst same
    simpa using next
  · rw [Function.update_of_ne same]
    exact proper other

section
variable {world : World Env Local} (proper : ∀ caller, (world.phases caller).proper)
include proper

theorem proper_opens (caller : String)
    {next : Shared Env × Phase Local} (fits : next.2.proper) (other : String) : ((opens world caller next).phases other).proper := by
  unfold opens
  split
  · exact proper_update proper caller fits other
  · exact proper other

theorem proper_step (owner : String → String)
    (op : PipelineOp Input) (other : String) : ((pipelineStep executor owner op world).phases other).proper := by
  cases op with
  | createRun request id now => exact proper other
  | advanceNext caller now expiry =>
    refine proper_opens proper caller ?_ other
    dsimp only
    split <;> trivial
  | advanceRun caller id => exact proper_opens proper caller (proper_lookUp ..) other
  | cancelRun caller id cleanup => exact proper_opens proper caller (proper_lookUp ..) other
  | go caller input now expiry => exact proper_update proper caller (proper_proceed (proper caller) ..) other
  | renewClaim caller id expiry => exact proper other
  | stopBatch batchId now => exact proper other
  | crash caller => exact proper_update proper caller (show (Phase.idle : Phase Local).proper from trivial) other
  | outside input => exact proper other

end

end

end GmsRemoteTest.Automation
