import GmsRemoteTest.Lib.Interleaving
import GmsRemoteTest.Redmine.DailyBriefRows

/-! `start_run` and `start_refresh` beside each other, the workers and every other call of the service. A request reads the run,
resets it and queues a job in transactions of their own, and takes an active job of the run for the one it asked for. -/
namespace GmsRemoteTest.Redmine.DailyBrief.Start
open Interleaving Runs

def PROMPT_VERSION : String := "redmine_daily_triage_v27"

def ADMIN_OWNER_MESSAGE : String := "管理员账号不能运行每日晨报；请使用普通网页用户账号。"

def BRIEF_MODES : List String := ["nightly","delta","manual"]

/-- The queue, the transactions so far, and for every job the number of the one that has leased it last. -/
structure Shared where
  queue : Queue
  tick : Nat
  claimed : String → Nat

def Shared.start : Shared := ⟨.start,0,fun _ => 0⟩

def leasedBy (op : Op) (db : Db) : Option Job :=
  match op with
  | .claimNextJob claim => (db.claimNextJob claim).1
  | _ => none

inductive Request
  | run (ownerId briefDate mode : String) (force : Bool)
  | refresh (ownerId briefDate : String)

def Request.ownerId : Request → String
  | run ownerId _ _ _ => ownerId
  | refresh ownerId _ => ownerId

def Request.briefDate : Request → String
  | run _ briefDate _ _ => briefDate
  | refresh _ briefDate => briefDate

def Request.mode : Request → String
  | run _ _ mode _ => mode
  | refresh _ _ => "delta"

def Request.reuses (run : DailyBriefRun) : Request → Prop
  | .run _ _ _ force => (run.status = .completed ∨ run.status = .partially) ∧ force = false
  | refresh _ _ => False

instance (run : DailyBriefRun) (request : Request) : Decidable (request.reuses run) := by
  cases request <;> unfold Request.reuses <;> infer_instance

def Request.refreeze (run : DailyBriefRun) : Request → Prop
  | .run _ _ _ force => force = true ∨ run.status = .completed ∨ run.status = .partially
  | refresh _ _ => run.status = .completed ∨ run.status = .partially

instance (run : DailyBriefRun) (request : Request) : Decidable (request.refreeze run) := by
  cases request <;> unfold Request.refreeze <;> infer_instance

def Request.newRun (request : Request) (runId now : String) : DailyBriefRun :=
  ⟨request.ownerId,request.briefDate,request.mode,runId,.pending,now,"","","","","","",0,0,0,0,"","","","",PROMPT_VERSION,.object [],"",""⟩

def retried (run : DailyBriefRun) (now : String) : DailyBriefRun :=
  {run with
    status := .pending,error := "",startedAt := now,finishedAt := "",reportJson := .object [],reportMarkdown := ""
    promptVersion := PROMPT_VERSION}

inductive Result
  | error (text : String)
  | reused (runId : String) (status : RunStatus)
  | alreadyRunning (runId : String) (status : RunStatus)
  | queued (runId : String)
  | enqueued (runId jobId : String) (status : RunStatus) (queued alreadyRunning : Bool)

def Result.queuedRun : Result → Option String
  | queued runId => some runId
  | enqueued runId _ _ true _ => some runId
  | _ => none

/-- Where a call stands. A mark is the number of transactions when the request had reset the run, or had seen it without a job. -/
inductive Task
  | idle
  | starting (request : Request)
  | recovering (request : Request)
  | findingNightly (request : Request)
  | finding (request : Request)
  | checking (run : DailyBriefRun)
  | requeuing (runId : String) (mark : Nat)
  | deletingSnapshot (run : DailyBriefRun)
  | deletingIssues (run : DailyBriefRun)
  | cancellingIssueJobs (run : DailyBriefRun)
  | clearing (run : DailyBriefRun)
  | updating (run : DailyBriefRun)
  | enqueuing (runId : String) (mark : Nat)
  | creating (request : Request)
  | created (job : Job) (runCreated queued : Bool) (mark : Nat)
  | returned (result : Result) (mark : Nat)
  | other

/-- What a step reads from the clock and what ids it draws; whether the recovery of interrupted runs comes through (its errors are
logged), and what another call does. -/
structure Answer where
  clock : Clock
  olderThan : String
  recovers : Bool
  runId : String
  jobId : String
  op : Op

section
variable (canonicalOwnerId : String → String) (isEligible : String → Bool)

def Shared.perform (op : Op) (shared : Shared) : Shared where
  queue := apply canonicalOwnerId op shared.queue
  tick := shared.tick + 1
  claimed := match leasedBy op shared.queue.db with
    | some job => Function.update shared.claimed job.jobId (shared.tick + 1)
    | none => shared.claimed

def Task.op (answer : Answer) : Task → Option Op
  | recovering _ => if answer.recovers then some (.resetStaleRunning answer.olderThan answer.clock.now) else none
  | requeuing runId _ | enqueuing runId _ => some (.enqueueJob runId .run 0 answer.jobId answer.clock)
  | deletingSnapshot run => some (.deleteSnapshot run.runId)
  | deletingIssues run => some (.deleteIssues run.runId)
  | cancellingIssueJobs run => some (.cancelQueuedIssueJobs run.runId answer.clock.utc)
  | clearing run => some (.clearCancel run.runId answer.clock.now)
  | updating run => some (.updateRun run answer.clock.now)
  | creating request => some (.createRunAndEnqueueJob (request.newRun answer.runId answer.clock.now) none answer.jobId answer.clock)
  | other => some answer.op
  | _ => none

/-- Where a step leads, from what it reads; a call that raises ends. -/
def Task.next (db : Db) (tick : Nat) (answer : Answer) : Task → Task
  | idle => idle
  | starting request => if isEligible request.ownerId then recovering request else returned (.error ADMIN_OWNER_MESSAGE) tick
  | recovering request => match request with
    | .run .. => finding request
    | .refresh .. => findingNightly request
  | findingNightly request => match db.findRun canonicalOwnerId request.ownerId request.briefDate "nightly" with
    | none => returned (.error ("no nightly run for " ++ request.briefDate ++ "; run nightly first")) tick
    | some _ => finding request
  | finding request => match db.findRun canonicalOwnerId request.ownerId request.briefDate request.mode with
    | none => creating request
    | some run =>
      if request.reuses run then returned (.reused run.runId run.status) tick
      else if ¬run.Terminal then checking run
      else if request.refreeze run then deletingSnapshot (retried run answer.clock.now)
      else clearing (retried run answer.clock.now)
  | checking run =>
    if db.hasActiveJob run.runId (some .run) then returned (.alreadyRunning run.runId run.status) tick else requeuing run.runId tick
  | requeuing runId mark | enqueuing runId mark =>
    if (db.enqueueJob runId .run 0 answer.jobId answer.clock).isSome then returned (.queued runId) mark else idle
  | deletingSnapshot run => deletingIssues run
  | deletingIssues run => cancellingIssueJobs run
  | cancellingIssueJobs run => clearing run
  | clearing run => updating run
  | updating run => enqueuing run.runId (tick + 1)
  | creating request =>
    match db.createRunAndEnqueueJob canonicalOwnerId (request.newRun answer.runId answer.clock.now) none answer.jobId answer.clock with
    | none => idle
    | some (runCreated,job,queued,_) => created job runCreated queued tick
  | created job runCreated queued mark => match db.getRun job.runId with
    | none => idle
    | some persisted => returned (.enqueued job.runId job.jobId persisted.status queued (!runCreated)) mark
  | returned result mark => returned result mark
  | other => other

def act (shared : Shared) (task : Task) (answer : Answer) : Shared × Task :=
  ((task.op answer).elim shared fun op => shared.perform canonicalOwnerId op,
    task.next canonicalOwnerId isEligible shared.queue.db shared.tick answer)

def Task.Begins : Task → Prop
  | starting request => request.mode ∈ BRIEF_MODES
  | other => True
  | _ => False

instance : DecidablePred Task.Begins := fun task => by
  cases task <;> unfold Task.Begins <;> infer_instance

def service : System Shared Task Answer Empty := ⟨.idle,Task.Begins,act canonicalOwnerId isEligible,fun _ change => nomatch change⟩

end

/-- Every caller of `update_run` writes back the mode it has read: that of a run of the service stays one. -/
def Keeps (op : Op) (db : Db) : Prop :=
  match op with
  | .updateRun run _ => ∀ row ∈ db.runs, row.run.runId = run.runId → row.run.mode ∈ BRIEF_MODES → run.mode ∈ BRIEF_MODES
  | _ => True

instance (op : Op) (db : Db) : Decidable (Keeps op db) := by
  cases op <;> unfold Keeps <;> infer_instance

/-- The other calls keep the modes. -/
def Proper (shared : Shared) (task : Task) (answer : Answer) : Prop :=
  match task with
  | .other => Keeps answer.op shared.queue.db
  | _ => True

instance (shared : Shared) (task : Task) (answer : Answer) : Decidable (Proper shared task answer) := by
  cases task <;> unfold Proper <;> infer_instance

def Recent (shared : Shared) (runId : String) (mark : Nat) : Prop :=
  ∀ job ∈ shared.queue.db.jobs, job.runId = runId → job.kind = .run → job.status = .running → mark < shared.claimed job.jobId

instance (shared : Shared) (runId : String) (mark : Nat) : Decidable (Recent shared runId mark) := inferInstanceAs (Decidable (∀ job ∈ _, _))

/-- No execution that was claimed before the reset of a run is still on when the request comes to queue the run. -/
def Ended (shared : Shared) (task : Task) (answer : Answer) : Prop :=
  match task with
  | .enqueuing runId mark => Recent shared runId mark
  | task => Proper shared task answer

instance (shared : Shared) (task : Task) (answer : Answer) : Decidable (Ended shared task answer) := by
  cases task <;> unfold Ended <;> infer_instance

/-- The run waits, or was claimed after the mark and runs or has been executed. -/
def Served (shared : Shared) (runId : String) (mark : Nat) : Prop :=
  ∃ job ∈ shared.queue.db.jobs, job.runId = runId ∧ job.kind = .run ∧
    (job.status = .queued ∨ job.status ≠ .cancelled ∧ mark < shared.claimed job.jobId)

instance (shared : Shared) (runId : String) (mark : Nat) : Decidable (Served shared runId mark) := inferInstanceAs (Decidable (∃ job ∈ _, _))

instance (canonicalOwnerId : String → String) (isEligible : String → Bool) (guard : Shared → Task → Answer → Prop)
    [∀ shared task answer, Decidable (guard shared task answer)] (world : World Shared Task) :
    DecidablePred ((service canonicalOwnerId isEligible).Permitted guard world) := fun event =>
  match event with
  | .enter _ task => inferInstanceAs (Decidable task.Begins)
  | .advance caller answer => inferInstanceAs (Decidable (guard world.shared (world.tasks caller) answer))
  | .leave _ => isTrue trivial
  | .outside change => nomatch change

end GmsRemoteTest.Redmine.DailyBrief.Start
