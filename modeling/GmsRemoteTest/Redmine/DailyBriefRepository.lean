import Mathlib.Data.String.Basic
import Mathlib.Data.Prod.Lex
import GmsRemoteTest.Lib.Json
import GmsRemoteTest.Lib.Pages
import GmsRemoteTest.Lib.Table

/-! The repository of the daily briefs of an owner: runs, their issues and frozen snapshots, and the queue of durable jobs.
Every definition here is one transaction; the clock readings and new ids of a call are its arguments. -/
namespace GmsRemoteTest.Redmine.DailyBrief

inductive JobKind
  | run
  | issue
deriving DecidableEq

inductive JobStatus
  | queued
  | running
  | completed
  | failed
  | cancelled
deriving DecidableEq

inductive RunStatus
  | pending
  | snapshotting
  | analyzing
  | completed
  | partially
  | failed
  | cancelled
deriving DecidableEq

inductive IssueStatus
  | pending
  | running
  | completed
  | failed
  | stale
  | cancelled
deriving DecidableEq

def TERMINAL_RUN_STATUSES : List RunStatus := [.completed,.partially,.failed,.cancelled]

structure DailyBriefRun where
  ownerId : String
  briefDate : String
  mode : String
  runId : String
  status : RunStatus
  startedAt : String
  finishedAt : String
  snapshotAt : String
  snapshotHash : String
  sourceSyncStatus : String
  dataQuality : String
  lastSyncAt : String
  issueCount : Int
  waitingMyReplyCount : Int
  noReply3DaysCount : Int
  urgentCount : Int
  analysisBackend : String
  modelName : String
  deviceSerial : String
  analysisHint : String
  promptVersion : String
  reportJson : Json.Value
  reportMarkdown : String
  error : String

def DailyBriefRun.Terminal (run : DailyBriefRun) : Prop := run.status ∈ TERMINAL_RUN_STATUSES

instance (run : DailyBriefRun) : Decidable run.Terminal := inferInstanceAs (Decidable (_ ∈ _))

/-- A row of the runs: the columns of a run, and those that `update_run` leaves out. -/
structure RunRow where
  run : DailyBriefRun
  cancelRequested : Bool
  createdAt : String
  updatedAt : String

structure DailyBriefIssue where
  runId : String
  issueId : Int
  buckets : List String
  priority : String
  priorityScore : Int
  fingerprint : String
  subject : String
  status : IssueStatus
  startedAt : String
  finishedAt : String
  durationMs : Int
  attemptCount : Int
  error : String
  errorType : String
  rawResponse : String
  result : Json.Value

structure Snapshot where
  runId : String
  snapshot : Json.Value

structure Job where
  jobId : String
  runId : String
  kind : JobKind
  issueId : Int
  status : JobStatus
  attemptCount : Nat
  workerId : String
  leaseToken : String
  leaseExpiresAt : String
  requestedAt : String
  startedAt : String
  finishedAt : String
  error : String

def Job.Active (job : Job) : Prop := job.status = .queued ∨ job.status = .running

instance (job : Job) : Decidable job.Active := inferInstanceAs (Decidable (_ ∨ _))

structure Db where
  runs : List RunRow
  issues : List DailyBriefIssue
  snapshots : List Snapshot
  jobs : List Job

/-- What a call reads from the clock: `_utc_now()` of the jobs and `_now()` of the other tables. -/
structure Clock where
  utc : String
  now : String

def clip (text : String) : String := String.ofList (text.toList.take 1000)

namespace Db
variable (db : Db)

def writeRuns (selects : RunRow → Prop) [DecidablePred selects] (set : RunRow → RunRow) : Db :=
  {db with runs := Table.update selects set db.runs}

def writeRun (runId : String) : (RunRow → RunRow) → Db := db.writeRuns (·.run.runId = runId)

def writeIssues (selects : DailyBriefIssue → Prop) [DecidablePred selects] (set : DailyBriefIssue → DailyBriefIssue) : Db :=
  {db with issues := Table.update selects set db.issues}

def writeIssue (runId : String) (issueId : Int) : (DailyBriefIssue → DailyBriefIssue) → Db :=
  db.writeIssues fun issue => issue.runId = runId ∧ issue.issueId = issueId

def writeJobs (selects : Job → Prop) [DecidablePred selects] (set : Job → Job) : Db :=
  {db with jobs := Table.update selects set db.jobs}

def getRow (runId : String) : Option RunRow := Table.fetch (·.run.runId = runId) db.runs

def activeJob (runId : String) (kind : JobKind) (issueId : Int) : Option Job :=
  (Pages.ordered (·.requestedAt)
    (Table.select (fun job => job.runId = runId ∧ job.kind = kind ∧ job.issueId = issueId ∧ job.Active) db.jobs)).head?

def resetRunForEnqueue (runId : String) (clock : Clock) : Db :=
  db.writeRun runId fun row =>
    {row with
      run := {row.run with status := .pending,startedAt := clock.now,finishedAt := "",error := ""}
      cancelRequested := false
      updatedAt := clock.now}

def newJob (jobId runId : String) (kind : JobKind) (issueId : Int) (clock : Clock) : Job :=
  ⟨jobId,runId,kind,issueId,.queued,0,"","","",clock.utc,"","",""⟩

def insertJob (runId : String) (kind : JobKind) (issueId : Int) (jobId : String) (clock : Clock) : Option (Job × Bool × Db) :=
  match db.activeJob runId kind issueId with
  | some existing => some (existing,false,db)
  | none =>
    if ∃ job ∈ db.jobs, job.jobId = jobId then none
    else
      let job := newJob jobId runId kind issueId clock
      some (job,true,{db with jobs := db.jobs++[job]})

def targetIssue (kind : JobKind) (issueId : Int) : Int :=
  match kind with
  | .run => 0
  | .issue => issueId

def enqueueJob (runId : String) (kind : JobKind) (issueId : Int) (jobId : String) (clock : Clock) : Option (Job × Bool × Db) :=
  let targetIssue := targetIssue kind issueId
  match db.getRow runId with
  | none => none
  | some _ =>
    if kind = .issue ∧ ¬∃ issue ∈ db.issues, issue.runId = runId ∧ issue.issueId = targetIssue then none
    else match db.insertJob runId kind targetIssue jobId clock with
      | none => none
      | some (job,false,stored) => some (job,false,stored)
      | some (job,true,stored) =>
        let reset := stored.resetRunForEnqueue runId clock
        some (job,true,match kind with
          | .run => reset
          | .issue => reset.writeIssue runId targetIssue fun issue =>
            {issue with status := .pending,startedAt := "",finishedAt := "",error := "",errorType := ""})

def expired (utc : String) : List (Job × RunStatus) :=
  (Table.select (fun job => job.status = .running ∧ job.leaseExpiresAt ≠ "" ∧ job.leaseExpiresAt < utc) db.jobs).flatMap fun job =>
    (Table.select (·.run.runId = job.runId) db.runs).map fun row => (job,row.run.status)

/-- A lapsed job is completed when its run is over, and else goes back into the queue. -/
def recover (clock : Clock) (item : Job × RunStatus) : Db :=
  if item.2 ∈ TERMINAL_RUN_STATUSES then
    db.writeJobs (·.jobId = item.1.jobId) fun job =>
      {job with status := .completed,workerId := "",leaseToken := "",leaseExpiresAt := "",finishedAt := clock.utc}
  else
    let requeued := db.writeJobs (·.jobId = item.1.jobId) fun job =>
      {job with status := .queued,workerId := "",leaseToken := "",leaseExpiresAt := "",error := "worker lease expired; queued for retry"}
    let pending := requeued.writeRun item.1.runId fun row =>
      {row with run := {row.run with status := .pending,error := "worker interrupted; queued for retry"},updatedAt := clock.now}
    match item.1.kind with
    | .run => pending
    | .issue => pending.writeIssue item.1.runId item.1.issueId fun issue => {issue with status := .pending}

/-- A run-level job of the run waits or runs. -/
def Covered (runId : String) : Prop := ∃ job ∈ db.jobs, job.runId = runId ∧ job.kind = .run ∧ job.Active

instance (runId : String) : Decidable (db.Covered runId) := inferInstanceAs (Decidable (∃ job ∈ db.jobs, _))

def superseded (utc : String) (job : Job) : Job :=
  {job with status := .cancelled,workerId := "",leaseToken := "",leaseExpiresAt := "",finishedAt := utc,error := "superseded by full run job"}

def cancelCovered (utc : String) : Db :=
  db.writeJobs (fun job => job.kind = .issue ∧ job.status = .queued ∧ db.Covered job.runId) (superseded utc)

def queueKey (job : Job) : String ×ₗ String := toLex (job.requestedAt,job.jobId)

def nextQueued : Option Job :=
  (Pages.ordered queueKey (Table.select (fun queued => queued.status = .queued ∧
    ¬∃ active ∈ db.jobs, active.runId = queued.runId ∧ active.status = .running) db.jobs)).head?

structure Claim where
  workerId : String
  leaseToken : String
  leaseExpiry : String
  clock : Clock

def leased (claim : Claim) (job : Job) : Job :=
  {job with
    status := .running
    workerId := claim.workerId
    leaseToken := claim.leaseToken
    leaseExpiresAt := claim.leaseExpiry
    startedAt := claim.clock.utc
    attemptCount := job.attemptCount + 1
    error := ""}

def claimFrom (claim : Claim) : Nat → Db → Option Job × Db
  | 0, db => (none,db)
  | turns + 1, db => match db.nextQueued with
    | none => (none,db)
    | some job =>
      if job.kind = .issue ∧ db.Covered job.runId then
        claimFrom claim turns (db.writeJobs (·.jobId = job.jobId) (superseded claim.clock.utc))
      else
        let claimed := db.writeJobs (fun row => row.jobId = job.jobId ∧ row.status = .queued) (leased claim)
        (Table.fetch (·.jobId = job.jobId) claimed.jobs,claimed)

def claimNextJob (claim : Claim) : Option Job × Db :=
  let recovered := (db.expired claim.clock.utc).foldl (fun db item => db.recover claim.clock item) db
  let settled := recovered.cancelCovered claim.clock.utc
  claimFrom claim (settled.jobs.length + 1) settled

def Holds (jobId workerId leaseToken : String) (job : Job) : Prop :=
  job.jobId = jobId ∧ job.workerId = workerId ∧ job.leaseToken = leaseToken ∧ job.status = .running

instance (jobId workerId leaseToken : String) : DecidablePred (Holds jobId workerId leaseToken) :=
  fun _ => inferInstanceAs (Decidable (_ ∧ _))

def renewJob (jobId workerId leaseToken leaseExpiry : String) : Bool × Db :=
  (db.jobs.any (Holds jobId workerId leaseToken ·),
    db.writeJobs (Holds jobId workerId leaseToken) fun job => {job with leaseExpiresAt := leaseExpiry})

def finishJob (jobId workerId leaseToken error utc : String) : Bool × Db :=
  (db.jobs.any (Holds jobId workerId leaseToken ·),
    db.writeJobs (Holds jobId workerId leaseToken) fun job =>
      {job with
        status := if error = "" then .completed else .failed
        workerId := "",leaseToken := "",leaseExpiresAt := "",finishedAt := utc,error := clip error})

def requeueJob (jobId workerId leaseToken reason now : String) : Bool × Db :=
  match Table.fetch (Holds jobId workerId leaseToken) db.jobs with
  | none => (false,db)
  | some job =>
    let queued := db.writeJobs (Holds jobId workerId leaseToken) fun job =>
      {job with status := .queued,workerId := "",leaseToken := "",leaseExpiresAt := "",error := clip reason}
    let pending := queued.writeRun job.runId fun row =>
      {row with run := {row.run with status := .pending,error := clip reason},updatedAt := now}
    (true,match job.kind with
      | .run => pending
      | .issue => pending.writeIssue job.runId job.issueId fun issue => {issue with status := .pending})

def cancelQueuedIssueJobs (runId utc : String) : Db :=
  db.writeJobs (fun job => job.runId = runId ∧ job.kind = .issue ∧ job.status = .queued) fun job =>
    {job with status := .cancelled,workerId := "",leaseToken := "",leaseExpiresAt := "",finishedAt := utc,
              error := "superseded by full run rerun"}

def hasActiveJob (runId : String) (kind : Option JobKind) : Bool :=
  db.jobs.any fun job => job.runId = runId ∧ job.Active ∧ ∀ only ∈ kind, job.kind = only

def getRun (runId : String) : Option DailyBriefRun := (db.getRow runId).map (·.run)

section
variable (canonicalOwnerId : String → String)

def findRun (ownerId briefDate mode : String) : Option DailyBriefRun :=
  (Table.fetch (fun row => row.run.ownerId = canonicalOwnerId ownerId ∧ row.run.briefDate = briefDate ∧ row.run.mode = mode)
    db.runs).map (·.run)

def updateRun (run : DailyBriefRun) (now : String) : Db :=
  db.writeRun run.runId fun row => {row with run := {run with ownerId := canonicalOwnerId run.ownerId},updatedAt := now}

def upsertIssue (issue : DailyBriefIssue) : Db :=
  {db with issues := Table.delete (fun old => old.runId = issue.runId ∧ old.issueId = issue.issueId) db.issues ++ [issue]}

def insertRun (run : DailyBriefRun) (now : String) : Option (Bool × String × Db) :=
  match Table.fetch (fun row => row.run.ownerId = run.ownerId ∧ row.run.briefDate = run.briefDate ∧ row.run.mode = run.mode) db.runs with
  | some row => some (false,row.run.runId,db)
  | none => match db.getRow run.runId with
    | some _ => none
    | none => some (true,run.runId,{db with runs := db.runs++[⟨run,false,now,now⟩]})

def createRunAndEnqueueJob (run : DailyBriefRun) (issue : Option DailyBriefIssue) (jobId : String) (clock : Clock) :
    Option (Bool × Job × Bool × Db) :=
  match db.insertRun {run with ownerId := canonicalOwnerId run.ownerId} clock.now with
  | none => none
  | some (runCreated,runId,stored) =>
    match stored.insertJob runId (if issue.isSome then .issue else .run) (issue.elim 0 (·.issueId)) jobId clock with
    | none => none
    | some (job,false,stored) => some (runCreated,job,false,stored)
    | some (job,true,stored) =>
      let listed := issue.elim stored fun issue => stored.upsertIssue {issue with runId}
      some (runCreated,job,true,if runCreated then listed.writeRun runId fun row => {row with run := {row.run with startedAt := clock.now}}
        else listed.resetRunForEnqueue runId clock)

def OfIssue (issueId : Int) (mode : String) : Prop :=
  let head := "issue:" ++ toString issueId
  0 ≤ issueId ∧ (mode = head ∨ mode = head ++ "\n" ∨ (head ++ ":").toList <+: mode.toList)

instance (issueId : Int) (mode : String) : Decidable (OfIssue issueId mode) := inferInstanceAs (Decidable (_ ∧ _))

def InHistory (ownerId : String) (issueId : Int) (runId : String) : Prop :=
  ∃ row ∈ db.runs, row.run.ownerId = canonicalOwnerId ownerId ∧ OfIssue issueId row.run.mode ∧ row.run.runId = runId

instance (ownerId : String) (issueId : Int) : DecidablePred (db.InHistory canonicalOwnerId ownerId issueId) :=
  fun _ => inferInstanceAs (Decidable (∃ row ∈ db.runs, _))

def deleteIssueHistory (ownerId : String) (issueId : Int) : Option Db :=
  if ∃ job ∈ db.jobs, db.InHistory canonicalOwnerId ownerId issueId job.runId ∧ job.Active then none
  else some {
    runs := Table.delete (fun row => db.InHistory canonicalOwnerId ownerId issueId row.run.runId) db.runs
    issues := Table.delete (fun issue => db.InHistory canonicalOwnerId ownerId issueId issue.runId) db.issues
    snapshots := Table.delete (fun snapshot => db.InHistory canonicalOwnerId ownerId issueId snapshot.runId) db.snapshots
    jobs := Table.delete (fun job => db.InHistory canonicalOwnerId ownerId issueId job.runId) db.jobs}

end

def requestCancel (runId now : String) : Bool × Db :=
  (db.runs.any fun row => row.run.runId = runId ∧ ¬row.run.Terminal,
    db.writeRuns (fun row => row.run.runId = runId ∧ ¬row.run.Terminal) fun row => {row with cancelRequested := true,updatedAt := now})

def isCancelRequested (runId : String) : Bool := ((db.getRow runId).map (·.cancelRequested)).getD false

def clearCancel (runId now : String) : Db := db.writeRun runId fun row => {row with cancelRequested := false,updatedAt := now}

def cancelQueuedIssueRun (runId now : String) : Bool × Db :=
  match db.getRow runId with
  | none => (false,db)
  | some row =>
    if ¬"issue:".toList <+: row.run.mode.toList ∨ row.run.Terminal ∨ ∃ job ∈ db.jobs, job.runId = runId ∧ job.status = .running then
      (false,db)
    else
      let stopped := db.writeJobs (fun job => job.runId = runId ∧ job.status = .queued) fun job =>
        {job with status := .cancelled,finishedAt := now,error := "cancelled before execution"}
      let marked := stopped.writeIssues (fun issue => issue.runId = runId ∧ (issue.status = .pending ∨ issue.status = .running))
        fun issue => {issue with status := .cancelled,finishedAt := now,error := "",errorType := ""}
      (true,marked.writeRun runId fun row =>
        {row with run := {row.run with status := .cancelled,error := "",finishedAt := now},updatedAt := now})

def resetStaleRunning (olderThan now : String) : Db :=
  db.writeRuns (fun row => (row.run.status = .pending ∨ row.run.status = .snapshotting ∨ row.run.status = .analyzing) ∧
      row.run.startedAt < olderThan ∧ ¬∃ job ∈ db.jobs, job.runId = row.run.runId ∧ job.Active) fun row =>
    {row with run := {row.run with status := .failed,error := "interrupted by process restart"},updatedAt := now}

def deleteIssues (runId : String) : Db := {db with issues := Table.delete (·.runId = runId) db.issues}

def saveSnapshot (runId : String) (snapshot : Json.Value) : Db :=
  {db with snapshots := Table.delete (·.runId = runId) db.snapshots ++ [⟨runId,snapshot⟩]}

def deleteSnapshot (runId : String) : Db := {db with snapshots := Table.delete (·.runId = runId) db.snapshots}

end Db

end GmsRemoteTest.Redmine.DailyBrief
