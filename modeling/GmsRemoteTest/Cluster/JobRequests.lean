import GmsRemoteTest.Cluster.Jobs

/-! Submissions of `POST /jobs` with an Idempotency-Key, each in a process of its own that commits the claims, the job
with its receipt, the start command with the transition of its job, and the releases after them one by one. In between
others run, and it may die. -/
namespace GmsRemoteTest.Cluster
open DeviceClaims Text

structure Submission where
  ownerId : String
  key : Option String
  fingerprint : String
deriving DecidableEq, Repr

inductive ApiError
  | malformedRequest (message : String)
  | conflict (message : String)
  | dependencyUnavailable (message : String)
  | http (status : Nat) (message : String)
deriving DecidableEq, Repr

inductive Reply
  | job (jobId : String) (commandId : Option String)
  | error (error : ApiError)
  | died
deriving DecidableEq, Repr

def keyChar (c : Char) : Bool := c.isAlphanum || c == '.' || c == '_' || c == ':' || c == '-'

def validKey (key : String) : Bool := key ≠ "" && key.length ≤ 128 && key.toList.all keyChar

def findReceipt (db : Db) (ownerId key fingerprint : String) : Except ApiError (Option String) :=
  match Table.fetch (fun receipt => receipt.ownerId = ownerId ∧ receipt.requestKey = key) db.receipts with
  | none => .ok none
  | some receipt =>
    if receipt.requestHash ≠ fingerprint then
      .error (.conflict "Idempotency-Key was already used with a different job request")
    else .ok (some receipt.jobId)

/-- `get_job`: the row and its leases as of one reading. -/
structure JobRecord where
  job : Job
  leases : List Lease
deriving DecidableEq, Repr

def getJob (db : Db) (jobId : String) : Option JobRecord :=
  (findJob db jobId).map fun job => ⟨job,Table.select (fun lease => lease.jobId = jobId) db.leases⟩

def startRow (db : Db) (job : Job) : Option Command :=
  ((Table.select (fun command => command.jobId = job.id ∧ command.attemptId = job.currentAttemptId ∧
    command.commandType = .startTest) db.commands).insertionSort fun first second => first.createdAt ≤ second.createdAt).head?

inductive Decision
  | answer (commandId : Option String)
  | resume (row : Option String)
deriving DecidableEq, Repr

def replayDecision (db : Db) (job : Job) : Decision :=
  let row := (startRow db job).map (·.id)
  let attempt := Table.fetch (fun attempt => attempt.id = job.currentAttemptId) db.attempts
  if row ≠ none ∧ job.status ≠ .assigned then .answer row
  else if (job.status ≠ .assigned ∧ job.status ≠ .dispatching) ∨ attempt.map (·.attemptNumber) ≠ some 1 then .answer row
  else .resume row

def leaseGeneration (record : JobRecord) (deviceKey : String) : Option Int :=
  ((Table.select (fun lease => lease.deviceId = deviceKey ∧ lease.status = .active) record.leases).map (·.generation)).getLast?

def leasesCover (record : JobRecord) : Bool :=
  let requested := ((record.job.request.devices.map strip).filter (· ≠ "")).map (qualified record.job.assignedWorkerId)
  requested ≠ [] && requested.all fun deviceKey => (leaseGeneration record deviceKey).isSome

def ownClaim (record : JobRecord) (deviceKey : String) (claim : Option Claim) : Bool :=
  match claim with
  | none => false
  | some claim => claim.sourceId = jobSource record.job.id && claim.ownerId = record.job.ownerId &&
    (leaseGeneration record deviceKey).all fun generation => claim.generation = generation

/-- What `sync_job_from_command` has read before it writes. -/
structure SyncRead where
  job : Job
  status : JobStatus
  transition : Option TransitionRead
deriving DecidableEq, Repr

def readSync (db : Db) (command : Command) (now : Nat) : Option SyncRead × Db :=
  match reportedStatus command, findJob db command.jobId with
  | some status, some job =>
    if command.jobId = "" then (none,db)
    else if command.attemptId ≠ "" ∧ command.attemptId ≠ job.currentAttemptId then
      (none,db.append (commandEvent command "command.stale_attempt" "controller" "" ""
        "Ignored command result from a stale Attempt" "warning" now))
    else match readTransition db command.jobId status with
      | .error _ => (none,db)
      | .ok transition => (some ⟨job,status,transition⟩,db)
  | _, _ => (none,db)

def writeSync (db : Db) (command : Command) (read : SyncRead) (now : Nat) : Bool × Db :=
  let cas := match read.transition with
    | none => (false,db)
    | some transition => casTransition db transition (ackNote command read.status) now
  let ended := cas.1 && read.status.terminal
  (ended,syncAttempt cas.2 read.job command read.status ended now)

inductive Cause
  | submission | replay | lostClaim
deriving DecidableEq, Repr

def Cause.error : Cause → Bool → ApiError
  | .submission, true => .dependencyUnavailable "任务派发失败，任务已置为失败"
  | .submission, false => .dependencyUnavailable "任务已创建，派发结果待确认；设备锁已保留，请查看原任务状态"
  | .replay, true => .dependencyUnavailable "Could not queue the original job"
  | .replay, false => .dependencyUnavailable "Original job delivery is unconfirmed; device claims remain held"
  | .lostClaim, _ => .conflict "The original job lost its device claim before dispatch"

inductive Phase
  | arriving
  | searching
  | reading (jobId : String)
  | creating
  | claimed (data : JobCreate) (claims : JobClaims)
  | returning (data : JobCreate) (transferred : Bool) (error : ApiError)
  | created (jobId : String)
  | dispatching (record : JobRecord) (cause : Cause)
  | replaying (record : JobRecord)
  | fencing (record : JobRecord) (row : Option String) (keys : List String) (fenced : Bool)
  | looking (record : JobRecord) (commandId : String)
  | attaching (record : JobRecord) (command : Command)
  | syncing (record : JobRecord) (command : Command)
  | writing (record : JobRecord) (command : Command) (read : SyncRead)
  | compensating (record : JobRecord) (reason : String) (cause : Cause)
  | rereading (record : JobRecord)
  | freeing (jobId : String) (status : ClaimStatus) (reply : Reply)
  | ended (reply : Reply)

structure Draw where
  now : Nat
  data : JobCreate
  commandUuid : String := ""
  refused : Option ApiError := none
  raised : Option String := none

/-- The body with the owner of its account, the key and the fingerprint of the request. -/
def Submission.data (submission : Submission) (data : JobCreate) : JobCreate :=
  {data with ownerId := submission.ownerId, idempotencyKey := submission.key.getD "", requestHash := submission.fingerprint}

def ClusterError.api : ClusterError → ApiError
  | .integrity constraint => .http 500 (ClusterError.integrity constraint).text
  | error => .http 409 error.text

def advance (settings : Settings) (submission : Submission) (draw : Draw) (busy : Bool) (phase : Phase) (state : State) : Phase × State :=
  match phase with
  | .arriving =>
    match submission.key with
    | none => (.creating,state)
    | some key =>
      if validKey key = false then
        (.ended (.error (.malformedRequest "Idempotency-Key must contain 1–128 ASCII letters, digits, or ._:-")),state)
      else if busy then (.ended (.error (.conflict "Job submission is busy")),state)
      else (.searching,state)
  | .searching =>
    match findReceipt state.db submission.ownerId (submission.key.getD "") submission.fingerprint with
    | .error error => (.ended (.error error),state)
    | .ok none => (.creating,state)
    | .ok (some jobId) => (.reading jobId,state)
  | .reading jobId =>
    match getJob state.db jobId with
    | none => (.ended (.error (.conflict "The job created by this Idempotency-Key has been deleted")),state)
    | some record =>
      match draw.refused with
      | some error => (.ended (.error error),state)
      | none => (.replaying record,state)
  | .creating =>
    match draw.refused with
    | some error => (.ended (.error error),state)
    | none =>
      let data := submission.data draw.data
      match claimJobDevices settings state data draw.now with
      | (.error error,registry) => (.ended (.error error.api),{state with claims := registry})
      | (.ok claims,registry) => (.claimed data claims,{state with claims := registry})
  | .claimed data claims =>
    match createJobMetadata settings state data claims.records draw.now, draw.raised with
    | (.error error,failed), _ => (.returning data claims.transferred error.api,failed)
    -- The job is committed, and reading it back fails.
    | (.ok _,made), some message => (.returning data claims.transferred (.http 500 message),made)
    | (.ok _,made), none => (.created data.jobId,made)
  | .returning data transferred error =>
    (.ended (.error error),{state with claims := returnClaims state data transferred draw.now})
  | .created jobId =>
    match getJob state.db jobId with
    | none => (.ended (.error (.http 500 "'id'")),state)
    | some record => (.dispatching record .submission,state)
  | .dispatching record cause =>
    match dispatchJobStartCommand state record.job record.leases draw.commandUuid draw.now, draw.raised with
    | (.error error,failed), _ => (.compensating record error.text cause,failed)
    | (.ok _,sent), some message => (.compensating record message cause,sent)
    | (.ok command,sent), none => (.ended (.job record.job.id (some command.id)),sent)
  | .replaying record =>
    match replayDecision state.db record.job with
    | .answer commandId => (.ended (.job record.job.id commandId),state)
    | .resume row =>
      let keys := (claimDevices state.db record.job.assignedWorkerId record.job.request.devices).map (·.deviceKey)
      (.fencing record row keys (leasesCover record),state)
  | .fencing record row [] fenced =>
    if fenced = false then (.compensating record "device claim was lost before dispatch" .lostClaim,state)
    else match row with
      | some commandId => (.looking record commandId,state)
      | none => (.dispatching record .replay,state)
  | .fencing record row (deviceKey :: keys) fenced =>
    let read := activeClaim state.claims deviceKey draw.now
    if ownClaim record deviceKey read.1 then (.fencing record row keys fenced,{state with claims := read.2})
    else (.compensating record "device claim was lost before dispatch" .lostClaim,{state with claims := read.2})
  | .looking record commandId =>
    match findCommand state.db commandId with
    | none => (.compensating record "the original start command is missing" .replay,state)
    | some command => (.attaching record command,state)
  | .attaching record command =>
    match attachCommandToJobConn state.db record.job.id command false draw.now, draw.raised with
    | .error error, _ => (.compensating record error.text .replay,state)
    | .ok db, some message => (.compensating record message .replay,{state with db := db})
    | .ok db, none => (.syncing record command,{state with db := db})
  | .syncing record command =>
    match readSync state.db command draw.now with
    | (none,db) => (.ended (.job record.job.id (some command.id)),{state with db := db})
    | (some read,db) => (.writing record command read,{state with db := db})
  | .writing record command read =>
    match draw.raised, writeSync state.db command read draw.now with
    | some message, _ => (.compensating record message .replay,state)
    | none, (false,db) => (.ended (.job record.job.id (some command.id)),{state with db := db})
    | none, (true,db) =>
      let status := if read.status = .cancelled then .cancelled else .released
      (.freeing record.job.id status (.job record.job.id (some command.id)),{state with db := db})
  | .compensating record reason cause =>
    -- An exception inside is logged and reads as not compensated.
    let result := match draw.raised with
      | some _ => (false,state)
      | none => compensateFailedDispatch state record.job.id reason record.job.currentAttemptId draw.now
    let written := {state with db := result.2.db}
    if result.1 then (.freeing record.job.id .failed (.error (cause.error true)),written)
    else match cause with
      | .lostClaim => (.rereading record,written)
      | _ => (.ended (.error (cause.error false)),written)
  | .rereading record =>
    match getJob state.db record.job.id with
    | none => (.ended (.error (Cause.lostClaim.error false)),state)
    | some current =>
      if current.job.status ≠ .assigned ∨ current.job.currentAttemptId ≠ record.job.currentAttemptId then (.replaying current,state)
      else (.ended (.error (Cause.lostClaim.error false)),state)
  | .freeing jobId status reply =>
    (.ended reply,{state with claims := (release state.claims (jobSource jobId) status [] draw.now).2})
  | .ended reply => (.ended reply,state)

end GmsRemoteTest.Cluster
