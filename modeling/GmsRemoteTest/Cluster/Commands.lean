import GmsRemoteTest.Cluster.Observability

/-! Idempotent Worker command delivery and Cluster Job synchronization. -/
namespace GmsRemoteTest.Cluster
open DeviceClaims Text

def findCommand (db : Db) (id : String) : Option Command := Table.fetch (fun command => command.id = id) db.commands

def findJob (db : Db) (id : String) : Option Job := Table.fetch (fun job => job.id = id) db.jobs

structure CommandCreate where
  workerId : String
  commandType : CommandType
  jobId : String := ""
  attemptId : String := ""
  operationId : String := ""
  traceId : String := ""
  payload : CommandPayload := {}
  initialStatus : CommandStatus := .queued
  commandUuid : String
  traceUuid : String := ""
deriving DecidableEq, Repr

def requireSameRequest (command : Command) (ownerId digest : String) : Except ClusterError Unit :=
  if command.payload.ownerId ≠ ownerId then .error (.notFound "device action operation not found")
  else if command.payload.requestSha256 ≠ digest then
    .error (.conflict "operation key is already bound to a different request")
  else .ok ()

def attemptHasNoStartCommand (db : Db) (jobId attemptId excluded : String) : Prop :=
  ¬ ∃ command ∈ db.commands, command.jobId = jobId ∧ command.attemptId = attemptId ∧
    command.commandType = .startTest ∧ (excluded = "" ∨ command.id ≠ excluded)

instance (db : Db) (jobId attemptId excluded : String) : Decidable (attemptHasNoStartCommand db jobId attemptId excluded) :=
  inferInstanceAs (Decidable (¬ ∃ command ∈ db.commands, command.jobId = jobId ∧ command.attemptId = attemptId ∧
    command.commandType = .startTest ∧ (excluded = "" ∨ command.id ≠ excluded)))

def attachNote (command : Command) : TransitionNote :=
  { source := "controller", message := "Start command attached to Cluster Job"
    operationId := orElse command.operationId command.id, workerId := command.workerId }

def dispatchAttached (db : Db) (job : Job) (command : Command) (now : Nat) : Except ClusterError Db :=
  match transitionJobConn db job.id .dispatching (attachNote command) now with
  | (.error error,_) => .error error
  | (.ok _,moved) =>
    let attempts := Table.update (fun attempt => attempt.id = job.currentAttemptId ∧ attempt.status = .assigned)
      (fun attempt => {attempt with status := .dispatching}) moved.attempts
    .ok {moved with attempts := attempts}

def attachCommandToJobConn (db : Db) (jobId : String) (command : Command) (newlyCreated : Bool) (now : Nat) :
    Except ClusterError Db :=
  match findJob db jobId with
  | none => .error (.value "job not found")
  | some job =>
    if command.jobId ≠ jobId ∨ command.workerId ≠ job.assignedWorkerId ∨
        (command.attemptId ≠ "" ∧ command.attemptId ≠ job.currentAttemptId) then
      .error (.value "start command does not match the current job attempt")
    else if job.status ≠ .assigned then
      -- A crash between the two commits may leave `dispatching` with no start command.
      if newlyCreated ∧ ¬ (job.status = .dispatching ∧
          attemptHasNoStartCommand db jobId job.currentAttemptId command.id) then
        .error (.value "job is no longer awaiting dispatch")
      else .ok db
    else dispatchAttached db job command now

def commandTrace (db : Db) (data : CommandCreate) : String :=
  let job := if data.jobId = "" then none else findJob db data.jobId
  orElse data.traceId (orElse ((job.map (·.traceId)).getD "")
    (orElse data.payload.automationRunId ("trace-" ++ data.traceUuid)))

def newCommand (db : Db) (data : CommandCreate) (now : Nat) : Command :=
  let id := "cmd-" ++ data.commandUuid
  { id := id, workerId := data.workerId, commandType := data.commandType, jobId := data.jobId
    attemptId := data.attemptId, payload := data.payload, operationId := orElse data.operationId id
    traceId := commandTrace db data, status := data.initialStatus, createdAt := now, updatedAt := now }

def commandEvent (command : Command) (eventType source fromState toState message level : String) (now : Nat) :
    TimelineEvent :=
  { jobId := command.jobId, attemptId := command.attemptId, traceId := command.traceId
    operationId := command.operationId, workerId := command.workerId, eventType := eventType, source := source
    level := level, fromState := fromState, toState := toState, message := message, createdAt := now }

def insertCommand (db : Db) (command : Command) : Except ClusterError Db :=
  if ¬ unused (·.id) db.commands command.id then .error (.integrity "cluster_commands.id")
  else if unused (·.id) db.workers command.workerId then .error (.integrity "cluster_commands.worker_id")
  else if ∃ other ∈ db.commands, other.workerId = command.workerId ∧ other.operationId = command.operationId ∧
      command.operationId ≠ "" then .error (.integrity "idx_cluster_commands_operation")
  else .ok {db with commands := db.commands++[command]}

def reuseCommand (db : Db) (command : Command) (data : CommandCreate) (attachToJob : Bool) (now : Nat) :
    Except ClusterError (Command × Db) :=
  let checked := if data.commandType = .deviceAction then
    requireSameRequest command data.payload.ownerId data.payload.requestSha256 else .ok ()
  match checked with
  | .error error => .error error
  | .ok _ =>
    if attachToJob then (attachCommandToJobConn db data.jobId command false now).map fun attached => (command,attached)
    else .ok (command,db)

def persistCommand (db : Db) (data : CommandCreate) (attachToJob : Bool) (now : Nat) :
    Except ClusterError (Command × Db) :=
  let command := newCommand db data now
  match insertCommand db command with
  | .error error => .error error
  | .ok inserted =>
    let logged := inserted.append (commandEvent command "command.queued" "controller" "" data.initialStatus.text
      ("Persisted Worker command " ++ data.commandType.text) "info" now)
    if attachToJob then (attachCommandToJobConn logged data.jobId command true now).map fun attached => (command,attached)
    else .ok (command,logged)

def createCommandTx (db : Db) (data : CommandCreate) (attachToJob : Bool) (now : Nat) :
    Except ClusterError (Command × Db) :=
  let existing :=
    if data.operationId = "" then none
    else Table.fetch (fun command => command.workerId = data.workerId ∧ command.operationId = data.operationId)
      db.commands
  match existing with
  | some command => reuseCommand db command data attachToJob now
  | none =>
    if data.payload.playbackControlId ≠ "" ∧ ∃ command ∈ db.commands, command.workerId = data.workerId ∧
        command.payload.playbackControlId = data.payload.playbackControlId then
      .error (.conflict "playback control handle is already bound to an operation")
    else persistCommand db data attachToJob now

def createCommand (state : State) (data : CommandCreate) (attachToJob : Bool) (now : Nat) :
    Except ClusterError Command × State :=
  match createCommandTx state.db data attachToJob now with
  | .error error => (.error error,state)
  | .ok (command,db) => (.ok command,{state with db := db})

def activeTokens (leases : List Lease) (jobId : String) : List LeaseToken :=
  (Table.select (fun lease => lease.jobId = jobId ∧ lease.status = .active) leases).map fun lease =>
    ⟨lease.id,lease.deviceId,lease.generation,lease.attemptId⟩

def startCommand (job : Job) (leases : List Lease) (commandUuid : String) : CommandCreate :=
  { workerId := job.assignedWorkerId, commandType := .startTest, jobId := job.id
    attemptId := job.currentAttemptId, operationId := job.currentAttemptId ++ ":start_test"
    commandUuid := commandUuid
    payload :=
      { workerJobId := "wj-" ++ job.id, argv := job.request.argv, executionSpec := job.request.executionSpec
        env := job.request.env, devices := job.request.devices, traceId := job.traceId
        leaseTokens := activeTokens leases job.id } }

def dispatchJobStartCommand (state : State) (job : Job) (leases : List Lease) (commandUuid : String) (now : Nat) :
    Except ClusterError Command × State :=
  createCommand state (startCommand job leases commandUuid) true now

def deliveredStart (db : Db) (jobId attemptId : String) : Prop :=
  ∃ command ∈ db.commands, command.jobId = jobId ∧ command.attemptId = attemptId ∧
    command.commandType = .startTest ∧
    (command.status ≠ .queued ∨ command.deliveredAt ≠ none ∨ command.acknowledgedAt ≠ none)

instance (db : Db) (jobId attemptId : String) : Decidable (deliveredStart db jobId attemptId) :=
  inferInstanceAs (Decidable (∃ command ∈ db.commands, command.jobId = jobId ∧ command.attemptId = attemptId ∧
    command.commandType = .startTest ∧
    (command.status ≠ .queued ∨ command.deliveredAt ≠ none ∨ command.acknowledgedAt ≠ none)))

def compensateNote (error : String) : TransitionNote :=
  { source := "controller", message := "任务派发命令写入失败，任务已置为失败", error := error }

def compensated (db : Db) (job : Job) (error : String) (now : Nat) : Except ClusterError Db :=
  match transitionJobConn db job.id .failed (compensateNote error) now with
  | (.error failure,_) => .error failure
  | (.ok _,failed) =>
    let attempts := Table.update (fun attempt => attempt.id = job.currentAttemptId)
      (fun attempt => {attempt with status := .failed, finishedAt := some now, error := error}) failed.attempts
    let commands := Table.update (fun command => command.jobId = job.id ∧ command.attemptId = job.currentAttemptId ∧
      command.commandType = .startTest ∧ command.status = .queued ∧ command.deliveredAt = none ∧
      command.acknowledgedAt = none)
      (fun command => {command with status := .cancelled, error := error, updatedAt := now}) failed.commands
    let held := (Table.select (fun lease => lease.jobId = job.id ∧ lease.status = .active) failed.leases).map (·.deviceId)
    let leases := Table.update (fun lease => lease.jobId = job.id ∧ lease.status = .active)
      (closedLease .released now) failed.leases
    let devices := Table.update (fun device : Device => device.id ∈ held ∧ device.state = "allocated")
      (fun device => {device with state := "available", updatedAt := now}) failed.devices
    .ok {failed with attempts := attempts, commands := commands, leases := leases, devices := devices}

def compensateFailedDispatch (state : State) (jobId reason attemptId : String) (now : Nat) : Bool × State :=
  match findJob state.db jobId with
  | none => (false,state)
  | some job =>
    if ¬ (job.status = .assigned ∨ job.status = .dispatching) ∨
        (attemptId ≠ "" ∧ job.currentAttemptId ≠ attemptId) then (false,state)
    else if deliveredStart state.db jobId job.currentAttemptId then
      let event : TimelineEvent :=
        { jobId := jobId, attemptId := job.currentAttemptId, traceId := job.traceId, workerId := job.assignedWorkerId
          eventType := "command.dispatch_unconfirmed", source := "controller", level := "warning"
          message := "派发响应异常，命令已交付；保留设备锁等待 Worker 确认", createdAt := now }
      (false,{state with db := state.db.append event})
    else match compensated state.db job ("dispatch command failed: " ++ reason) now with
      | .error _ => (false,state)
      | .ok db => (true,⟨db,(release state.claims (jobSource jobId) .failed [] now).2⟩)

def requeue (commands : List Command) (workerId : String) (redeliverySeconds now : Nat) : List Command :=
  Table.update (fun command => command.workerId = workerId ∧ command.status = .delivered ∧
    ∃ delivered ∈ command.deliveredAt, delivered + max 1 redeliverySeconds ≤ now)
    (fun command => {command with status := .queued, updatedAt := now}) commands

def nextCommands (commands : List Command) (workerId : String) (limit : Nat) : List Command :=
  ((Table.select (fun command => command.workerId = workerId ∧ command.status = .queued) commands).insertionSort
    fun first second => first.createdAt ≤ second.createdAt).take limit

def pollCommands (state : State) (workerId : String) (limit redeliverySeconds now : Nat) : List Command × State :=
  let requeued := requeue state.db.commands workerId redeliverySeconds now
  let rows := nextCommands requeued workerId limit
  let delivered := Table.update (fun command => command.id ∈ rows.map (·.id))
    (fun command => {command with status := .delivered, deliveredAt := some now, updatedAt := now}) requeued
  let events := rows.map fun command => commandEvent command "command.delivered" "controller" "queued" "delivered"
    ("Delivered Worker command " ++ command.commandType.text) "info" now
  (rows,{state with db := {state.db with commands := delivered, timeline := state.db.timeline++events}})

def CommandStatus.rank : CommandStatus → Nat
  | .queued => 0
  | .delivered => 1
  | .accepted => 2
  | .running => 3
  | _ => 4

structure CommandAck where
  status : CommandStatus
  result : CommandResult := {}
  error : String := ""
deriving DecidableEq, Repr

def ackCommand (state : State) (workerId commandId : String) (data : CommandAck) (now : Nat) : Option Command × State :=
  match Table.fetch (fun command => command.id = commandId ∧ command.workerId = workerId) state.db.commands with
  | none => (none,state)
  | some current =>
    if current.status.terminal ∨ data.status.rank < current.status.rank then (some current,state)
    else
      let commands := Table.update (fun command => command.id = commandId ∧ command.workerId = workerId)
        (fun command => {command with
          status := data.status, result := data.result, error := data.error
          acknowledgedAt := some now, updatedAt := now}) state.db.commands
      let event := commandEvent current "command.acknowledged" "worker" current.status.text data.status.text
        ("Worker command " ++ current.commandType.text ++ " is " ++ data.status.text)
        (if data.status = .failed then "error" else "info") now
      let db := {state.db with commands := commands}.append event
      (findCommand db commandId,{state with db := db})

def CommandStatus.jobStatus : CommandStatus → Option JobStatus
  | .running => some .running
  | .completed => some .completed
  | .failed => some .failed
  | .cancelled => some .cancelled
  | _ => none

def reportedStatus (command : Command) : Option JobStatus :=
  if command.commandType = .stopTest ∧ command.status = .completed then some .cancelled
  else command.status.jobStatus

def reported (command : Command) (status : JobStatus) (now : Nat) (attempt : Attempt) : Attempt :=
  {attempt with
    status := status, workerJobId := command.result.workerJobId, result := command.result, error := command.error
    startedAt := if status = .running then some now else attempt.startedAt
    finishedAt := if status.terminal then some now else attempt.finishedAt}

def syncAttempt (db : Db) (job : Job) (command : Command) (status : JobStatus) (ended : Bool) (now : Nat) : Db :=
  let attempts := Table.update (fun attempt => attempt.id = job.currentAttemptId) (reported command status now) db.attempts
  if ended then
    let held := (Table.select (fun lease => lease.jobId = command.jobId ∧ lease.status = .active) db.leases).map
      (·.deviceId)
    let leases := Table.update (fun lease => lease.jobId = command.jobId ∧ lease.status = .active)
      (closedLease .released now) db.leases
    {db with attempts := attempts, leases := leases, devices := setDevices held "available" now db.devices}
  else {db with attempts := attempts}

def ackNote (command : Command) (status : JobStatus) : TransitionNote :=
  { source := "worker-ack", message := "Worker command moved Cluster Job to " ++ status.text
    error := command.error, operationId := command.operationId, workerId := command.workerId }

def syncJobFromCommand (state : State) (command : Command) (now : Nat) : State :=
  match reportedStatus command with
  | none => state
  | some status =>
    if command.jobId = "" then state
    else match findJob state.db command.jobId with
      | none => state
      | some job =>
        if command.attemptId ≠ "" ∧ command.attemptId ≠ job.currentAttemptId then
          let event := commandEvent command "command.stale_attempt" "controller" "" ""
            "Ignored command result from a stale Attempt" "warning" now
          {state with db := state.db.append event}
        else match transitionJobConn state.db command.jobId status (ackNote command status) now with
          | (.error _,_) => state
          | (.ok transitioned,db) =>
            let ended := transitioned && status.terminal
            let claims := if ended then
              (release state.claims (jobSource command.jobId)
                (if status = .cancelled then .cancelled else .released) [] now).2 else state.claims
            ⟨syncAttempt db job command status ended now,claims⟩

end GmsRemoteTest.Cluster
