import GmsRemoteTest.Cluster.Schema

/-! State transitions and durable Cluster timelines. A transition reads the job,
validates the edge and then compares and sets on `state_version`; the two halves
are kept apart because another process may write between them. -/
namespace GmsRemoteTest.Cluster
open DeviceClaims JobStatus

/-- The keyword arguments of `_transition_job_conn`. -/
structure TransitionNote where
  source : String
  message : String
  error : String := ""
  operationId : String := ""
  workerId : String := ""
deriving DecidableEq, Repr

/-- The row the `SELECT` of a transition returned. -/
structure TransitionRead where
  jobId : String
  fromStatus : JobStatus
  toStatus : JobStatus
  stateVersion : Nat
  attemptId : String
  traceId : String
  assignedWorkerId : String
deriving DecidableEq, Repr

def readTransition (db : Db) (jobId : String) (toStatus : JobStatus) : Except ClusterError (Option TransitionRead) :=
  match Table.fetch (fun job => job.id = jobId) db.jobs with
  | none => .ok none
  | some job =>
    if job.status = toStatus then .ok none
    else match validateJobTransition job.status toStatus with
      | .error error => .error (.transition error)
      | .ok _ => .ok (some ⟨jobId,job.status,toStatus,job.stateVersion,job.currentAttemptId,job.traceId,
          job.assignedWorkerId⟩)

def moved (toStatus : JobStatus) (error : String) (now : Nat) (job : Job) : Job :=
  {job with
    status := toStatus, error := error, updatedAt := now, lastTransitionAt := some now
    stateVersion := job.stateVersion+1
    startedAt := if toStatus = .running ∧ job.startedAt = none then some now else job.startedAt
    finishedAt := if toStatus.terminal then some now else job.finishedAt
    recoveryCount := job.recoveryCount + if job.status = .workerLost ∧ toStatus = .running then 1 else 0}

def transitionEvent (read : TransitionRead) (note : TransitionNote) (now : Nat) : TimelineEvent :=
  { jobId := read.jobId, attemptId := read.attemptId, traceId := read.traceId, operationId := note.operationId
    workerId := Text.orElse note.workerId read.assignedWorkerId
    eventType := "job.transition", source := note.source
    level := if read.toStatus = .failed ∨ read.toStatus = .workerLost then "error" else "info"
    fromState := read.fromStatus.text, toState := read.toStatus.text, message := note.message, createdAt := now }

def casTransition (db : Db) (read : TransitionRead) (note : TransitionNote) (now : Nat) : Bool × Db :=
  let rowcount := (Table.select (fun job => job.id = read.jobId ∧ job.stateVersion = read.stateVersion) db.jobs).length
  let jobs := Table.update (fun job => job.id = read.jobId ∧ job.stateVersion = read.stateVersion)
    (moved read.toStatus note.error now) db.jobs
  let updated := {db with jobs := jobs}
  if rowcount ≠ 1 then (false,updated) else (true,updated.append (transitionEvent read note now))

def transitionJobConn (db : Db) (jobId : String) (toStatus : JobStatus) (note : TransitionNote) (now : Nat) :
    Except ClusterError Bool × Db :=
  match readTransition db jobId toStatus with
  | .error error => (.error error,db)
  | .ok none => (.ok false,db)
  | .ok (some read) =>
    let result := casTransition db read note now
    (.ok result.1,result.2)

def transitionJob (state : State) (jobId : String) (toStatus : JobStatus) (note : TransitionNote) (now : Nat) :
    Except ClusterError Bool × State :=
  let message := Text.orElse note.message ("Cluster Job entered " ++ toStatus.text)
  let result := transitionJobConn state.db jobId toStatus {note with message := message} now
  (result.1,{state with db := result.2})

def closedLease (status : LeaseStatus) (now : Nat) (lease : Lease) : Lease :=
  {lease with status := status, releasedAt := some now}

def setDevices (ids : List String) (state : String) (now : Nat) (devices : List Device) : List Device :=
  Table.update (fun device => device.id ∈ ids) (fun device => {device with state := state, updatedAt := now}) devices

def abandonedError : String := "worker lost and did not reconnect in time"

def abandonNote : TransitionNote :=
  { source := "controller-watchdog"
    message := "Worker did not resume the lost Attempt in time; failing the stale worker_lost Cluster Job"
    error := abandonedError }

def abandonJob (state : State) (jobId : String) (now : Nat) : Bool × State :=
  match transitionJobConn state.db jobId .failed abandonNote now with
  | (.ok true,db) =>
    let attemptId := ((Table.fetch (fun job => job.id = jobId) db.jobs).map (·.currentAttemptId)).getD ""
    let attempts :=
      if attemptId = "" then db.attempts
      else Table.update (fun attempt => attempt.id = attemptId ∧ attempt.status.terminal = false)
        (fun attempt => {attempt with status := .failed, finishedAt := some now, error := abandonedError}) db.attempts
    let held := (Table.select (fun lease => lease.jobId = jobId ∧ lease.status.live = true) db.leases).map (·.deviceId)
    let leases := Table.update (fun lease => lease.jobId = jobId ∧ lease.status.live = true)
      (closedLease .released now) db.leases
    let devices := setDevices held "available" now db.devices
    (true,⟨{db with attempts := attempts, leases := leases, devices := devices},
      (release state.claims (jobSource jobId) .failed [] now).2⟩)
  | (_,db) => (false,{state with db := db})

def abandonLoop (now : Nat) : State → List String → List String × State
  | state, [] => ([],state)
  | state, jobId :: jobIds =>
    let turn := abandonJob state jobId now
    let rest := abandonLoop now turn.2 jobIds
    (if turn.1 then jobId :: rest.1 else rest.1,rest.2)

def failAbandonedWorkerLostJobs (state : State) (minAgeSeconds : Int) (now : Nat) : List String × State :=
  if minAgeSeconds < 0 then ([],state)
  else
    let rows := Table.select (fun job => job.status = .workerLost ∧
      job.lastTransitionAt.any (fun changed => (changed : Int) ≤ now - minAgeSeconds) = true) state.db.jobs
    abandonLoop now state (rows.map (·.id))

theorem readTransition_some {db : Db} {jobId : String} {toStatus : JobStatus} {read : TransitionRead}
    (found : readTransition db jobId toStatus = .ok (some read)) :
    ∃ job ∈ db.jobs, job.id = jobId ∧ Allowed job.status toStatus ∧
      read = ⟨jobId,job.status,toStatus,job.stateVersion,job.currentAttemptId,job.traceId,job.assignedWorkerId⟩ := by
  unfold readTransition at found
  split at found
  · cases found
  · rename_i job fetched
    split at found
    · cases found
    · rename_i different
      rw [validateJobTransition_eq different] at found
      by_cases allowed : Allowed job.status toStatus
      · simp only [if_pos allowed,Except.ok.injEq,Option.some.injEq] at found
        have same := Table.fetch_selects fetched
        exact ⟨job,Table.fetch_mem fetched,same,allowed,found.symm⟩
      · simp [if_neg allowed] at found

theorem transitionJobConn_cases {db : Db} (distinct : (db.jobs.map (·.id)).Nodup) (jobId : String)
    (toStatus : JobStatus) (note : TransitionNote) (now : Nat) :
    (transitionJobConn db jobId toStatus note now = (.ok false,db) ∧
      ∀ job ∈ db.jobs, job.id = jobId → job.status = toStatus) ∨
    (∃ job ∈ db.jobs, job.id = jobId ∧ job.status ≠ toStatus ∧ ¬ Allowed job.status toStatus ∧
      transitionJobConn db jobId toStatus note now = (.error (.transition ⟨job.status,toStatus⟩),db)) ∨
    (∃ job ∈ db.jobs, job.id = jobId ∧ Allowed job.status toStatus ∧ ∃ event : TimelineEvent,
      transitionJobConn db jobId toStatus note now = (.ok true,
        {db with
          jobs := Table.update (fun row => row.id = jobId) (moved toStatus note.error now) db.jobs
          timeline := db.timeline++[event]})) := by
  unfold transitionJobConn readTransition
  cases fetched : Table.fetch (fun job => job.id = jobId) db.jobs with
  | none =>
    refine .inl ⟨rfl,?_⟩
    intro job member same
    exact absurd same (Table.fetch_none.mp fetched job member)
  | some job =>
    have member := Table.fetch_mem fetched
    have same := Table.fetch_selects fetched
    by_cases equal : job.status = toStatus
    · refine .inl ⟨by simp [equal],?_⟩
      intro other present named
      rw [Table.eq_of_fetch distinct fetched present named]
      exact equal
    · dsimp only
      rw [if_neg equal,validateJobTransition_eq equal]
      by_cases allowed : Allowed job.status toStatus
      · refine .inr (.inr ⟨job,member,same,allowed,
          transitionEvent ⟨jobId,job.status,toStatus,job.stateVersion,job.currentAttemptId,job.traceId,
            job.assignedWorkerId⟩ note now,?_⟩)
        have current : ∀ row ∈ db.jobs, (row.id = jobId ∧ row.stateVersion = job.stateVersion) ↔ row.id = jobId := by
          intro row present
          refine ⟨fun both => both.1,fun named => ⟨named,?_⟩⟩
          rw [Table.eq_of_fetch distinct fetched present named]
        have single : (Table.select (fun row => row.id = jobId) db.jobs).length = 1 := by
          rw [← same,Table.select_key distinct member]
          rfl
        simp only [if_pos allowed,casTransition]
        rw [Table.select_congr current,Table.update_congr current]
        simp [single,Db.append]
      · refine .inr (.inl ⟨job,member,same,equal,allowed,?_⟩)
        simp only [if_neg allowed]

end GmsRemoteTest.Cluster
