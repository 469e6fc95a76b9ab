import GmsRemoteTest.Cluster.Inventory

/-! Job creation with device leases, and deletion of finished jobs. Creation takes
the physical claims first and then commits job, receipt, attempt and leases in one
transaction; an error there gives the claims back. -/
namespace GmsRemoteTest.Cluster
open DeviceClaims Text

structure JobCreate where
  workerId : String
  devices : List String
  ownerId : String
  ownerUsername : String := ""
  deviceReservationId : String := ""
  automationRunId : String := ""
  traceId : String := ""
  exclusiveHost : Bool := false
  requiredMemoryGb : ℚ := 0
  argv : List String := []
  executionSpec : String := ""
  env : String := ""
  idempotencyKey : String := ""
  requestHash : String := ""
  jobUuid : String
  attemptUuid : String
  traceUuid : String := ""
  leaseUuid : String → String := id

namespace JobCreate

def jobId (data : JobCreate) : String := "job-" ++ data.jobUuid

def attemptId (data : JobCreate) : String := "attempt-" ++ data.attemptUuid

end JobCreate

def positiveMetric (value : ℚ) : ℚ := if 0 < value then value else 0

def admissionReasons (settings : Settings) (worker : Worker) (requiredMemoryGb : ℚ) : List String :=
  let status := match worker.status with
    | .draining => ["draining"]
    | .online | .busy => []
    | .offline => ["offline"]
  let disk := positiveMetric worker.diskFreeGb
  let lowDisk := if disk ≠ 0 ∧ disk < settings.minDiskFreeGb then ["low_disk"] else []
  let memory := positiveMetric worker.memoryAvailableGb
  let required := max (positiveMetric requiredMemoryGb) settings.minMemoryAvailableGb
  let lowMemory := if memory ≠ 0 ∧ required ≠ 0 ∧ memory < required then ["low_memory"] else []
  let maxJobs := if normalizeMaxJobs worker.maxJobs ≤ worker.runningJobs then ["max_jobs"] else []
  let external := if worker.unknownExternalJobs ≠ 0 then ["external_tradefed"] else []
  status ++ lowDisk ++ lowMemory ++ maxJobs ++ external

def sameSet (first second : List String) : Prop := (∀ value ∈ first, value ∈ second) ∧ ∀ value ∈ second, value ∈ first

instance (first second : List String) : Decidable (sameSet first second) :=
  inferInstanceAs (Decidable ((∀ value ∈ first, value ∈ second) ∧ ∀ value ∈ second, value ∈ first))

def checkReservation (db : Db) (data : JobCreate) (ownerId : String) : Except ClusterError Unit :=
  match reservationPayload db data.deviceReservationId with
  | none => .error (.value "device reservation is missing or expired")
  | some reservation =>
    if reservation.status ≠ .active then .error (.value "device reservation is missing or expired")
    else if reservation.workerId ≠ data.workerId then .error (.value "device reservation belongs to another Worker")
    else if reservation.ownerId ≠ ownerId then .error (.value "device reservation belongs to another owner")
    else if data.automationRunId ≠ "" ∧ reservation.sourceId ≠ data.automationRunId then
      .error (.value "device reservation belongs to another automation run")
    else if ¬ sameSet (((data.devices.map strip).filter (· ≠ "")).map (qualified data.workerId)) reservation.devices then
      .error (.value "test devices do not match the active reservation")
    else .ok ()

def acquireJob (settings : Settings) (registry : Registry) (devices : List DeviceRequest) (ownerId username jobId : String)
    (now : Nat) : Except ClusterError (List Claim) × Registry :=
  let result := acquire registry devices
    ⟨ownerId,orElse username ownerId,"cluster-job",jobSource jobId,settings.claimLeaseTtlSeconds,true⟩ now now
  match result.1 with
  | .error error => (.error (.claim error),result.2)
  | .ok acquisition =>
    if acquisition.acquired then (.ok acquisition.records,result.2)
    else (.error (claimedBy acquisition.records),result.2)

structure JobClaims where
  records : List Claim
  transferred : Bool
deriving DecidableEq, Repr

def claimJobDevices (settings : Settings) (state : State) (data : JobCreate) (now : Nat) :
    Except ClusterError JobClaims × Registry :=
  match findWorker state.db data.workerId with
  | none => (.error (.value "worker not found"),state.claims)
  | some worker =>
    if worker.status ≠ .online ∧ worker.status ≠ .busy then (.error (.value "worker is not online"),state.claims)
    else
      let devices := claimDevices state.db data.workerId data.devices
      let ownerId := strip data.ownerId
      if ownerId = "" then (.error (.value "authenticated owner_id is required"),state.claims)
      else
        let keys := devices.map (·.deviceKey)
        let acquired (registry : Registry) : Except ClusterError JobClaims × Registry :=
          let result := acquireJob settings registry devices ownerId (strip data.ownerUsername) data.jobId now
          (result.1.map fun records => ⟨records,false⟩,result.2)
        if data.deviceReservationId = "" then acquired state.claims
        else match checkReservation state.db data ownerId with
          | .error error => (.error error,state.claims)
          | .ok _ =>
            let moved := transfer state.claims (reservationSource data.deviceReservationId) (jobSource data.jobId)
              "cluster-job" settings.claimLeaseTtlSeconds ownerId keys now now
            if 0 < moved.1 then
              let read := activeClaims moved.2 now keys
              (.ok ⟨read.1.filterMap id,true⟩,read.2)
            else acquired moved.2

def reservedIds (db : Db) (data : JobCreate) : Except ClusterError (List String) :=
  if data.deviceReservationId = "" then .ok []
  else
    let rows := Table.select (fun item => item.reservationId = data.deviceReservationId ∧ item.status = .active)
      db.reservations
    if rows = [] then .error (.value "device reservation is missing or expired")
    else if ∃ item ∈ rows, item.workerId ≠ data.workerId then
      .error (.value "device reservation belongs to another Worker")
    else if data.automationRunId ≠ "" ∧ ∃ item ∈ rows, item.sourceId ≠ data.automationRunId then
      .error (.value "device reservation belongs to another automation run")
    else if data.ownerId ≠ "" ∧ ∃ item ∈ rows, item.ownerId ≠ data.ownerId then
      .error (.value "device reservation belongs to another owner")
    else if ¬ sameSet (data.devices.map (qualified data.workerId)) (rows.map (·.deviceId)) then
      .error (.value "test devices do not match the active reservation")
    else .ok (rows.map (·.deviceId))

def physicalAliasDeviceIds (devices : List Device) (worker serial excluded : String) : List String :=
  let proxies := (proxyIds devices worker serial).filter (· ≠ excluded)
  let source := Table.fetch (fun device => device.workerId = worker ∧ device.serial = serial) devices
  proxies ++ ((source.filter fun device => device.id ≠ excluded).map (·.id)).toList

def aliasCandidates (devices : List Device) (workerId : String) (device : Device) : List String :=
  if isProxy device then
    let sourceWorker := device.properties.adbProxySourceWorkerId
    let sourceSerial := device.properties.adbProxySourceSerial
    if sourceWorker ≠ "" ∧ sourceSerial ≠ "" then physicalAliasDeviceIds devices sourceWorker sourceSerial device.id
    else []
  else (proxyIds devices workerId device.serial).filter (· ≠ device.id)

def physicalAliasLeaseConflict (db : Db) (workerId : String) (device : Device) : Option Lease :=
  (aliasCandidates db.devices workerId device).findSome? fun aliasId =>
    Table.fetch (fun lease => lease.deviceId = aliasId ∧ lease.status = .active) db.leases

def leaseDevice (settings : Settings) (data : JobCreate) (records : List Claim) (reservedDevices : List String)
    (now : Nat) (db : Db) (rawId : String) : Except ClusterError Db :=
  let deviceId := qualified data.workerId rawId
  match Table.fetch (fun device => device.id = deviceId ∧ device.workerId = data.workerId) db.devices with
  | none => .error (.value ("device not found on worker: " ++ rawId))
  | some device =>
    if device.state ≠ "available" ∧ deviceId ∉ reservedDevices then
      .error (.value ("device is not available: " ++ rawId))
    else if leased db.leases deviceId then .error (.value ("device is already leased: " ++ rawId))
    else match physicalAliasLeaseConflict db data.workerId device with
      | some conflict =>
        .error (.value ("device is already claimed through another transport alias: " ++ conflict.deviceId ++
          " (job " ++ conflict.jobId ++ ", owner " ++ conflict.ownerId ++ ")"))
      | none =>
        let claim := Table.fetch (fun record => record.deviceKey = deviceId) records
        let leaseId := (claim.map fun record => LeaseId.claim record.id).getD (.drawn (data.leaseUuid deviceId))
        let fenced := (claim.map (·.generation)).getD 0
        let generation := if 0 < fenced then fenced else (claimRequest db deviceId).generationFloor
        if ¬ unused (·.id) db.leases leaseId then .error (.integrity "device_leases.id")
        else
          let lease : Lease :=
            { id := leaseId, deviceId := deviceId, workerId := data.workerId, serial := device.serial
              jobId := data.jobId, attemptId := data.attemptId, ownerId := data.ownerId, status := .active
              generation := generation, acquiredAt := now, heartbeatAt := now
              expiresAt := now + settings.claimLeaseTtlSeconds }
          .ok {db with leases := db.leases++[lease], devices := setDevices [deviceId] "allocated" now db.devices}

def admitJob (settings : Settings) (db : Db) (data : JobCreate) : Except ClusterError Unit :=
  match findWorker db data.workerId with
  | none => .error (.value "worker not found")
  | some worker =>
    let reasons := admissionReasons settings worker data.requiredMemoryGb
    let active := Table.select (fun job => job.assignedWorkerId = data.workerId ∧ job.status.occupied = true) db.jobs
    if reasons ≠ [] then
      .error (.value ("worker is not admissible (" ++ ", ".intercalate reasons ++ ")"))
    else if normalizeMaxJobs worker.maxJobs ≤ active.length then
      .error (.value "worker already has the maximum number of active jobs")
    else if (∃ job ∈ active, job.request.exclusiveHost = true) ∨
        (data.exclusiveHost = true ∧ (active ≠ [] ∨ 0 < worker.runningJobs)) then
      .error (.value "a full-suite test requires exclusive use of the worker")
    else .ok ()

def newJob (data : JobCreate) (now : Nat) : Job :=
  { id := data.jobId, ownerId := data.ownerId, assignedWorkerId := data.workerId
    request := ⟨data.devices,data.exclusiveHost,data.argv,data.executionSpec,data.env⟩
    status := .assigned, currentAttemptId := data.attemptId
    traceId := orElse data.traceId (orElse data.automationRunId ("trace-" ++ data.traceUuid))
    lastTransitionAt := some now, createdAt := now, updatedAt := now }

def newAttempt (data : JobCreate) : Attempt :=
  { id := data.attemptId, jobId := data.jobId, attemptNumber := 1, workerId := data.workerId, status := .assigned }

def insertJob (db : Db) (data : JobCreate) (now : Nat) : Except ClusterError Db :=
  if ¬ unused (·.id) db.jobs data.jobId then .error (.integrity "cluster_jobs.id")
  else if data.idempotencyKey ≠ "" ∧ ∃ receipt ∈ db.receipts, receipt.ownerId = data.ownerId ∧
      receipt.requestKey = data.idempotencyKey then .error (.integrity "cluster_job_requests")
  else if ¬ unused (·.id) db.attempts data.attemptId then .error (.integrity "cluster_job_attempts.id")
  else
    let receipts := if data.idempotencyKey = "" then db.receipts
      else db.receipts++[⟨data.ownerId,data.idempotencyKey,data.requestHash,data.jobId⟩]
    let inserted := {db with jobs := db.jobs++[newJob data now], receipts := receipts}
    .ok {inserted with attempts := db.attempts++[newAttempt data]}

def createdEvent (data : JobCreate) (now : Nat) : TimelineEvent :=
  { jobId := data.jobId, attemptId := data.attemptId, traceId := (newJob data now).traceId, workerId := data.workerId
    eventType := "job.created", source := "controller", toState := "assigned"
    message := "Cluster Job created and device leases acquired", createdAt := now }

def insertJobWithLeases (settings : Settings) (db : Db) (data : JobCreate) (records : List Claim) (now : Nat) :
    Except ClusterError Db := do
  admitJob settings db data
  let reservedDevices ← reservedIds db data
  let inserted ← insertJob db data now
  let leasedDb ← data.devices.foldlM (leaseDevice settings data records reservedDevices now) inserted
  let reservations := if data.deviceReservationId = "" then leasedDb.reservations
    else Table.update (fun item => item.reservationId = data.deviceReservationId ∧ item.status = .active)
      (closedReservation .converted now) leasedDb.reservations
  return {leasedDb with reservations := reservations}.append (createdEvent data now)

def createJobMetadata (settings : Settings) (state : State) (data : JobCreate) (records : List Claim) (now : Nat) :
    Except ClusterError Unit × State :=
  let expired := expireDeviceReservations state now
  match insertJobWithLeases settings expired.db data records now with
  | .error error => (.error error,⟨state.db,expired.claims⟩)
  | .ok db => (.ok (),{expired with db := db})

def returnClaims (state : State) (data : JobCreate) (transferred : Bool) (now : Nat) : Registry :=
  if transferred then
    let keys := (claimDevices state.db data.workerId data.devices).map (·.deviceKey)
    let restored := transfer state.claims (jobSource data.jobId) (reservationSource data.deviceReservationId)
      "cluster-reservation" (6*60*60) (strip data.ownerId) keys now now
    if restored.1 = 0 then (release restored.2 (jobSource data.jobId) .failed [] now).2 else restored.2
  else (release state.claims (jobSource data.jobId) .failed [] now).2

def createJobWithLeases (settings : Settings) (state : State) (data : JobCreate) (now : Nat) :
    Except ClusterError Unit × State :=
  match claimJobDevices settings state data now with
  | (.error error,registry) => (.error error,{state with claims := registry})
  | (.ok claims,registry) =>
    match createJobMetadata settings {state with claims := registry} data claims.records now with
    | (.error error,failed) => (.error error,{failed with claims := returnClaims failed data claims.transferred now})
    | (.ok _,created) => (.ok (),created)

def deleteJob (state : State) (jobId : String) : Bool × State :=
  match findJob state.db jobId with
  | none => (false,state)
  | some job =>
    if job.status.terminal = false then (false,state)
    else
      let db := {state.db with
        leases := Table.delete (fun lease => lease.jobId = jobId) state.db.leases
        commands := Table.delete (fun command => command.jobId = jobId) state.db.commands
        attempts := Table.delete (fun attempt => attempt.jobId = jobId) state.db.attempts
        timeline := Table.delete (fun event => event.jobId = jobId) state.db.timeline
        jobs := Table.delete (fun row => row.id = jobId) state.db.jobs}
      (true,{state with db := db})

end GmsRemoteTest.Cluster
