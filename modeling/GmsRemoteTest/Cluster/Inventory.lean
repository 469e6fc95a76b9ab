import GmsRemoteTest.Lib.Runs
import GmsRemoteTest.Cluster.Reservations
import GmsRemoteTest.Cluster.Commands

/-! Worker registration, heartbeats and the offline watchdog. A heartbeat is one
transaction of the cluster database whose loop renews or revokes the claims of
every reported attempt; an error rolls the database back and leaves the claims. -/
namespace GmsRemoteTest.Cluster
open DeviceClaims Text

def normalizeMaxJobs (value : Int) : Int := min 32 (max 1 value)

structure WorkerRegistration where
  workerId : String
  maxJobs : Int
  sessionId : String := ""
deriving DecidableEq, Repr

def findWorker (db : Db) (id : String) : Option Worker := Table.fetch (fun worker => worker.id = id) db.workers

def registerWorker (state : State) (data : WorkerRegistration) (now : Nat) : State :=
  let existing := findWorker state.db data.workerId
  let previousSession := (existing.map (·.sessionId)).getD ""
  let changed : Prop := data.sessionId ≠ "" ∧ data.sessionId ≠ previousSession
  let session := orElse data.sessionId previousSession
  let generation := (existing.map (·.connectionGeneration)).getD 0 + if changed then 1 else 0
  let recovered : Bool := match existing with
    | none => false
    | some worker => worker.status = .offline ∨ changed
  let recoveredAt := if recovered then some now else none
  let workers := match existing with
    | none => state.db.workers++[{
        id := data.workerId, status := .online, maxJobs := normalizeMaxJobs data.maxJobs, sessionId := session
        connectionGeneration := generation, lastRecoveredAt := recoveredAt, registeredAt := now
        lastHeartbeatAt := now }]
    | some _ => Table.update (fun worker => worker.id = data.workerId) (fun worker => {worker with
        status := .online, maxJobs := normalizeMaxJobs data.maxJobs, sessionId := session
        connectionGeneration := generation, disconnectedAt := none, lastRecoveredAt := recoveredAt
        lastHeartbeatAt := now}) state.db.workers
  let event : TimelineEvent :=
    { workerId := data.workerId, eventType := if recovered then "worker.reconnected" else "worker.registered"
      source := "worker", message := if recovered then "Worker reconnected" else "Worker registered", createdAt := now }
  {state with db := {state.db with workers := workers}.append event}

structure ReportedDevice where
  serial : String
  transport : String := "local_usb"
  state : String := "available"
  properties : DeviceProperties := {}
deriving DecidableEq, Repr

structure RunningJob where
  workerJobId : String
  attemptId : String
  external : Bool := false
  devices : List String := []
deriving DecidableEq, Repr

structure Heartbeat where
  sessionId : String := ""
  connectionGeneration : Nat := 0
  diskFreeGb : ℚ := 0
  memoryAvailableGb : ℚ := 0
  runningJobs : List RunningJob := []
  devices : List ReportedDevice := []
deriving DecidableEq, Repr

def isLocalhost (serial : String) : Bool := "localhost:".toList.isPrefixOf (serial.toList.map Char.toLower)

def reportDevice (db : Db) (workerId : String) (external : List String) (now : Nat) (devices : List Device)
    (report : ReportedDevice) : List Device :=
  let id := key workerId report.serial
  let reported := if report.serial ∈ external then "external_busy" else report.state
  if unused (·.id) devices id then
    devices++[⟨id,workerId,report.serial,report.transport,reported,report.properties,now⟩]
  else
    let current := if leased db.leases id then "allocated" else if reserved db.reservations id then "reserved"
      else reported
    Table.update (fun device => device.id = id) (fun device => {device with
      transport := report.transport, state := current, properties := report.properties, updatedAt := now}) devices

def replaceDevices (db : Db) (workerId : String) (reports : List ReportedDevice) (external : List String) (now : Nat) :
    List Device :=
  let seen := reports.map fun report => key workerId report.serial
  let upserted := reports.foldl (reportDevice db workerId external now) db.devices
  let kept := Table.delete (fun device => device.workerId = workerId ∧ device.id ∉ seen ∧
    (isLocalhost device.serial = true ∨ device.transport = "usbip")) upserted
  Table.update (fun device => device.workerId = workerId ∧ device.id ∉ seen)
    (fun device => {device with state := "offline", updatedAt := now}) kept

def externalSerials (workerId : String) (running : List RunningJob) : List String :=
  (running.filter (·.external)).flatMap fun item => item.devices.map fun device =>
    if startsWith (workerId ++ ":") device then String.ofList (device.toList.drop (workerId.length+1)) else device

def fencingError : String := "device fencing claim expired or was superseded"

def activeLeasesDistinct (leases : List Lease) : Prop :=
  ((Table.select (fun lease => lease.status = .active) leases).map (·.deviceId)).Nodup

instance (leases : List Lease) : Decidable (activeLeasesDistinct leases) :=
  inferInstanceAs (Decidable ((Table.select (fun lease => lease.status = .active) leases).map (·.deviceId)).Nodup)

def fencingNote (workerId : String) : TransitionNote :=
  { source := "controller-fencing", message := "Rejected running Attempt after its device claim expired"
    error := fencingError, workerId := workerId }

def revokeAttempt (state : State) (job : Job) (workerId attemptId : String) (now : Nat) : State :=
  let db := (transitionJobConn state.db job.id .failed (fencingNote workerId) now).2
  let attempts := Table.update (fun attempt => attempt.id = attemptId)
    (fun attempt => {attempt with status := .failed, finishedAt := some now, error := fencingError}) db.attempts
  let leases := Table.update (fun lease => lease.attemptId = attemptId ∧ lease.status.live = true)
    (closedLease .revoked now) db.leases
  ⟨{db with attempts := attempts, leases := leases},(release state.claims (jobSource job.id) .failed [] now).2⟩

def resumeLeases (settings : Settings) (leases : List Lease) (workerId attemptId : String) (now : Nat) : List Lease :=
  Table.update (fun lease => lease.attemptId = attemptId ∧ lease.workerId = workerId ∧ lease.status = .orphaned)
    (fun lease => {lease with
    status := .active, heartbeatAt := now, expiresAt := now + settings.claimLeaseTtlSeconds, releasedAt := none}) leases

def beatAttempts (attempts : List Attempt) (workerId : String) (running : RunningJob) (now : Nat) : List Attempt :=
  Table.update (fun attempt => attempt.id = running.attemptId ∧ attempt.workerId = workerId) (fun attempt => {attempt with
    status := .running, workerJobId := running.workerJobId, heartbeatAt := some now}) attempts

def resumeNote (workerId : String) : TransitionNote :=
  { source := "worker-heartbeat", message := "Worker reported the persisted Attempt running", workerId := workerId }

def resumeAttempt (settings : Settings) (db : Db) (job : Job) (workerId : String) (running : RunningJob) (now : Nat) :
    Except ClusterError Db :=
  let beating := {db with attempts := beatAttempts db.attempts workerId running now}
  match transitionJobConn beating job.id .running (resumeNote workerId) now with
  | (.error _,beaten) => .ok beaten
  | (.ok _,beaten) =>
    let resumed := resumeLeases settings beaten.leases workerId running.attemptId now
    if ¬ activeLeasesDistinct resumed then .error (.integrity "idx_active_device_lease")
    else
      let held := (Table.select (fun lease => lease.attemptId = running.attemptId ∧ lease.status = .active) resumed).map
        (·.deviceId)
      let renewed := Table.update (fun lease => lease.attemptId = running.attemptId ∧ lease.status = .active)
        (fun lease => {lease with
          heartbeatAt := now, expiresAt := now + settings.claimLeaseTtlSeconds}) resumed
      .ok {beaten with leases := renewed, devices := setDevices held "allocated" now beaten.devices}

def entryJob (db : Db) (workerId attemptId : String) : Option Job :=
  (Table.fetch (fun attempt => attempt.id = attemptId ∧ attempt.workerId = workerId) db.attempts).bind
    fun attempt => findJob db attempt.jobId

def liveDevices (leases : List Lease) (attemptId : String) : List String :=
  (Table.select (fun lease => lease.attemptId = attemptId ∧ lease.status.live = true) leases).map (·.deviceId)

def beatJob (settings : Settings) (committed : List Device) (workerId : String) (now : Nat) (state : State)
    (running : RunningJob) : Except ClusterError (Option String) × State :=
  if running.external then (.ok none,state)
  else match entryJob state.db workerId running.attemptId with
    | none => (.ok none,state)
    | some job =>
      let renewed := renewJobDeviceClaim settings committed state.claims job.id job.ownerId
        (liveDevices state.db.leases running.attemptId) now
      if renewed.1 then
        match resumeAttempt settings state.db job workerId running now with
        | .error error => (.error error,{state with claims := renewed.2})
        | .ok db => (.ok none,⟨db,renewed.2⟩)
      else
        (.ok (some running.attemptId),revokeAttempt {state with claims := renewed.2} job workerId running.attemptId now)

def heartbeatStatus (running : List RunningJob) : WorkerStatus :=
  if ∃ item ∈ running, item.external = true ∧ item.devices = [] then .draining
  else if running = [] then .online
  else .busy

def beforeBeats (state : State) (workerId : String) (data : Heartbeat) (now : Nat) : State :=
  let unknown := (data.runningJobs.filter fun item => item.external && item.devices = []).length
  let workers := Table.update (fun worker => worker.id = workerId) (fun worker => {worker with
    status := heartbeatStatus data.runningJobs, runningJobs := data.runningJobs.length
    unknownExternalJobs := unknown, diskFreeGb := data.diskFreeGb
    memoryAvailableGb := data.memoryAvailableGb, lastHeartbeatAt := now}) state.db.workers
  let expired := expireDeviceReservations {state with db := {state.db with workers := workers}} now
  let devices := replaceDevices expired.db workerId data.devices (externalSerials workerId data.runningJobs) now
  {expired with db := {expired.db with devices := devices}}

/-- The result lists the revoked attempts; an unknown Worker gets `none`. -/
def heartbeat (settings : Settings) (state : State) (workerId : String) (data : Heartbeat) (now : Nat) :
    Except ClusterError (Option (List String)) × State :=
  match findWorker state.db workerId with
  | none => (.ok none,state)
  | some worker =>
    if worker.sessionId ≠ "" ∧ (worker.sessionId ≠ data.sessionId ∨
        worker.connectionGeneration ≠ data.connectionGeneration) then (.error (.value "stale worker session"),state)
    else
      let ready := beforeBeats state workerId data now
      if ¬ (data.runningJobs.map (·.workerJobId)).Nodup then
        (.error (.integrity "cluster_worker_tests"),⟨state.db,ready.claims⟩)
      else match Runs.loop (beatJob settings state.db.devices workerId now) ready data.runningJobs with
        | (.error error,stopped) => (.error error,⟨state.db,stopped.claims⟩)
        | (.ok revoked,beaten) => (.ok (some (sorted (fromkeys (revoked.filterMap id)))),beaten)

def offlineNote (workerId : String) : TransitionNote :=
  { source := "controller-watchdog"
    message := "Worker heartbeat timed out; waiting for the same Attempt to reconnect"
    error := "worker heartbeat lost", workerId := workerId }

def orphanLeases (leases : List Lease) (jobId : String) : List Lease :=
  Table.update (fun lease => lease.jobId = jobId ∧ lease.status = .active)
    (fun lease => {lease with status := .orphaned}) leases

def loseJob (workerId : String) (now : Nat) (db : Db) (jobId : String) : Db :=
  match transitionJobConn db jobId .workerLost (offlineNote workerId) now with
  | (.error _,lost) => lost
  | (.ok _,lost) => {lost with leases := orphanLeases lost.leases jobId}

def markWorkerOffline (state : State) (workerId : String) (now : Nat) : State :=
  let workers := Table.update (fun worker => worker.id = workerId)
    (fun worker => {worker with status := .offline, disconnectedAt := some now}) state.db.workers
  let devices := Table.update (fun device => device.workerId = workerId)
    (fun device => {device with state := "unknown", updatedAt := now}) state.db.devices
  let jobs := (Table.select (fun job => job.assignedWorkerId = workerId ∧ job.status.occupied = true) state.db.jobs).map
    (·.id)
  let lost := jobs.foldl (loseJob workerId now) {state.db with workers := workers, devices := devices}
  let event : TimelineEvent :=
    { workerId := workerId, eventType := "worker.disconnected", source := "controller-watchdog", level := "warning"
      message := "Worker heartbeat timed out", createdAt := now }
  {state with db := lost.append event}

end GmsRemoteTest.Cluster
