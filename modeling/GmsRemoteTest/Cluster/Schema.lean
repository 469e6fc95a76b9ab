import Mathlib.Algebra.Order.Ring.Unbundled.Rat
import GmsRemoteTest.Foundation.DeviceClaims
import GmsRemoteTest.Cluster.StateMachine

/-! Tables of the cluster database and the claim registry beside it. A timestamp
is a number of seconds, an empty timestamp is `none`, and the random part of an
identifier is an input of the operation that draws it. -/
namespace GmsRemoteTest.Cluster
open DeviceClaims

inductive WorkerStatus
  | online | busy | draining | offline
deriving DecidableEq, Repr

inductive CommandStatus
  | queued | delivered | accepted | running | completed | failed | cancelled
deriving DecidableEq, Repr

def CommandStatus.text : CommandStatus → String
  | .queued => "queued"
  | .delivered => "delivered"
  | .accepted => "accepted"
  | .running => "running"
  | .completed => "completed"
  | .failed => "failed"
  | .cancelled => "cancelled"

def CommandStatus.terminal : CommandStatus → Bool
  | .completed | .failed | .cancelled => true
  | _ => false

inductive CommandType
  | startTest | stopTest | deviceAction | other (name : String)
deriving DecidableEq, Repr

def CommandType.text : CommandType → String
  | .startTest => "start_test"
  | .stopTest => "stop_test"
  | .deviceAction => "device_action"
  | .other name => name

inductive LeaseStatus
  | active | orphaned | released | revoked
deriving DecidableEq, Repr

/-- A lease that still binds its device: `status IN ('active','orphaned')`. -/
def LeaseStatus.live : LeaseStatus → Bool
  | .active | .orphaned => true
  | _ => false

inductive ReservationStatus
  | active | released | cancelled | converted | expired
deriving DecidableEq, Repr

/-- A lease takes the id of its claim, or draws `lease-<uuid4>`. -/
inductive LeaseId
  | claim (id : Nat) | drawn (uuid : String)
deriving DecidableEq, Repr

structure Worker where
  id : String
  status : WorkerStatus
  maxJobs : Int
  runningJobs : Nat := 0
  unknownExternalJobs : Nat := 0
  diskFreeGb : ℚ := 0
  memoryAvailableGb : ℚ := 0
  sessionId : String := ""
  connectionGeneration : Nat := 0
  disconnectedAt : Option Nat := none
  lastRecoveredAt : Option Nat := none
  registeredAt : Nat
  lastHeartbeatAt : Nat
deriving DecidableEq, Repr

/-- The entries of `properties_json` that claims and routing read. -/
structure DeviceProperties where
  adbProxySourceWorkerId : String := ""
  adbProxySourceSerial : String := ""
  usb : String := ""
deriving DecidableEq, Repr

structure Device where
  id : String
  workerId : String
  serial : String
  transport : String
  state : String
  properties : DeviceProperties
  updatedAt : Nat
deriving DecidableEq, Repr

/-- What `request_json` keeps for scheduling and for a replayed submission. -/
structure JobRequest where
  devices : List String
  exclusiveHost : Bool := false
  argv : List String := []
  executionSpec : String := ""
  env : String := ""
deriving DecidableEq, Repr

structure Job where
  id : String
  ownerId : String
  assignedWorkerId : String
  request : JobRequest
  status : JobStatus
  currentAttemptId : String
  traceId : String
  stateVersion : Nat := 1
  recoveryCount : Nat := 0
  lastTransitionAt : Option Nat
  createdAt : Nat
  startedAt : Option Nat := none
  finishedAt : Option Nat := none
  updatedAt : Nat
  error : String := ""
deriving DecidableEq, Repr

/-- A command result; `body` is the rest of its JSON text. -/
structure CommandResult where
  workerJobId : String := ""
  body : String := ""
deriving DecidableEq, Repr

structure Attempt where
  id : String
  jobId : String
  attemptNumber : Nat
  workerId : String
  workerJobId : String := ""
  status : JobStatus
  result : CommandResult := {}
  startedAt : Option Nat := none
  heartbeatAt : Option Nat := none
  finishedAt : Option Nat := none
  error : String := ""
deriving DecidableEq, Repr

structure Lease where
  id : LeaseId
  deviceId : String
  workerId : String
  serial : String
  jobId : String
  attemptId : String
  ownerId : String
  status : LeaseStatus
  generation : Int
  acquiredAt : Nat
  heartbeatAt : Nat
  expiresAt : Nat
  releasedAt : Option Nat := none
deriving DecidableEq, Repr

structure LeaseToken where
  leaseId : LeaseId
  deviceId : String
  generation : Int
  attemptId : String
deriving DecidableEq, Repr

/-- The action of a `device_action` payload; only the AOA playback is told apart. -/
inductive DeviceAction
  | aoaSequence | other (name : String)
deriving DecidableEq, Repr

inductive PlaybackAction
  | pause | resume | cancel
deriving DecidableEq, Repr

structure DebugEntry where
  sequence : Nat
  requestId : String
  command : String
deriving DecidableEq, Repr

structure CommandPayload where
  workerJobId : String := ""
  argv : List String := []
  executionSpec : String := ""
  env : String := ""
  devices : List String := []
  traceId : String := ""
  leaseTokens : List LeaseToken := []
  ownerId : String := ""
  requestSha256 : String := ""
  playbackControlId : String := ""
  automationRunId : String := ""
  action : DeviceAction := .other ""
  aoaControlAction : Option PlaybackAction := none
  aoaControlRevision : Nat := 0
  aoaDebugSessionId : String := ""
  aoaDebugQueue : List DebugEntry := []
  aoaDebugClosed : Bool := false
  claimSourceId : String := ""
  releaseClaimOnTerminal : Bool := false
deriving DecidableEq, Repr

structure Command where
  id : String
  workerId : String
  commandType : CommandType
  jobId : String
  attemptId : String
  payload : CommandPayload
  operationId : String
  traceId : String
  status : CommandStatus
  result : CommandResult := {}
  error : String := ""
  createdAt : Nat
  deliveredAt : Option Nat := none
  acknowledgedAt : Option Nat := none
  updatedAt : Nat
deriving DecidableEq, Repr

structure Reservation where
  id : String
  reservationId : String
  deviceId : String
  workerId : String
  serial : String
  ownerId : String
  sourceId : String
  status : ReservationStatus
  acquiredAt : Nat
  heartbeatAt : Nat
  expiresAt : Nat
  releasedAt : Option Nat := none
deriving DecidableEq, Repr

/-- A row of `cluster_job_requests`. -/
structure Receipt where
  ownerId : String
  requestKey : String
  requestHash : String
  jobId : String
deriving DecidableEq, Repr

structure TimelineEvent where
  jobId : String := ""
  attemptId : String := ""
  traceId : String := ""
  operationId : String := ""
  workerId : String := ""
  eventType : String
  source : String
  level : String := "info"
  fromState : String := ""
  toState : String := ""
  message : String
  createdAt : Nat
deriving DecidableEq, Repr

structure Db where
  workers : List Worker := []
  devices : List Device := []
  jobs : List Job := []
  attempts : List Attempt := []
  leases : List Lease := []
  commands : List Command := []
  reservations : List Reservation := []
  receipts : List Receipt := []
  timeline : List TimelineEvent := []
deriving DecidableEq, Repr

/-- The cluster database and the claim database; no transaction spans both. -/
structure State where
  db : Db := {}
  claims : Registry := .empty
deriving DecidableEq, Repr

/-- `claim_lease_ttl_seconds` and the admission floors of the environment. -/
structure Settings where
  claimLeaseTtlSeconds : Nat := 90
  minDiskFreeGb : ℚ := 50
  minMemoryAvailableGb : ℚ := 8
deriving DecidableEq, Repr

inductive ClusterError
  | value (message : String)
  | transition (error : InvalidJobTransition)
  | integrity (constraint : String)
  | claim (error : ClaimError)
  | conflict (message : String)
  | notFound (message : String)
deriving DecidableEq, Repr

def ClusterError.text : ClusterError → String
  | .value message => message
  | .transition error => error.text
  | .integrity constraint => "constraint failed: " ++ constraint
  | .claim error => error.text
  | .conflict message => message
  | .notFound message => message

def Db.append (db : Db) (event : TimelineEvent) : Db := {db with timeline := db.timeline++[event]}

def jobSource (jobId : String) : String := "job:" ++ jobId

def reservationSource (reservationId : String) : String := "reservation:" ++ reservationId

def unused {Row Value : Type} [DecidableEq Value] (field : Row → Value) (rows : List Row) (value : Value) : Bool :=
  value ∉ rows.map field

end GmsRemoteTest.Cluster
