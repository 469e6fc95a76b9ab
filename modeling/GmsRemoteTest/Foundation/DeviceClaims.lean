import GmsRemoteTest.Lib.Table
import GmsRemoteTest.Foundation.Text

/-! The durable claim registry shared by local, cluster and automation devices.
Timestamps are seconds; the sources compare them as fixed-width UTC texts. A claim
id is the number in `claim-<uuid4>`, drawn from a supply that never repeats. -/
namespace GmsRemoteTest.DeviceClaims
open Text

inductive ClaimStatus
  | active | released | cancelled | converted | expired | failed | reconciled
deriving DecidableEq, Repr

structure Claim where
  id : Nat
  deviceKey : String
  workerId : String
  serial : String
  ownerId : String
  username : String
  sourceType : String
  sourceId : String
  status : ClaimStatus
  generation : Int
  acquiredAt : Nat
  heartbeatAt : Nat
  expiresAt : Nat
  releasedAt : Option Nat
deriving DecidableEq, Repr

/-- The `device_claims` table and the next unused uuid. -/
structure Registry where
  rows : List Claim
  uuid : Nat
deriving DecidableEq, Repr

def Registry.empty : Registry := ⟨[],0⟩

structure DeviceRequest where
  deviceKey : String
  workerId : String
  serial : String
  generationFloor : Int := 1
deriving DecidableEq, Repr

structure ClaimRequest where
  ownerId : String
  username : String
  sourceType : String
  sourceId : String
  ttlSeconds : Int
  allowExistingSource : Bool := true
deriving DecidableEq, Repr

inductive ClaimError
  | noDevice | ownerAndSourceRequired | invalidReleaseStatus
deriving DecidableEq, Repr

def ClaimError.text : ClaimError → String
  | .noDevice => "at least one device claim is required"
  | .ownerAndSourceRequired => "device claim owner and source are required"
  | .invalidReleaseStatus => "invalid device claim release status"

/-- `_expires`, which reads the clock again. -/
def expiresAt (later : Nat) (ttlSeconds : Int) : Nat := later + (max 30 ttlSeconds).toNat

def normalizeLoop (seen : List String) : List DeviceRequest → List DeviceRequest
  | [] => []
  | item :: items =>
    let key := strip item.deviceKey
    let workerId := strip item.workerId
    let serial := strip item.serial
    if key = "" ∨ workerId = "" ∨ serial = "" ∨ key ∈ seen then normalizeLoop seen items
    else ⟨key,workerId,serial,max 1 (if item.generationFloor = 0 then 1 else item.generationFloor)⟩ ::
      normalizeLoop (key::seen) items

def normalizeDevices (devices : List DeviceRequest) : List DeviceRequest := normalizeLoop [] devices

def expire (now : Nat) (rows : List Claim) : List Claim :=
  Table.update (fun row => row.status = .active ∧ row.expiresAt ≤ now)
    (fun row => {row with status := .expired, releasedAt := some now}) rows

def activeRow (rows : List Claim) (key : String) : Option Claim :=
  Table.fetch (fun row => row.deviceKey = key ∧ row.status = .active) rows

def maxGeneration (rows : List Claim) (key : String) : Int :=
  ((Table.select (fun row => row.deviceKey = key) rows).map (·.generation)).max?.getD 0

structure Grant where
  registry : Registry
  records : List Claim

def extended (row : Claim) (now expires : Nat) : Claim := {row with heartbeatAt := now, expiresAt := expires}

def grantDevice (existing : String → Option Claim) (request : ClaimRequest) (now expires : Nat)
    (grant : Grant) (device : DeviceRequest) : Grant :=
  match existing device.deviceKey with
  | some row =>
    let rows := Table.update (fun old => old.id = row.id ∧ old.status = .active)
      (fun old => extended old now expires) grant.registry.rows
    ⟨⟨rows,grant.registry.uuid⟩,grant.records ++ [extended row now expires]⟩
  | none =>
    let ownerId := strip request.ownerId
    let row : Claim := {
      id := grant.registry.uuid, deviceKey := device.deviceKey, workerId := device.workerId, serial := device.serial
      ownerId := ownerId, username := orElse request.username ownerId
      sourceType := orElse request.sourceType "unknown", sourceId := strip request.sourceId
      status := .active
      generation := max device.generationFloor (maxGeneration grant.registry.rows device.deviceKey + 1)
      acquiredAt := now, heartbeatAt := now, expiresAt := expires, releasedAt := none }
    ⟨⟨grant.registry.rows ++ [row],grant.registry.uuid+1⟩,grant.records ++ [row]⟩

def conflicting (request : ClaimRequest) (row : Claim) : Bool :=
  row.ownerId ≠ strip request.ownerId || row.sourceId ≠ strip request.sourceId || !request.allowExistingSource

def conflicts (rows : List Claim) (request : ClaimRequest) (requested : List DeviceRequest) : List Claim :=
  requested.filterMap fun device => (activeRow rows device.deviceKey).filter (conflicting request)

structure Acquisition where
  acquired : Bool
  records : List Claim
deriving DecidableEq, Repr

/-- A conflict rolls the transaction back, the expiry of other rows included. -/
def acquire (registry : Registry) (devices : List DeviceRequest) (request : ClaimRequest) (now later : Nat) :
    Except ClaimError Acquisition × Registry :=
  let requested := normalizeDevices devices
  if requested = [] then (.error .noDevice,registry)
  else if strip request.ownerId = "" ∨ strip request.sourceId = "" then (.error .ownerAndSourceRequired,registry)
  else
    let rows := expire now registry.rows
    let held := conflicts rows request requested
    if held ≠ [] then (.ok ⟨false,held⟩,registry)
    else
      let grant := requested.foldl
        (grantDevice (activeRow rows) request now (expiresAt later request.ttlSeconds)) ⟨⟨rows,registry.uuid⟩,[]⟩
      (.ok ⟨true,grant.records⟩,grant.registry)

def activeClaim (registry : Registry) (key : String) (now : Nat) : Option Claim × Registry :=
  let rows := expire now registry.rows
  (activeRow rows key,{registry with rows := rows})

def listActive (registry : Registry) (workerId ownerId : String) (now : Nat) : List Claim × Registry :=
  let rows := expire now registry.rows
  (Table.select (fun row => row.status = .active ∧ (workerId = "" ∨ row.workerId = workerId) ∧
    (ownerId = "" ∨ row.ownerId = ownerId)) rows,{registry with rows := rows})

def listBySource (registry : Registry) (sourceId : String) (now : Nat) : List Claim × Registry :=
  let rows := expire now registry.rows
  (Table.select (fun row => row.sourceId = sourceId ∧ row.status = .active) rows,{registry with rows := rows})

def Held (sourceId : String) (deviceKeys : List String) (row : Claim) : Prop :=
  row.sourceId = sourceId ∧ row.status = .active ∧ (deviceKeys = [] ∨ row.deviceKey ∈ deviceKeys)

instance (sourceId : String) (deviceKeys : List String) : DecidablePred (Held sourceId deviceKeys) :=
  fun row => inferInstanceAs (Decidable (row.sourceId = sourceId ∧ row.status = .active ∧
    (deviceKeys = [] ∨ row.deviceKey ∈ deviceKeys)))

def renew (registry : Registry) (sourceId : String) (ttlSeconds : Int) (deviceKeys : List String)
    (now later : Nat) : Nat × Registry :=
  let rows := expire now registry.rows
  let renewed := Table.update (Held sourceId deviceKeys)
    (fun row => extended row now (expiresAt later ttlSeconds)) rows
  ((Table.select (Held sourceId deviceKeys) rows).length,{registry with rows := renewed})

def reassigned (row : Claim) (sourceId sourceType : String) (now expires : Nat) : Claim :=
  {row with sourceId := sourceId, sourceType := sourceType, heartbeatAt := now, expiresAt := expires}

/-- A refused transfer rolls back, so it does not even expire rows. -/
def transfer (registry : Registry) (oldSourceId newSourceId sourceType : String) (ttlSeconds : Int)
    (ownerId : String) (deviceKeys : List String) (now later : Nat) : Nat × Registry :=
  let rows := expire now registry.rows
  let moved := Table.select (Held oldSourceId []) rows
  if moved = [] then (0,registry)
  else if ownerId ≠ "" ∧ ∃ row ∈ moved, row.ownerId ≠ ownerId then (0,registry)
  else if deviceKeys ≠ [] ∧ ¬ ((∀ row ∈ moved, row.deviceKey ∈ deviceKeys) ∧
      ∀ key ∈ deviceKeys, ∃ row ∈ moved, row.deviceKey = key) then (0,registry)
  else
    let transferred := Table.update (Held oldSourceId [])
      (fun row => reassigned row newSourceId sourceType now (expiresAt later ttlSeconds)) rows
    (moved.length,{registry with rows := transferred})

def closed (row : Claim) (status : ClaimStatus) (now : Nat) : Claim :=
  {row with status := status, releasedAt := some now}

/-- The release statuses are all statuses but `active`. No expiry runs here. -/
def release (registry : Registry) (sourceId : String) (status : ClaimStatus) (deviceKeys : List String)
    (now : Nat) : Except ClaimError Nat × Registry :=
  if status = .active then (.error .invalidReleaseStatus,registry)
  else
    let rows := Table.update (Held sourceId deviceKeys) (fun row => closed row status now) registry.rows
    (.ok (Table.select (Held sourceId deviceKeys) registry.rows).length,{registry with rows := rows})

def releaseOperationIfCurrent (registry : Registry) (deviceKey : String) (leaseId : Nat) (generation : Int)
    (sourceId : String) (now : Nat) : Bool × Registry :=
  let rows := expire now registry.rows
  match Table.fetch (fun row => row.deviceKey = deviceKey ∧ row.id = leaseId ∧ row.generation = generation ∧
      row.sourceId = sourceId ∧ row.status = .active) rows with
  | none => (false,registry)
  | some current =>
    let cancelled := Table.update (fun row => row.sourceId = sourceId ∧ row.ownerId = current.ownerId ∧
      row.workerId = current.workerId ∧ row.status = .active) (fun row => closed row .cancelled now) rows
    (true,{registry with rows := cancelled})

def forceRelease (registry : Registry) (deviceKey : String) (now : Nat) : Option Claim × Registry :=
  match activeRow registry.rows deviceKey with
  | none => (none,registry)
  | some current =>
    let rows := Table.update (fun row => row.id = current.id ∧ row.status = .active)
      (fun row => closed row .cancelled now) registry.rows
    (some current,{registry with rows := rows})

end GmsRemoteTest.DeviceClaims
