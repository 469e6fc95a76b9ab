import GmsRemoteTest.Foundation.ClaimFencing

/-! The lock facade of local-device callers over the global claim registry. A lock
claims the one key `local_worker:serial`; every operation is a short history of the
registry. -/
namespace GmsRemoteTest.DeviceLocks
open Text DeviceClaims

def lockTtlSeconds : Int := 3600

def defaultLocalWorkerId : String := "ats-worker-controller"

/-- `DeviceLockManager` with its injected resolver, which may raise. -/
structure Manager where
  localWorkerId : String := defaultLocalWorkerId
  resolver : Option (String → String → Option String) := none

namespace Manager

def configureLocalWorker (manager : Manager) (workerId : String) : Manager :=
  {manager with localWorkerId := orElse (strip (orElse workerId defaultLocalWorkerId)) defaultLocalWorkerId}

def device (manager : Manager) (serial : String) : DeviceRequest :=
  ⟨key manager.localWorkerId (strip serial),manager.localWorkerId,strip serial,1⟩

def defaultDisplayUsername (clientId username : String) : String :=
  let cleaned := strip username
  if cleaned ≠ "" ∧ cleaned ≠ "unknown" ∧ cleaned ≠ clientId then cleaned else orElse cleaned clientId

def displayUsername (manager : Manager) (clientId username : String) : String :=
  (manager.resolver.bind fun resolve => resolve clientId (strip username)).getD (defaultDisplayUsername clientId username)

/-- An empty `source_id` is an absent one. -/
def sourceId (clientId source : String) : String := strip (orElse source ("local:" ++ clientId))

def lockDevice (manager : Manager) (registry : Registry) (deviceId clientId username source sourceType : String)
    (ttlSeconds : Int) (now later : Nat) : Except ClaimError (Bool × String) × Registry :=
  let result := acquire registry [manager.device deviceId]
    ⟨clientId,username,sourceType,sourceId clientId source,ttlSeconds,true⟩ now later
  (result.1.map fun acquisition =>
    if acquisition.acquired then (true,"设备 " ++ deviceId ++ " 锁定成功")
    else
      let owner := (acquisition.records.head?.map fun claim =>
        manager.displayUsername claim.ownerId claim.username).getD ""
      (false,"设备 " ++ deviceId ++ " 已被 " ++ owner ++ " 锁定"),result.2)

def lockDevices (manager : Manager) (registry : Registry) (deviceIds : List String)
    (clientId username source sourceType : String) (ttlSeconds : Int) (allowExistingSource : Bool) (now later : Nat) :
    Except ClaimError Acquisition × Registry :=
  acquire registry (deviceIds.map manager.device) ⟨clientId,username,sourceType,source,ttlSeconds,allowExistingSource⟩
    now later

def unlockDevice (manager : Manager) (registry : Registry) (deviceId clientId source : String) (now later : Nat) :
    (Bool × String) × Registry :=
  let deviceKey := (manager.device deviceId).deviceKey
  let read := activeClaim registry deviceKey now
  match read.1 with
  | none => ((true,"设备 " ++ deviceId ++ " 未锁定"),read.2)
  | some claim =>
    if claim.ownerId ≠ clientId then ((false,"设备 " ++ deviceId ++ " 被其他用户锁定，无法解锁"),read.2)
    else if source ≠ "" ∧ claim.sourceId ≠ sourceId clientId source then
      ((false,"设备 " ++ deviceId ++ " 属于另一个运行中的操作"),read.2)
    else
      -- Only the named key is released, whatever else the source of the claim holds.
      ((true,"设备 " ++ deviceId ++ " 解锁成功"),(release read.2 claim.sourceId .released [deviceKey] later).2)

def forceUnlockDevice (manager : Manager) (registry : Registry) (deviceId : String) (now later : Nat) :
    (Bool × String) × Registry :=
  let deviceKey := (manager.device deviceId).deviceKey
  let read := activeClaim registry deviceKey now
  let clustered := read.1.any fun claim => startsWith "cluster-" claim.sourceType || startsWith "job:" claim.sourceId ||
    startsWith "reservation:" claim.sourceId
  if clustered then ((false,"设备 " ++ deviceId ++ " 正由集群任务或预约占用，请先取消对应任务或预约"),read.2)
  else
    let freed := forceRelease read.2 deviceKey later
    (if freed.1 = none then (true,"设备 " ++ deviceId ++ " 未锁定") else (true,"设备 " ++ deviceId ++ " 已强制释放"),freed.2)

def refreshLocks (manager : Manager) (registry : Registry) (clientId : String) (deviceIds : List String)
    (source : String) (now later : Nat) : Nat × Registry :=
  let name := sourceId clientId source
  let read := listActive registry manager.localWorkerId clientId now
  let owned := (Table.select (fun row => row.sourceId = name) read.1).map (·.serial)
  let renewable := (fromkeys ((deviceIds.map strip).filter (· ≠ ""))).filter (· ∈ owned)
  if renewable = [] then (0,read.2)
  else renew read.2 name lockTtlSeconds (renewable.map fun item => (manager.device item).deviceKey) later later

def releaseSources (registry : Registry) (now : Nat) (sources : List String) : Nat × Registry :=
  sources.foldl (fun state source =>
    (state.1 + (Table.select (Held source []) state.2.rows).length,(release state.2 source .released [] now).2)) (0,registry)

def unlockAll (manager : Manager) (registry : Registry) (clientId source : String) (now later : Nat) : Nat × Registry :=
  let read := listActive registry manager.localWorkerId clientId now
  let records := if source = "" then read.1 else Table.select (fun row => row.sourceId = source) read.1
  releaseSources read.2 later (fromkeys (records.map (·.sourceId)))

end Manager

inductive Op
  | lockDevice (deviceId clientId username source sourceType : String) (ttlSeconds : Int) (now later : Nat)
  | lockDevices (deviceIds : List String) (clientId username source sourceType : String) (ttlSeconds : Int)
      (allowExistingSource : Bool) (now later : Nat)
  | unlockDevice (deviceId clientId source : String) (now later : Nat)
  | forceUnlockDevice (deviceId : String) (now later : Nat)
  | refreshLocks (clientId : String) (deviceIds : List String) (source : String) (now later : Nat)
  | unlockAll (clientId source : String) (now later : Nat)

def apply (manager : Manager) : Op → Registry → Registry
  | .lockDevice deviceId clientId username source sourceType ttl now later, registry =>
    (manager.lockDevice registry deviceId clientId username source sourceType ttl now later).2
  | .lockDevices deviceIds clientId username source sourceType ttl allow now later, registry =>
    (manager.lockDevices registry deviceIds clientId username source sourceType ttl allow now later).2
  | .unlockDevice deviceId clientId source now later, registry =>
    (manager.unlockDevice registry deviceId clientId source now later).2
  | .forceUnlockDevice deviceId now later, registry => (manager.forceUnlockDevice registry deviceId now later).2
  | .refreshLocks clientId deviceIds source now later, registry =>
    (manager.refreshLocks registry clientId deviceIds source now later).2
  | .unlockAll clientId source now later, registry => (manager.unlockAll registry clientId source now later).2

theorem releaseSources_run (registry : Registry) (now : Nat) (sources : List String) :
    ∀ count, (sources.foldl (fun (state : Nat × Registry) source =>
      (state.1 + (Table.select (Held source []) state.2.rows).length,(release state.2 source .released [] now).2))
      (count,registry)).2 = run registry (sources.map fun source => .release source .released [] now) := by
  induction sources generalizing registry with
  | nil => exact fun _ => rfl
  | cons source sources ih => exact fun count => ih _ _

theorem apply_run (manager : Manager) (op : Op) (registry : Registry) :
    ∃ ops, apply manager op registry = run registry ops := by
  cases op with
  | lockDevice deviceId clientId username source sourceType ttl now later =>
    refine ⟨[.acquire [manager.device deviceId]
      ⟨clientId,username,sourceType,Manager.sourceId clientId source,ttl,true⟩ now later],?_⟩
    unfold apply Manager.lockDevice run
    rw [Runs.exec_cons,Runs.exec_nil,DeviceClaims.apply]
  | lockDevices deviceIds clientId username source sourceType ttl allow now later =>
    exact ⟨[.acquire (deviceIds.map manager.device) ⟨clientId,username,sourceType,source,ttl,allow⟩ now later],rfl⟩
  | unlockDevice deviceId clientId source now later =>
    have looked : ∃ ops, (activeClaim registry (manager.device deviceId).deviceKey now).2 = run registry ops :=
      ⟨[.activeClaim (manager.device deviceId).deviceKey now],rfl⟩
    unfold apply Manager.unlockDevice
    dsimp only
    split
    · exact looked
    split
    · exact looked
    split
    · exact looked
    · rename_i claim _ _ _
      exact ⟨[.activeClaim (manager.device deviceId).deviceKey now,
        .release claim.sourceId .released [(manager.device deviceId).deviceKey] later],rfl⟩
  | forceUnlockDevice deviceId now later =>
    unfold apply Manager.forceUnlockDevice
    dsimp only
    split
    · exact ⟨[.activeClaim (manager.device deviceId).deviceKey now],rfl⟩
    · exact ⟨[.activeClaim (manager.device deviceId).deviceKey now,.forceRelease (manager.device deviceId).deviceKey later],rfl⟩
  | refreshLocks clientId deviceIds source now later =>
    unfold apply Manager.refreshLocks
    dsimp only
    split
    · exact ⟨[.listActive manager.localWorkerId clientId now],rfl⟩
    · exact ⟨[.listActive manager.localWorkerId clientId now,.renew _ _ _ later later],rfl⟩
  | unlockAll clientId source now later =>
    refine ⟨.listActive manager.localWorkerId clientId now :: _,releaseSources_run _ later _ 0⟩

end GmsRemoteTest.DeviceLocks
