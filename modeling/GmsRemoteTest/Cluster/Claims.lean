import GmsRemoteTest.Cluster.Schema

/-! Unified device-claim helpers shared by the Cluster repository workflows. The
alias expansion opens its own connection, so inside a transaction it reads the
tables as last committed; callers pass that database. -/
namespace GmsRemoteTest.Cluster
open DeviceClaims Text

def isProxy (device : Device) : Prop := device.transport = "adb_proxy"

instance : DecidablePred isProxy := fun device => inferInstanceAs (Decidable (device.transport = "adb_proxy"))

def usbKeys (worker port : String) : List String := if port = "" then [] else [worker ++ ":@usb:" ++ port]

def findDevice (devices : List Device) (id : String) : Option Device :=
  Table.fetch (fun device => device.id = id) devices

def proxyIds (devices : List Device) (worker serial : String) : List String :=
  (Table.select (fun device => isProxy device ∧ device.properties.adbProxySourceWorkerId = worker ∧
    device.properties.adbProxySourceSerial = serial) devices).map (·.id)

def aliasesOf (devices : List Device) (deviceKey : String) (row : Device) : List String :=
  let own := (partition deviceKey).1
  if isProxy row then
    let sourceWorker := row.properties.adbProxySourceWorkerId
    let sourceSerial := row.properties.adbProxySourceSerial
    if sourceWorker ≠ "" ∧ sourceSerial ≠ "" then
      let source := key sourceWorker sourceSerial
      let port := ((findDevice devices source).map (·.properties.usb)).getD ""
      [deviceKey,source] ++ usbKeys sourceWorker port
    else deviceKey :: usbKeys own row.properties.usb
  else deviceKey :: proxyIds devices own (partition deviceKey).2 ++ usbKeys own row.properties.usb

def physicalAliasKeys (devices : List Device) (deviceKey : String) : List String :=
  match findDevice devices deviceKey with
  | none => [deviceKey]
  | some row => fromkeys (aliasesOf devices deviceKey row)

def nextGeneration (leases : List Lease) (deviceId : String) : Int :=
  ((Table.select (fun lease => lease.deviceId = deviceId) leases).map (·.generation)).max?.getD 0 + 1

def claimRequest (db : Db) (deviceKey : String) : DeviceRequest :=
  let previous := nextGeneration db.leases deviceKey
  ⟨deviceKey,(partition deviceKey).1,(partition deviceKey).2,if previous = 0 then 1 else previous⟩

def requestedValues (devices : List String) : List String := fromkeys ((devices.map strip).filter (· ≠ ""))

def claimDevices (db : Db) (workerId : String) (devices : List String) : List DeviceRequest :=
  (requestedValues devices).flatMap fun value =>
    (physicalAliasKeys db.devices (qualified workerId value)).map (claimRequest db)

def SameRoutes (before after : List Device) : Prop :=
  ∃ change : Device → Device, after = before.map change ∧ ∀ device, (change device).id = device.id ∧
    (change device).transport = device.transport ∧ (change device).properties = device.properties

theorem SameRoutes.update {selects : Device → Prop} [DecidablePred selects] {set : Device → Device}
    (same : ∀ device, (set device).id = device.id ∧ (set device).transport = device.transport ∧
      (set device).properties = device.properties) (devices : List Device) :
    SameRoutes devices (Table.update selects set devices) := by
  refine ⟨fun device => if selects device then set device else device,rfl,?_⟩
  intro device
  dsimp only
  split
  · exact same device
  · exact ⟨rfl,rfl,rfl⟩

theorem SameRoutes.physicalAliasKeys_eq {before after : List Device} (same : SameRoutes before after)
    (deviceKey : String) : physicalAliasKeys after deviceKey = physicalAliasKeys before deviceKey := by
  obtain ⟨change,rfl,routes⟩ := same
  have id : ∀ device, (change device).id = device.id := fun device => (routes device).1
  have properties : ∀ device, (change device).properties = device.properties := fun device => (routes device).2.2
  have proxy : ∀ device, isProxy (change device) ↔ isProxy device := by
    intro device
    unfold isProxy
    rw [(routes device).2.1]
  have found : ∀ wanted, findDevice (before.map change) wanted = (findDevice before wanted).map change := by
    intro wanted
    unfold findDevice Table.fetch
    rw [List.find?_map]
    simp only [Function.comp_def,id]
  have proxies : ∀ worker serial, proxyIds (before.map change) worker serial = proxyIds before worker serial := by
    intro worker serial
    unfold proxyIds Table.select
    rw [List.filter_map,List.map_map]
    simp only [Function.comp_def,proxy,properties,id]
  have sources : ∀ wanted, ((findDevice (before.map change) wanted).map (·.properties.usb)).getD "" =
      ((findDevice before wanted).map (·.properties.usb)).getD "" := by
    intro wanted
    rw [found,Option.map_map]
    simp only [Function.comp_def,properties]
  unfold physicalAliasKeys
  rw [found]
  cases findDevice before deviceKey with
  | none => rfl
  | some device => simp only [Option.map_some,aliasesOf,proxy,properties,sources,proxies]

theorem SameRoutes.claimDevices_eq {before after : Db} (same : SameRoutes before.devices after.devices)
    (leases : after.leases = before.leases) (workerId : String) (names : List String) :
    claimDevices after workerId names = claimDevices before workerId names := by
  have request : ∀ deviceKey, claimRequest after deviceKey = claimRequest before deviceKey := by
    intro deviceKey
    unfold claimRequest
    rw [leases]
  unfold claimDevices
  simp only [same.physicalAliasKeys_eq,funext request]

def claimedBy (records : List Claim) : ClusterError :=
  .value ("device is already claimed by " ++
    (records.head?.map fun record => orElse record.username record.ownerId).getD "")

def acquireDeviceOperationClaim (state : State) (workerId : String) (devices : List String)
    (ownerId sourceType sourceId : String) (ttlSeconds : Int) (username : String) (now : Nat) :
    Except ClusterError (List Claim) × State :=
  let result := acquire state.claims (claimDevices state.db workerId devices)
    ⟨ownerId,orElse username ownerId,sourceType,sourceId,ttlSeconds,true⟩ now now
  match result.1 with
  | .error error => (.error (.claim error),{state with claims := result.2})
  | .ok acquisition =>
    if acquisition.acquired then (.ok acquisition.records,{state with claims := result.2})
    else (.error (claimedBy acquisition.records),{state with claims := result.2})

def activeClaims (registry : Registry) (now : Nat) : List String → List (Option Claim) × Registry
  | [] => ([],registry)
  | deviceKey :: keys =>
    let first := activeClaim registry deviceKey now
    let rest := activeClaims first.2 now keys
    (first.1 :: rest.1,rest.2)

def fullKeys (devices : List Device) (deviceIds : List String) : List String :=
  sorted (fromkeys (deviceIds ++ deviceIds.flatMap (physicalAliasKeys devices)))

def renewJobDeviceClaim (settings : Settings) (devices : List Device) (registry : Registry)
    (jobId ownerId : String) (deviceIds : List String) (now : Nat) : Bool × Registry :=
  let expected := fromkeys (deviceIds.filter (· ≠ ""))
  if expected = [] then (false,registry)
  else
    let keys := fullKeys devices expected
    let read := activeClaims registry now keys
    if ∃ record ∈ read.1, record = none then (false,read.2)
    else if ∃ record ∈ read.1.filterMap id, record.sourceId ≠ jobSource jobId ∨ record.ownerId ≠ ownerId then
      (false,read.2)
    else
      let renewed := renew read.2 (jobSource jobId) settings.claimLeaseTtlSeconds [] now now
      (decide (keys.length ≤ renewed.1),renewed.2)

end GmsRemoteTest.Cluster
