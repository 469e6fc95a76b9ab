import GmsRemoteTest.Foundation.ClaimGroups
import GmsRemoteTest.Foundation.DeviceLocks
import GmsRemoteTest.Cluster.Claims

/-! Claims on one physical device under its many names. A cluster claim expands the
aliases it finds in the inventory of its moment, a local lock names one key; the
inventory may be another one at every step. -/
namespace GmsRemoteTest.Cluster
open DeviceClaims Text

def phys (devices : List Device) (deviceKey : String) : String :=
  match findDevice devices deviceKey with
  | none => deviceKey
  | some row =>
    if isProxy row ∧ row.properties.adbProxySourceWorkerId ≠ "" ∧ row.properties.adbProxySourceSerial ≠ "" then
      key row.properties.adbProxySourceWorkerId row.properties.adbProxySourceSerial
    else deviceKey

/-- Under which name and for which physical device a claim was acquired. -/
structure Route where
  device : String
  physical : String
  viaLock : Bool
deriving DecidableEq

def claimGroup (db : Db) (deviceKey : String) : ClaimGroup Route :=
  ⟨⟨deviceKey,phys db.devices deviceKey,false⟩,(physicalAliasKeys db.devices deviceKey).map (claimRequest db)⟩

def claimGroups (db : Db) (workerId : String) (devices : List String) : List (ClaimGroup Route) :=
  (requestedValues devices).map fun value => claimGroup db (qualified workerId value)

theorem claimGroups_requests (db : Db) (workerId : String) (devices : List String) :
    (claimGroups db workerId devices).flatMap (·.requests) = claimDevices db workerId devices := by
  unfold claimGroups claimDevices
  rw [List.flatMap_map]
  rfl

theorem phys_alias (devices : List Device) (deviceKey : String) :
    phys devices deviceKey ∈ physicalAliasKeys devices deviceKey := by
  unfold phys physicalAliasKeys
  cases found : findDevice devices deviceKey with
  | none => exact List.mem_singleton.mpr rfl
  | some row =>
    dsimp only
    rw [mem_fromkeys]
    unfold aliasesOf
    by_cases proxy : isProxy row
    · by_cases known : row.properties.adbProxySourceWorkerId ≠ "" ∧ row.properties.adbProxySourceSerial ≠ ""
      · simp [proxy,known]
      · simp [proxy,if_neg known]
    · simp [proxy]

theorem phys_requested {db : Db} {deviceKey : String} (named : (claimRequest db (phys db.devices deviceKey)).named) :
    strip (phys db.devices deviceKey) ∈ requestedKeys (claimGroup db deviceKey).requests :=
  mem_requestedKeys.mpr ⟨_,List.mem_map_of_mem (phys_alias db.devices deviceKey),named,rfl⟩

/-- A claim through `_claim_devices` in some inventory, or any other registry operation. -/
inductive RouteOp
  | claim (db : Db) (workerId : String) (devices : List String) (request : ClaimRequest) (now later : Nat)
  | other (op : DeviceClaims.Op)

def RouteOp.entry : RouteOp → LedgerOp Route
  | .claim db workerId devices request now later => .claim (claimGroups db workerId devices) request now later
  | .other op => .other op

def RouteOp.apply (op : RouteOp) (ledger : Ledger Route) : Ledger Route := Ledger.apply op.entry ledger

def byPhysical : Anchoring Route := fun group => [strip group.label.physical]

/-- A physical device has a name that is not blank, and no step renews, shortens or closes a claim apart from the claim on its
physical device. -/
def RouteOp.orderly (ledger : Ledger Route) : RouteOp → Prop
  | .claim db workerId devices request now later =>
    (∀ value ∈ requestedValues devices, (claimRequest db (phys db.devices (qualified workerId value))).named) ∧
      ledger.Alike byPhysical (.acquire (claimDevices db workerId devices) request now later)
  | .other op => ledger.Alike byPhysical op

theorem route_reached {ledger : Ledger Route} (reached : Runs.Reached RouteOp.apply RouteOp.orderly {} ledger) :
    Runs.Reached Ledger.apply (Ledger.orderly byPhysical) {} ledger := by
  induction reached with
  | start => exact .start
  | step _ op orderly ih =>
    refine .step ih op.entry ?_
    cases op with
    | claim db workerId devices request now later =>
      obtain ⟨named,alike⟩ := orderly
      refine ⟨?_,by rw [claimGroups_requests]; exact alike⟩
      intro group member key anchored
      obtain ⟨value,asked,rfl⟩ := List.mem_map.mp member
      rw [List.mem_singleton.mp anchored]
      exact phys_requested (named value asked)
    | other op => exact orderly

/-- In every run under `RouteOp.orderly`, claims acquired for one physical device are active
for one source only, whatever inventory each of them saw. -/
theorem physical_device_has_one_source (ledger : Ledger Route)
    (reached : Runs.Reached RouteOp.apply RouteOp.orderly {} ledger) :
    ∀ first ∈ ledger.claimed, ∀ second ∈ ledger.claimed, first.2.label.physical = second.2.label.physical →
    ∀ row ∈ ledger.registry.rows, ∀ other ∈ ledger.registry.rows, row.id = first.1 → other.id = second.1 →
      row.status = .active → other.status = .active → row.sourceId = other.sourceId := by
  intro first left second right same row member other present named called active alive
  have one : strip first.2.label.physical ∈ byPhysical first.2 := List.mem_singleton.mpr rfl
  have two : strip first.2.label.physical ∈ byPhysical second.2 := by
    rw [same]
    exact List.mem_singleton.mpr rfl
  exact groups_exclusive (route_reached reached) left right one two member present named called active alive

def proxyRow (serial : String) : Device :=
  ⟨key "w2" serial,"w2",serial,"adb_proxy","available",{adbProxySourceWorkerId := "w1", adbProxySourceSerial := "s1"},0⟩

def reservationRequest : ClaimRequest := ⟨"u","u","cluster-reservation","reservation:1",3600,true⟩

theorem physical_device_has_one_source_proxy :
    (RouteOp.apply (.claim {devices := [proxyRow "p1"]} "w2" ["p1"] reservationRequest 0 0) {}).claimed ≠ [] ∧
    ∀ first ∈ (RouteOp.apply (.claim {devices := [proxyRow "p1"]} "w2" ["p1"] reservationRequest 0 0) {}).claimed,
    ∀ second ∈ (RouteOp.apply (.claim {devices := [proxyRow "p1"]} "w2" ["p1"] reservationRequest 0 0) {}).claimed,
    first.2.label.physical = second.2.label.physical →
    ∀ row ∈ (RouteOp.apply (.claim {devices := [proxyRow "p1"]} "w2" ["p1"] reservationRequest 0 0) {}).registry.rows,
    ∀ other ∈ (RouteOp.apply (.claim {devices := [proxyRow "p1"]} "w2" ["p1"] reservationRequest 0 0) {}).registry.rows,
      row.id = first.1 → other.id = second.1 → row.status = .active → other.status = .active →
      row.sourceId = other.sourceId := by
  refine ⟨by decide +kernel,physical_device_has_one_source _ (.step .start _ ⟨by decide +kernel,?_⟩)⟩
  rintro row _ anchor _ _ _ ⟨entry,none,_⟩
  cases none

/-- A reservation of a proxied device is renewed after the proxy row vanished: only the key
of the proxy is renewed, and when the key of the physical device lapses a job takes it. -/
theorem proxied_device_claimed_twice : ¬ ∀ ledger, Runs.Reached RouteOp.apply (fun _ _ => True) {} ledger →
    ∀ first ∈ ledger.claimed, ∀ second ∈ ledger.claimed, first.2.label.physical = second.2.label.physical →
    ∀ row ∈ ledger.registry.rows, ∀ other ∈ ledger.registry.rows, row.id = first.1 → other.id = second.1 →
      row.status = .active → other.status = .active → row.sourceId = other.sourceId := by
  intro always
  have exclusive := always (RouteOp.apply (.claim {} "w1" ["s1"] ⟨"v","v","cluster-job","job:1",90,true⟩ 3600 3600)
    (RouteOp.apply (.claim {} "w2" ["p1"] reservationRequest 1800 1800)
      (RouteOp.apply (.claim {devices := [proxyRow "p1"]} "w2" ["p1"] reservationRequest 0 0) {})))
    (.step (.step (.step .start _ trivial) _ trivial) _ trivial)
  revert exclusive
  decide +kernel

end GmsRemoteTest.Cluster
