import GmsRemoteTest.Cluster.PhysicalExclusion

/-! Local locks beside cluster claims. A lock takes the one key of the name it was given,
a cluster claim the aliases it finds, so the two exclude each other when the key of the
lock is one of the aliases. -/
namespace GmsRemoteTest.Cluster
open DeviceClaims DeviceLocks Text

def lockGroup (db : Db) (manager : Manager) (serial : String) : ClaimGroup Route :=
  ⟨⟨(manager.device serial).deviceKey,phys db.devices (manager.device serial).deviceKey,true⟩,[manager.device serial]⟩

/-- A local lock while the inventory is that of `db`, or a step of the cluster. -/
inductive LockOp
  | lock (db : Db) (manager : Manager) (serials : List String) (request : ClaimRequest) (now later : Nat)
  | cluster (op : RouteOp)

def LockOp.entry : LockOp → LedgerOp Route
  | .lock db manager serials request now later => .claim (serials.map (lockGroup db manager)) request now later
  | .cluster op => op.entry

def LockOp.apply (op : LockOp) (ledger : Ledger Route) : Ledger Route := Ledger.apply op.entry ledger

theorem lockGroups_requests (db : Db) (manager : Manager) (serials : List String) :
    (serials.map (lockGroup db manager)).flatMap (·.requests) = serials.map manager.device := by
  induction serials with
  | nil => rfl
  | cons serial serials ih =>
    rw [List.map_cons,List.flatMap_cons,ih]
    rfl

def byKeys : Anchoring Route := fun group => requestedKeys group.requests

def Crossing (lock claim : ClaimGroup Route) : Prop :=
  lock.label.viaLock = true → claim.label.viaLock = false → lock.label.physical = claim.label.physical →
    strip lock.label.device ∈ requestedKeys claim.requests

def Ledger.ActiveAt (ledger : Ledger Route) (now : Nat) (entry : Nat × ClaimGroup Route) : Prop :=
  ∃ row ∈ expire now ledger.registry.rows, row.id = entry.1 ∧ row.status = .active

/-- Whichever of lock and claim comes second finds the key of the lock among the aliases of the claim, and the keys of one claim
are renewed and closed together. -/
def LockOp.orderly (ledger : Ledger Route) : LockOp → Prop
  | .lock db manager serials request now later =>
    ledger.Alike byKeys (.acquire (serials.map manager.device) request now later) ∧
    ∀ serial ∈ serials, ∀ entry ∈ ledger.claimed, Ledger.ActiveAt ledger now entry →
      Crossing (lockGroup db manager serial) entry.2
  | .cluster (.claim db workerId devices request now later) =>
    ledger.Alike byKeys (.acquire (claimDevices db workerId devices) request now later) ∧
    ∀ value ∈ requestedValues devices, ∀ entry ∈ ledger.claimed, Ledger.ActiveAt ledger now entry →
      Crossing entry.2 (claimGroup db (qualified workerId value))
  | .cluster (.other op) => ledger.Alike byKeys op

theorem lock_entered {ledger : Ledger Route} {op : LockOp} (orderly : LockOp.orderly ledger op) :
    Ledger.orderly byKeys ledger op.entry := by
  cases op with
  | lock db manager serials request now later =>
    refine ⟨fun _ _ _ asked => asked,?_⟩
    rw [lockGroups_requests]
    exact orderly.1
  | cluster op =>
    cases op with
    | claim db workerId devices request now later =>
      refine ⟨fun _ _ _ asked => asked,?_⟩
      rw [claimGroups_requests]
      exact orderly.1
    | other op => exact orderly

def Ledger.Live (ledger : Ledger Route) (entry : Nat × ClaimGroup Route) : Prop :=
  ∃ row ∈ ledger.registry.rows, row.id = entry.1 ∧ row.status = .active

structure Met (ledger : Ledger Route) : Prop where
  crossing : ∀ lock ∈ ledger.claimed, ∀ claim ∈ ledger.claimed, Ledger.Live ledger lock → Ledger.Live ledger claim →
    Crossing lock.2 claim.2
  locked : ∀ lock ∈ ledger.claimed, lock.2.label.viaLock = true → strip lock.2.label.device ∈ requestedKeys lock.2.requests

section
variable {ledger : Ledger Route} (valid : ledger.Valid byKeys)
include valid

theorem live_activeAt {devices : List DeviceRequest}
    {request : ClaimRequest} {now expires : Nat} {news records : List Claim} {after : Registry}
    (grant : Granted (expire now ledger.registry.rows) request now expires ledger.registry.uuid (requestedKeys devices) news
      ⟨after,records⟩) {entry : Nat × ClaimGroup Route} (member : entry ∈ ledger.claimed) {row : Claim}
    (inside : row ∈ after.rows) (named : row.id = entry.1) (active : row.status = .active) :
    Ledger.ActiveAt ledger now entry := by
  have drawn := valid.drawn member
  rw [show after.rows = _ from grant.table] at inside
  rcases List.mem_append.mp inside with old | new
  · obtain ⟨before,present,rfl⟩ := List.mem_map.mp old
    rw [touched_id] at named
    rw [touched_status] at active
    exact ⟨before,present,named,active⟩
  · have fresh := (grant.issued row new).2.2.2
    omega

theorem claim_met (met : Met ledger)
    {groups : List (ClaimGroup Route)} {request : ClaimRequest} {now later : Nat} (kind : Bool)
    (kinds : ∀ group ∈ groups, group.label.viaLock = kind)
    (single : kind = true → ∀ group ∈ groups, ∀ key ∈ requestedKeys group.requests, key = strip group.label.device)
    (crosses : ∀ group ∈ groups, ∀ entry ∈ ledger.claimed, Ledger.ActiveAt ledger now entry →
      Crossing group entry.2 ∧ Crossing entry.2 group) :
    Met (Ledger.apply (.claim groups request now later) ledger) := by
  have advances := acquire_advances ledger.registry valid.registry.numbered (groups.flatMap (·.requests)) request now later
  have acquired := acquire_acquired ledger.registry valid.registry.keyed (groups.flatMap (·.requests)) request now later
  unfold Ledger.apply
  dsimp only
  generalize acquire ledger.registry (groups.flatMap (·.requests)) request now later = outcome at advances acquired ⊢
  cases acquired with
  | refused error => exact met
  | conflict held clash => exact met
  | granted records news after free grant =>
    have newest : ∀ entry ∈ groups.flatMap fun group => group.claims records,
        entry.2 ∈ groups ∧ ∃ record : Claim, record.deviceKey ∈ requestedKeys entry.2.requests := by
      intro entry new
      obtain ⟨group,member,inside⟩ := List.mem_flatMap.mp new
      obtain ⟨record,chosen,rfl⟩ := List.mem_map.mp inside
      exact ⟨member,record,(Table.mem_select.mp chosen).2⟩
    constructor
    · rintro lock left claim right ⟨row,member,named,active⟩ ⟨other,present,called,alive⟩
      rcases List.mem_append.mp left with oldLock | newLock <;> rcases List.mem_append.mp right with oldClaim | newClaim
      · exact met.crossing lock oldLock claim oldClaim (valid.active_before advances oldLock member named active)
          (valid.active_before advances oldClaim present called alive)
      · exact (crosses claim.2 (newest claim newClaim).1 lock oldLock
          (live_activeAt valid grant oldLock member named active)).2
      · exact (crosses lock.2 (newest lock newLock).1 claim oldClaim
          (live_activeAt valid grant oldClaim present called alive)).1
      · intro locks claims
        rw [kinds lock.2 (newest lock newLock).1] at locks
        rw [kinds claim.2 (newest claim newClaim).1,locks] at claims
        cases claims
    · intro lock present locks
      rcases List.mem_append.mp present with old | new
      · exact met.locked lock old locks
      · obtain ⟨inside,record,asked⟩ := newest lock new
        rw [kinds lock.2 inside] at locks
        rw [← single locks lock.2 inside record.deviceKey asked]
        exact asked

theorem lock_met (met : Met ledger) (op : LockOp)
    (orderly : LockOp.orderly ledger op) : Met (LockOp.apply op ledger) := by
  cases op with
  | lock db manager serials request now later =>
    refine claim_met valid met true ?_ ?_ ?_
    · intro group member
      obtain ⟨serial,_,rfl⟩ := List.mem_map.mp member
      rfl
    · intro _ group member key asked
      obtain ⟨serial,_,rfl⟩ := List.mem_map.mp member
      obtain ⟨device,only,_,same⟩ := mem_requestedKeys.mp asked
      rw [List.mem_singleton.mp only] at same
      exact same.symm
    · intro group member entry present active
      obtain ⟨serial,asked,rfl⟩ := List.mem_map.mp member
      refine ⟨orderly.2 serial asked entry present active,fun _ claims => ?_⟩
      cases claims
  | cluster op =>
    cases op with
    | claim db workerId devices request now later =>
      refine claim_met valid met false ?_ ?_ ?_
      · intro group member
        obtain ⟨value,_,rfl⟩ := List.mem_map.mp member
        rfl
      · intro wrong
        cases wrong
      · intro group member entry present active
        obtain ⟨value,asked,rfl⟩ := List.mem_map.mp member
        refine ⟨fun locks => ?_,orderly.2 value asked entry present active⟩
        cases locks
    | other op =>
      have advances := apply_advances op ledger.registry valid.registry.numbered
      refine ⟨?_,met.locked⟩
      rintro lock left claim right ⟨row,member,named,active⟩ ⟨other,present,called,alive⟩
      exact met.crossing lock left claim right (valid.active_before advances left member named active)
        (valid.active_before advances right present called alive)

end

/-- In every run under `LockOp.orderly`, a local lock and a cluster claim of one physical
device are active together for one source only. -/
theorem lock_and_claim_have_one_source (ledger : Ledger Route)
    (reached : Runs.Reached LockOp.apply LockOp.orderly {} ledger) :
    ∀ lock ∈ ledger.claimed, lock.2.label.viaLock = true → ∀ claim ∈ ledger.claimed, claim.2.label.viaLock = false →
    lock.2.label.physical = claim.2.label.physical →
    ∀ row ∈ ledger.registry.rows, ∀ other ∈ ledger.registry.rows, row.id = lock.1 → other.id = claim.1 →
      row.status = .active → other.status = .active → row.sourceId = other.sourceId := by
  have holds : ledger.Valid byKeys ∧ Met ledger := by
    refine Runs.Reached.invariant (fun ledger : Ledger Route => ledger.Valid byKeys ∧ Met ledger) ⟨?_,?_⟩ ?_ reached
    · exact ledger_valid .start
    · constructor
      · intro lock none
        cases none
      · intro lock none
        cases none
    · rintro current op ⟨valid,met⟩ orderly
      exact ⟨valid.step op.entry (lock_entered orderly),lock_met valid met op orderly⟩
  obtain ⟨valid,met⟩ := holds
  intro lock left locks claim right claims same row member other present named called active alive
  have crossing := met.crossing lock left claim right ⟨row,member,named,active⟩ ⟨other,present,called,alive⟩
    locks claims same
  exact valid.bonded.same_holder valid.registry.leases member present active alive
    ⟨lock,left,named.symm,met.locked lock left locks⟩ ⟨claim,right,called.symm,crossing⟩

def twoProxies : Db := {devices := [proxyRow "p1",proxyRow "p2"]}

def localLock : LockOp :=
  .lock twoProxies {localWorkerId := "w2"} ["p1"] ⟨"u","u","local","local:u",3600,true⟩ 0 0

theorem lock_and_claim_have_one_source_locked : (LockOp.apply localLock {}).claimed ≠ [] ∧
    ∀ lock ∈ (LockOp.apply localLock {}).claimed, lock.2.label.viaLock = true →
    ∀ claim ∈ (LockOp.apply localLock {}).claimed, claim.2.label.viaLock = false →
    lock.2.label.physical = claim.2.label.physical →
    ∀ row ∈ (LockOp.apply localLock {}).registry.rows, ∀ other ∈ (LockOp.apply localLock {}).registry.rows,
      row.id = lock.1 → other.id = claim.1 → row.status = .active → other.status = .active →
      row.sourceId = other.sourceId := by
  refine ⟨by decide +kernel,lock_and_claim_have_one_source _ (.step .start _ ⟨?_,?_⟩)⟩
  · rintro row _ anchor _ _ _ ⟨entry,none,_⟩
    cases none
  · intro serial _ entry none
    cases none

/-- One user locks a proxy of a device, another one claims the device through its other proxy. -/
theorem proxies_locked_and_claimed : ¬ ∀ ledger, Runs.Reached LockOp.apply (fun _ _ => True) {} ledger →
    ∀ lock ∈ ledger.claimed, lock.2.label.viaLock = true → ∀ claim ∈ ledger.claimed, claim.2.label.viaLock = false →
    lock.2.label.physical = claim.2.label.physical →
    ∀ row ∈ ledger.registry.rows, ∀ other ∈ ledger.registry.rows, row.id = lock.1 → other.id = claim.1 →
      row.status = .active → other.status = .active → row.sourceId = other.sourceId := by
  intro always
  have exclusive := always (LockOp.apply (.cluster (.claim twoProxies "w2" ["p2"]
    ⟨"v","v","device-operation","operation:1",3600,true⟩ 1 1)) (LockOp.apply localLock {}))
    (.step (.step .start _ trivial) _ trivial)
  revert exclusive
  decide +kernel

end GmsRemoteTest.Cluster
