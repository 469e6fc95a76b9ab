import GmsRemoteTest.Cluster.Observability
import GmsRemoteTest.Cluster.Claims

/-! Durable device reservations spanning ATS flash and test stages. -/
namespace GmsRemoteTest.Cluster
open DeviceClaims Text

def reservationExpiry (now : Nat) (ttlSeconds : Int) : Nat := now + (max 60 ttlSeconds).toNat

def leased (leases : List Lease) (deviceId : String) : Prop :=
  ∃ lease ∈ leases, lease.deviceId = deviceId ∧ lease.status = .active

instance (leases : List Lease) (deviceId : String) : Decidable (leased leases deviceId) :=
  inferInstanceAs (Decidable (∃ lease ∈ leases, lease.deviceId = deviceId ∧ lease.status = .active))

def reserved (reservations : List Reservation) (deviceId : String) : Prop :=
  ∃ item ∈ reservations, item.deviceId = deviceId ∧ item.status = .active

instance (reservations : List Reservation) (deviceId : String) : Decidable (reserved reservations deviceId) :=
  inferInstanceAs (Decidable (∃ item ∈ reservations, item.deviceId = deviceId ∧ item.status = .active))

def closedReservation (status : ReservationStatus) (now : Nat) (item : Reservation) : Reservation :=
  {item with status := status, releasedAt := some now}

def unreserve (db : Db) (deviceIds : List String) (now : Nat) : List Device :=
  Table.update (fun device => device.id ∈ deviceIds ∧ device.state = "reserved" ∧ ¬ leased db.leases device.id ∧
    ¬ reserved db.reservations device.id) (fun device => {device with state := "available", updatedAt := now}) db.devices

theorem unreserve_routes (db : Db) (deviceIds : List String) (now : Nat) :
    SameRoutes db.devices (unreserve db deviceIds now) := by
  apply SameRoutes.update
  intro device
  exact ⟨rfl,rfl,rfl⟩

def releaseReservations (status : ClaimStatus) (now : Nat) (registry : Registry) (ids : List String) : Registry :=
  ids.foldl (fun registry id => (release registry (reservationSource id) status [] now).2) registry

def expireDeviceReservations (state : State) (now : Nat) : State :=
  let due := Table.select (fun item => item.status = .active ∧ item.expiresAt ≤ now) state.db.reservations
  if due = [] then state
  else
    let reservations := Table.update (fun item => item.status = .active ∧ item.expiresAt ≤ now)
      (closedReservation .expired now) state.db.reservations
    let db := {state.db with reservations := reservations}
    let devices := unreserve db (due.map (·.deviceId)) now
    let ended := fromkeys ((Table.select (fun item => item.status = .expired ∧ item.releasedAt = some now)
      reservations).map (·.reservationId))
    ⟨{db with devices := devices},releaseReservations .expired now state.claims ended⟩

structure ReservationPayload where
  id : String
  workerId : String
  ownerId : String
  sourceId : String
  status : ReservationStatus
  expiresAt : Nat
  devices : List String
deriving DecidableEq, Repr

def byDevice (items : List Reservation) : List Reservation :=
  items.insertionSort fun first second => first.deviceId ≤ second.deviceId

def reservationPayload (db : Db) (reservationId : String) : Option ReservationPayload :=
  match byDevice (Table.select (fun item => item.reservationId = reservationId) db.reservations) with
  | [] => none
  | first :: rest => some
    { id := reservationId, workerId := first.workerId, ownerId := first.ownerId, sourceId := first.sourceId
      status := first.status, expiresAt := (rest.map (·.expiresAt)).foldl min first.expiresAt
      devices := (first :: rest).map (·.deviceId) }

def reservable (db : Db) (workerId deviceId : String) : Except ClusterError Device :=
  match Table.fetch (fun device => device.id = deviceId ∧ device.workerId = workerId) db.devices with
  | none => .error (.value ("device not found on worker: " ++ deviceId))
  | some device =>
    if device.state ≠ "available" then .error (.value ("device is not available: " ++ device.serial))
    else if leased db.leases deviceId then .error (.value ("device is already leased: " ++ device.serial))
    else .ok device

def insertReservation (db : Db) (item : Reservation) : Except ClusterError Db :=
  if ¬ unused (·.id) db.reservations item.id then .error (.integrity "cluster_device_reservations.id")
  else if item.status = .active ∧ reserved db.reservations item.deviceId then
    .error (.integrity "idx_active_device_reservation")
  else .ok {db with reservations := db.reservations++[item]}

structure ReservationRequest where
  workerId : String
  devices : List String
  ownerId : String
  sourceId : String
  ttlSeconds : Int := 6*60*60
  username : String := ""
  reservationUuid : String
  itemUuid : String → String

def insertReserved (request : ReservationRequest) (reservationId : String) (now : Nat) (db : Db) (device : Device) :
    Except ClusterError Db := do
  let inserted ← insertReservation db
    { id := "reservation-item-" ++ request.itemUuid device.id, reservationId := reservationId
      deviceId := device.id, workerId := request.workerId, serial := device.serial, ownerId := request.ownerId
      sourceId := request.sourceId, status := .active, acquiredAt := now, heartbeatAt := now
      expiresAt := reservationExpiry now request.ttlSeconds }
  return {inserted with devices := setDevices [device.id] "reserved" now inserted.devices}

def acquireReservation (registry : Registry) (devices : List DeviceRequest) (ownerId username reservationId : String)
    (ttlSeconds : Int) (now : Nat) : Except ClusterError Unit × Registry :=
  let result := acquire registry devices
    ⟨ownerId,orElse username ownerId,"cluster-reservation",reservationSource reservationId,ttlSeconds,true⟩ now now
  match result.1 with
  | .error error => (.error (.claim error),result.2)
  | .ok acquisition => if acquisition.acquired then (.ok (),result.2) else (.error (claimedBy acquisition.records),result.2)

def reserveDevices (state : State) (request : ReservationRequest) (now : Nat) :
    Except ClusterError (Option ReservationPayload) × State :=
  let requested := fromkeys (((request.devices.map strip).filter (· ≠ "")).map (qualified request.workerId))
  if requested = [] then (.error (.value "at least one device is required"),state)
  else
    let expired := expireDeviceReservations state now
    let existing := byDevice (Table.select (fun item => item.sourceId = request.sourceId ∧ item.status = .active)
      expired.db.reservations)
    match existing with
    | first :: _ =>
      if existing.map (·.deviceId) = sorted requested ∧
          ∀ item ∈ existing, item.workerId = request.workerId ∧ item.ownerId = request.ownerId then
        let reservations := Table.update
          (fun item => item.reservationId = first.reservationId ∧ item.status = .active)
          (fun item => {item with heartbeatAt := now, expiresAt := reservationExpiry now request.ttlSeconds})
          expired.db.reservations
        let result := acquireReservation expired.claims
          (claimDevices state.db request.workerId (existing.map (·.deviceId)))
          request.ownerId request.username first.reservationId request.ttlSeconds now
        match result.1 with
        | .error error => (.error error,⟨state.db,result.2⟩)
        | .ok _ =>
          let db := {expired.db with reservations := reservations}
          (.ok (reservationPayload db first.reservationId),⟨db,result.2⟩)
      else (.error (.value "automation run already has a different active reservation"),⟨state.db,expired.claims⟩)
    | [] =>
      match requested.mapM (reservable expired.db request.workerId) with
      | .error error => (.error error,⟨state.db,expired.claims⟩)
      | .ok devices =>
        let reservationId := "reservation-" ++ request.reservationUuid
        let result := acquireReservation expired.claims (claimDevices state.db request.workerId (devices.map (·.id)))
          request.ownerId request.username reservationId request.ttlSeconds now
        match result.1 with
        | .error error => (.error error,⟨state.db,result.2⟩)
        | .ok _ =>
          match devices.foldlM (insertReserved request reservationId now) expired.db with
          | .error error =>
            (.error error,⟨state.db,(release result.2 (reservationSource reservationId) .failed [] now).2⟩)
          | .ok db => (.ok (reservationPayload db reservationId),⟨db,result.2⟩)

def renewReservation (state : State) (reservationId : String) (ttlSeconds : Int) (now : Nat) :
    Except ClusterError Bool × State :=
  let expired := expireDeviceReservations state now
  let rows := byDevice (Table.select (fun item => item.reservationId = reservationId ∧ item.status = .active)
    expired.db.reservations)
  match rows with
  | [] => (.ok false,expired)
  | first :: _ =>
    let result := acquire expired.claims (claimDevices state.db first.workerId (rows.map (·.deviceId)))
      ⟨first.ownerId,first.ownerId,"cluster-reservation",reservationSource reservationId,ttlSeconds,true⟩ now now
    match result.1 with
    | .error error => (.error (.claim error),⟨state.db,result.2⟩)
    | .ok acquisition =>
      if acquisition.acquired then
        let reservations := Table.update (fun item => item.reservationId = reservationId ∧ item.status = .active)
          (fun item => {item with heartbeatAt := now, expiresAt := reservationExpiry now ttlSeconds})
          expired.db.reservations
        (.ok true,⟨{expired.db with reservations := reservations},result.2⟩)
      else
        let reservations := Table.update (fun item => item.reservationId = reservationId ∧ item.status = .active)
          (closedReservation .expired now) expired.db.reservations
        -- This path alone does not look for another reservation of the device.
        let devices := Table.update (fun device => device.id ∈ rows.map (·.deviceId) ∧ device.state = "reserved" ∧
          ¬ leased expired.db.leases device.id) (fun device => {device with state := "available", updatedAt := now})
          expired.db.devices
        (.ok false,⟨{expired.db with reservations := reservations, devices := devices},result.2⟩)

def ReservationStatus.claimStatus : ReservationStatus → ClaimStatus
  | .active => .active
  | .released => .released
  | .cancelled => .cancelled
  | .converted => .converted
  | .expired => .expired

def releaseReservation (state : State) (reservationId : String) (status : ReservationStatus) (now : Nat) :
    Except ClusterError Bool × State :=
  if status = .active then (.error (.value "invalid reservation release status"),state)
  else
    let rows := Table.select (fun item => item.reservationId = reservationId ∧ item.status = .active)
      state.db.reservations
    if rows = [] then (.ok false,state)
    else
      let reservations := Table.update (fun item => item.reservationId = reservationId ∧ item.status = .active)
        (closedReservation status now) state.db.reservations
      let db := {state.db with reservations := reservations}
      let devices := unreserve db (rows.map (·.deviceId)) now
      (.ok true,⟨{db with devices := devices},
        (release state.claims (reservationSource reservationId) status.claimStatus [] now).2⟩)

end GmsRemoteTest.Cluster
