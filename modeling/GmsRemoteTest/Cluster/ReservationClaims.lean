import GmsRemoteTest.Foundation.ClaimSources
import GmsRemoteTest.Cluster.RepairPass

/-! The claims of reservations that have ended. Reservations are taken, renewed, released, converted
into jobs and left to expire while users lock and unlock single devices and the rest of the Controller
works on its other tables. -/
namespace GmsRemoteTest.Cluster
open DeviceClaims Text DeviceLocks

inductive ReservationOp
  | others (db : Db)
  | reserveDevices (request : ReservationRequest) (uuid : {text : String // Solid text}) (now : Nat)
  | renewReservation (reservationId : String) (ttlSeconds : Int) (now : Nat)
  | releaseReservation (reservationId : String) (status : ReservationStatus) (now : Nat)
  | expireDeviceReservations (now : Nat)
  | createJobWithLeases (data : JobCreate) (now : Nat)
  | lockDevice (deviceId clientId username sourceType : String) (ttlSeconds : Int) (now later : Nat)
  | unlockDevice (deviceId clientId source : String) (now later : Nat)
  | forceUnlockDevice (deviceId : String) (now later : Nat)

section
variable (settings : Settings) (manager : Manager)

def reservationStep : ReservationOp → State → State
  | .others db, state => {state with db := {db with reservations := state.db.reservations}}
  | .reserveDevices request uuid now, state => (reserveDevices state {request with reservationUuid := uuid.1} now).2
  | .renewReservation reservationId ttl now, state => (renewReservation state reservationId ttl now).2
  | .releaseReservation reservationId status now, state => (releaseReservation state reservationId status now).2
  | .expireDeviceReservations now, state => expireDeviceReservations state now
  | .createJobWithLeases data now, state => (createJobWithLeases settings state data now).2
  | .lockDevice deviceId clientId username sourceType ttl now later, state =>
    {state with claims := (manager.lockDevice state.claims deviceId clientId username "" sourceType ttl now later).2}
  | .unlockDevice deviceId clientId source now later, state =>
    {state with claims := (manager.unlockDevice state.claims deviceId clientId source now later).2}
  | .forceUnlockDevice deviceId now later, state =>
    {state with claims := (manager.forceUnlockDevice state.claims deviceId now later).2}

end

/-- The reservation has a row that is still active. -/
def Reserved (items : List Reservation) (reservationId : String) : Prop :=
  ∃ item ∈ items, item.reservationId = reservationId ∧ item.status = .active

instance (items : List Reservation) (reservationId : String) : Decidable (Reserved items reservationId) :=
  inferInstanceAs (Decidable (∃ item ∈ items, item.reservationId = reservationId ∧ item.status = .active))

structure Backed (state : State) : Prop where
  rows : ∀ id, Claimed state.claims.rows (reservationSource id) → Reserved state.db.reservations id
  names : ∀ item ∈ state.db.reservations, Solid item.reservationId ∧ item.reservationId ≠ ""

theorem not_reservation {source : String} {c : Char} (head : source.toList.head? = some c) (other : c ≠ 'r') (id : String) :
    reservationSource id ≠ source := by
  intro same
  rw [← same,reservationSource,String.toList_append] at head
  simp at head
  exact other head.symm

theorem job_not_reservation (jobId id : String) : reservationSource id ≠ strip (jobSource jobId) := by
  have shape : (jobSource jobId).toList = 'j' :: ("ob:".toList++jobId.toList) := by
    rw [jobSource,String.toList_append]
    rfl
  exact not_reservation (strip_head shape rfl) (by decide) id

theorem lock_not_reservation (clientId id : String) : reservationSource id ≠ strip (Manager.sourceId clientId "") := by
  have shape : ("local:" ++ clientId).toList = 'l' :: ("ocal:".toList++clientId.toList) := by
    rw [String.toList_append]
    rfl
  have once : (Manager.sourceId clientId "").toList.head? = some 'l' := strip_head shape rfl
  obtain ⟨rest,twice⟩ := List.head?_eq_some_iff.mp once
  exact not_reservation (strip_head twice rfl) (by decide) id

theorem strip_reservationSource {id : String} (solid : Solid id) : strip (reservationSource id) = reservationSource id :=
  Solid.strip_eq (Solid.append (by decide) solid)

section
variable {state : State}

theorem claimed_releaseReservations {status : ClaimStatus} (closing : status ≠ .active) {now : Nat} {ids : List String} {registry : Registry}
    {source : String} (claimed : Claimed (releaseReservations status now registry ids).rows source) :
    Claimed registry.rows source ∧ ∀ id ∈ ids, source ≠ reservationSource id := by
  induction ids generalizing registry with
  | nil => exact ⟨claimed,fun _ none => (nomatch none)⟩
  | cons id ids ih =>
    obtain ⟨before,apart⟩ := ih claimed
    refine ⟨before.of_release,?_⟩
    intro other member
    obtain rfl | later := List.mem_cons.mp member
    · rintro rfl
      exact not_claimed_release registry _ closing now before
    · exact apart other later

theorem Backed.expire (backed : Backed state) (now : Nat) : Backed (expireDeviceReservations state now) := by
  refine ⟨?_,?_⟩
  · intro id claimed
    unfold expireDeviceReservations at claimed ⊢
    dsimp only at claimed ⊢
    split
    · rename_i none
      rw [if_pos none] at claimed
      exact backed.rows id claimed
    · rename_i some
      rw [if_neg some] at claimed
      obtain ⟨before,apart⟩ := claimed_releaseReservations (by decide) claimed
      obtain ⟨item,member,named,active⟩ := backed.rows id before
      by_cases due : item.status = .active ∧ item.expiresAt ≤ now
      · refine absurd rfl (apart id ?_)
        rw [mem_fromkeys]
        refine List.mem_map.mpr ⟨closedReservation .expired now item,?_,named⟩
        rw [Table.mem_select]
        exact ⟨Table.mem_update.mpr ⟨item,member,if_pos due⟩,rfl,rfl⟩
      · exact ⟨item,Table.mem_update.mpr ⟨item,member,if_neg due⟩,named,active⟩
  · rw [expire_reservations]
    intro item member
    obtain ⟨old,held,rfl⟩ := Table.mem_update.mp member
    split
    · exact backed.names old held
    · exact backed.names old held

theorem Backed.rollback (backed : Backed state) {registry : Registry}
    (fewer : ∀ id, Claimed registry.rows (reservationSource id) → Claimed state.claims.rows (reservationSource id)) :
    Backed ⟨state.db,registry⟩ :=
  ⟨fun id claimed => backed.rows id (fewer id claimed),backed.names⟩

theorem expire_fewer (state : State) (now : Nat) (source : String)
    (claimed : Claimed (expireDeviceReservations state now).claims.rows source) : Claimed state.claims.rows source := by
  unfold expireDeviceReservations at claimed
  dsimp only at claimed
  split at claimed
  · exact claimed
  · exact (claimed_releaseReservations (by decide) claimed).1

theorem Reserved.update {items : List Reservation} {id : String} (reserved : Reserved items id) {selects : Reservation → Prop}
    [DecidablePred selects] {set : Reservation → Reservation}
    (kept : ∀ item ∈ items, item.reservationId = id → selects item → (set item).reservationId = id ∧ (set item).status = item.status) :
    Reserved (Table.update selects set items) id := by
  obtain ⟨item,member,named,active⟩ := reserved
  refine ⟨_,Table.mem_update.mpr ⟨item,member,rfl⟩,?_⟩
  split
  · rename_i chosen
    obtain ⟨same,status⟩ := kept item member named chosen
    exact ⟨same,status.trans active⟩
  · exact ⟨named,active⟩

theorem names_update {items : List Reservation} (names : ∀ item ∈ items, Solid item.reservationId ∧ item.reservationId ≠ "")
    {selects : Reservation → Prop} [DecidablePred selects] {set : Reservation → Reservation}
    (kept : ∀ item, (set item).reservationId = item.reservationId) :
    ∀ item ∈ Table.update selects set items, Solid item.reservationId ∧ item.reservationId ≠ "" := by
  intro item member
  obtain ⟨old,held,rfl⟩ := Table.mem_update.mp member
  split
  · rw [kept]
    exact names old held
  · exact names old held

theorem Backed.close (backed : Backed state) {reservationId : String} {status : ReservationStatus} {now : Nat} {db : Db} {registry : Registry}
    (rows : db.reservations = Table.update (fun item => item.reservationId = reservationId ∧ item.status = .active)
      (closedReservation status now) state.db.reservations)
    (fewer : ∀ id, Claimed registry.rows (reservationSource id) → Claimed state.claims.rows (reservationSource id))
    (none : ¬ Claimed registry.rows (reservationSource reservationId)) : Backed ⟨db,registry⟩ := by
  refine ⟨?_,?_⟩
  · intro id claimed
    change Reserved db.reservations id
    rw [rows]
    refine (backed.rows id (fewer id claimed)).update ?_
    rintro item - rfl ⟨same,-⟩
    rw [same] at claimed
    exact absurd claimed none
  · change ∀ item ∈ db.reservations, _
    rw [rows]
    exact names_update backed.names fun _ => rfl

theorem Backed.refresh (backed : Backed state) {selects : Reservation → Prop} [DecidablePred selects] {set : Reservation → Reservation}
    {db : Db} {registry : Registry} (rows : db.reservations = Table.update selects set state.db.reservations)
    (kept : ∀ item, (set item).reservationId = item.reservationId ∧ (set item).status = item.status)
    (held : ∀ id, Claimed registry.rows (reservationSource id) →
      Claimed state.claims.rows (reservationSource id) ∨ Reserved state.db.reservations id) : Backed ⟨db,registry⟩ := by
  have same : ∀ id, Reserved state.db.reservations id → Reserved db.reservations id := by
    intro id reserved
    rw [rows]
    exact reserved.update fun item _ named _ => ⟨(kept item).1.trans named,(kept item).2⟩
  refine ⟨?_,?_⟩
  · intro id claimed
    obtain before | now := held id claimed
    · exact same id (backed.rows id before)
    · exact same id now
  · change ∀ item ∈ db.reservations, _
    rw [rows]
    exact names_update backed.names fun item => (kept item).1

theorem Backed.release (backed : Backed state) (reservationId : String) (status : ReservationStatus) (now : Nat) :
    Backed (releaseReservation state reservationId status now).2 := by
  unfold releaseReservation
  split
  · exact backed
  rename_i closing
  dsimp only
  split
  · exact backed
  refine backed.close rfl (fun _ claimed => claimed.of_release) (not_claimed_release _ _ ?_ now)
  cases status with
  | active => exact absurd rfl closing
  | released | cancelled | converted | expired => decide

theorem claimed_acquireReservation {registry : Registry} {devices : List DeviceRequest} {ownerId username reservationId : String} {ttl : Int}
    {now : Nat} (solid : Solid reservationId) {id : String}
    (claimed : Claimed (acquireReservation registry devices ownerId username reservationId ttl now).2.rows (reservationSource id)) :
    Claimed registry.rows (reservationSource id) ∨
      (acquireReservation registry devices ownerId username reservationId ttl now).1 = .ok () ∧ id = reservationId := by
  unfold acquireReservation at claimed ⊢
  generalize request : ClaimRequest.mk ownerId (orElse username ownerId) "cluster-reservation" (reservationSource reservationId) ttl true =
    asked at claimed ⊢
  dsimp only at claimed ⊢
  have rows : Claimed (acquire registry devices asked now now).2.rows (reservationSource id) := by
    split at claimed
    · exact claimed
    · split at claimed
      · exact claimed
      · exact claimed
  obtain ⟨-,before⟩ | ⟨⟨records,granted⟩,before | own⟩ := rows.of_acquire
  · exact .inl before
  · exact .inl before.of_expire
  · refine .inr ⟨?_,?_⟩
    · rw [granted]
      rfl
    · subst request
      rw [strip_reservationSource solid] at own
      exact reservationSource_inj own

theorem insertReservedLoop_reserves {request : ReservationRequest} {reservationId : String} {now : Nat} {db next : Db}
    {devices : List Device} (some : devices ≠ []) (done : devices.foldlM (insertReserved request reservationId now) db = .ok next) :
    Reserved next.reservations reservationId := by
  cases devices with
  | nil => exact absurd rfl some
  | cons device devices =>
    rw [List.foldlM_cons] at done
    cases first : insertReserved request reservationId now db device with
    | error error =>
      rw [first] at done
      cases done
    | ok inserted =>
      rw [first] at done
      obtain ⟨item,named,active,-,added⟩ := insertReserved_rows first
      obtain ⟨news,-,rows⟩ := insertReservedLoop_rows done
      simp only [Db.records,Records.mk.injEq] at added rows
      refine ⟨item,?_,named,active⟩
      rw [rows.2,added.2]
      simp

theorem reservable_some {db : Db} {workerId : String} {requested : List String} {devices : List Device} (asked : requested ≠ [])
    (found : requested.mapM (reservable db workerId) = .ok devices) : devices ≠ [] := by
  cases requested with
  | nil => exact absurd rfl asked
  | cons deviceId requested =>
    rw [List.mapM_cons] at found
    cases first : reservable db workerId deviceId with
    | error error =>
      rw [first] at found
      cases found
    | ok device =>
      rw [first] at found
      cases rest : requested.mapM (reservable db workerId) with
      | error error =>
        simp only [bind,Except.bind,rest] at found
        cases found
      | ok others =>
        simp only [bind,Except.bind,rest,pure,Except.pure] at found
        cases found
        exact List.cons_ne_nil _ _

theorem Backed.reserve (backed : Backed state) {request : ReservationRequest} (solid : Solid request.reservationUuid) (now : Nat) :
    Backed (reserveDevices state request now).2 := by
  have swept := backed.expire now
  have older : ∀ id, Claimed (expireDeviceReservations state now).claims.rows (reservationSource id) →
      Claimed state.claims.rows (reservationSource id) := fun id => expire_fewer state now _
  unfold reserveDevices
  dsimp only
  split
  · exact backed
  rename_i asked
  split
  · rename_i first rest listed
    split
    · have chosen : first ∈ byDevice (Table.select (fun item => item.sourceId = request.sourceId ∧ item.status = .active)
          (expireDeviceReservations state now).db.reservations) := by
        rw [listed]
        exact List.mem_cons_self
      rw [byDevice,List.mem_insertionSort,Table.mem_select] at chosen
      have named := (swept.names first chosen.1).1
      split
      · rename_i refused
        refine backed.rollback fun id claimed => ?_
        obtain before | ⟨granted,-⟩ := claimed_acquireReservation named claimed
        · exact older id before
        · rw [granted] at refused
          cases refused
      · refine swept.refresh rfl (fun _ => ⟨rfl,rfl⟩) fun id claimed => ?_
        obtain before | ⟨-,rfl⟩ := claimed_acquireReservation named claimed
        · exact .inl before
        · exact .inr ⟨first,chosen.1,rfl,chosen.2.2⟩
    · exact backed.rollback older
  · split
    · exact backed.rollback older
    rename_i devices found
    have named : Solid ("reservation-" ++ request.reservationUuid) := Solid.append (by decide) solid
    split
    · rename_i refused
      refine backed.rollback fun id claimed => ?_
      obtain before | ⟨granted,-⟩ := claimed_acquireReservation named claimed
      · exact older id before
      · rw [granted] at refused
        cases refused
    split
    · refine backed.rollback fun id claimed => ?_
      obtain before | ⟨-,rfl⟩ := claimed_acquireReservation named claimed.of_release
      · exact older id before
      · exact absurd claimed (not_claimed_release _ _ (by decide) now)
    · rename_i db inserted
      obtain ⟨news,bound,rows⟩ := insertReservedLoop_rows inserted
      simp only [Db.records,Records.mk.injEq] at rows
      refine ⟨?_,?_⟩
      · intro id claimed
        obtain before | ⟨-,rfl⟩ := claimed_acquireReservation named claimed
        · obtain ⟨item,member,held⟩ := swept.rows id before
          refine ⟨item,?_,held⟩
          rw [rows.2]
          exact List.mem_append_left _ member
        · exact insertReservedLoop_reserves (reservable_some asked found) inserted
      · intro item member
        change item ∈ db.reservations at member
        rw [rows.2] at member
        obtain old | new := List.mem_append.mp member
        · exact swept.names item old
        · rw [(bound item new).1]
          refine ⟨named,?_⟩
          intro empty
          have letters := congrArg String.toList empty
          rw [String.toList_append] at letters
          simp at letters

def renewalRows (state : State) (reservationId : String) (now : Nat) : List Reservation :=
  byDevice (Table.select (fun item => item.reservationId = reservationId ∧ item.status = .active)
    (expireDeviceReservations state now).db.reservations)

def RenewalBlocked (state : State) (reservationId : String) (ttlSeconds : Int) (now : Nat) : Prop :=
  ∃ first ∈ (renewalRows state reservationId now).head?,
    conflicts (DeviceClaims.expire now (expireDeviceReservations state now).claims.rows)
      ⟨first.ownerId,first.ownerId,"cluster-reservation",reservationSource reservationId,ttlSeconds,true⟩
      (normalizeDevices (claimDevices state.db first.workerId ((renewalRows state reservationId now).map (·.deviceId)))) ≠ []

instance (state : State) (reservationId : String) (ttlSeconds : Int) (now : Nat) : Decidable (RenewalBlocked state reservationId ttlSeconds now) :=
  inferInstanceAs (Decidable (∃ first ∈ (renewalRows state reservationId now).head?, _))

theorem not_acquired {registry : Registry} {devices : List DeviceRequest} {request : ClaimRequest} {now later : Nat} {records : List Claim}
    (refused : (acquire registry devices request now later).1 = .ok ⟨false,records⟩) :
    conflicts (DeviceClaims.expire now registry.rows) request (normalizeDevices devices) ≠ [] := by
  intro free
  unfold acquire at refused
  dsimp only at refused
  split at refused
  · cases refused
  split at refused
  · cases refused
  split at refused
  · rename_i clash
    exact clash free
  · cases refused

theorem Backed.renew (backed : Backed state) {reservationId : String} {ttlSeconds : Int} {now : Nat}
    (tidy : RenewalBlocked state reservationId ttlSeconds now →
      ¬ Claimed (expireDeviceReservations state now).claims.rows (reservationSource reservationId)) :
    Backed (renewReservation state reservationId ttlSeconds now).2 := by
  have swept := backed.expire now
  unfold renewReservation
  dsimp only
  split
  · exact swept
  rename_i first rest listed
  change renewalRows state reservationId now = first :: rest at listed
  have chosen : first ∈ renewalRows state reservationId now := by
    rw [listed]
    exact List.mem_cons_self
  rw [renewalRows,byDevice,List.mem_insertionSort,Table.mem_select] at chosen
  obtain ⟨member,rfl,active⟩ := chosen
  have named := strip_reservationSource (swept.names first member).1
  generalize request : ClaimRequest.mk first.ownerId first.ownerId "cluster-reservation" (reservationSource first.reservationId) ttlSeconds
    true = asked
  have own : strip asked.sourceId = reservationSource first.reservationId := by
    rw [← request]
    exact named
  split
  · rename_i refused
    refine backed.rollback fun id claimed => ?_
    obtain ⟨-,before⟩ | ⟨⟨records,granted⟩,-⟩ := claimed.of_acquire
    · exact expire_fewer state now _ before
    · rw [granted] at refused
      cases refused
  rename_i acquisition outcome
  split
  · refine swept.refresh rfl (fun _ => ⟨rfl,rfl⟩) fun id claimed => ?_
    obtain ⟨-,before⟩ | ⟨-,before | same⟩ := claimed.of_acquire
    · exact .inl before
    · exact .inl before.of_expire
    · rw [own] at same
      rw [reservationSource_inj same]
      exact .inr ⟨first,member,rfl,active⟩
  · rename_i denied
    obtain ⟨acquired,records⟩ := acquisition
    cases acquired with
    | true => exact absurd rfl denied
    | false =>
      have blocked : RenewalBlocked state first.reservationId ttlSeconds now := by
        refine ⟨first,?_,?_⟩
        · rw [listed]
          rfl
        · rw [request]
          exact not_acquired outcome
      have same : ∀ source, Claimed (acquire (expireDeviceReservations state now).claims
          (claimDevices state.db first.workerId ((renewalRows state first.reservationId now).map (·.deviceId))) asked now now).2.rows source →
          Claimed (expireDeviceReservations state now).claims.rows source := by
        intro source claimed
        obtain ⟨-,before⟩ | ⟨⟨others,granted⟩,-⟩ := claimed.of_acquire
        · exact before
        · have both := outcome.symm.trans granted
          cases both
      exact swept.close rfl (fun id => same _) fun claimed => tidy blocked (same _ claimed)

theorem claimed_activeClaims {registry : Registry} {now : Nat} {keys : List String} {source : String}
    (claimed : Claimed (activeClaims registry now keys).2.rows source) : Claimed registry.rows source := by
  induction keys generalizing registry with
  | nil => exact claimed
  | cons key keys ih => exact (ih claimed).of_expire

def submittedClaim (settings : Settings) (data : JobCreate) : ClaimRequest :=
  ⟨strip data.ownerId,orElse (strip data.ownerUsername) (strip data.ownerId),"cluster-job",jobSource data.jobId,
    settings.claimLeaseTtlSeconds,true⟩

def SubmissionBlocked (settings : Settings) (state : State) (data : JobCreate) (now : Nat) : Prop :=
  conflicts (DeviceClaims.expire now state.claims.rows) (submittedClaim settings data)
    (normalizeDevices (claimDevices state.db data.workerId data.devices)) ≠ []

instance (settings : Settings) (state : State) (data : JobCreate) (now : Nat) : Decidable (SubmissionBlocked settings state data now) :=
  inferInstanceAs (Decidable (_ ≠ []))

theorem claimed_acquireJob {settings : Settings} {registry : Registry} {devices : List DeviceRequest} {data : JobCreate} {now : Nat} {id : String}
    (claimed : Claimed (acquireJob settings registry devices (strip data.ownerId) (strip data.ownerUsername) data.jobId now).2.rows
      (reservationSource id)) :
    Claimed registry.rows (reservationSource id) ∧ ∀ records,
      (acquireJob settings registry devices (strip data.ownerId) (strip data.ownerUsername) data.jobId now).1 = .ok records →
      Claimed (DeviceClaims.expire now registry.rows) (reservationSource id) ∧
      Grants (acquire registry devices (submittedClaim settings data) now now) := by
  have rows : Claimed (acquire registry devices (submittedClaim settings data) now now).2.rows (reservationSource id) := by
    unfold acquireJob at claimed
    dsimp only at claimed
    split at claimed
    · exact claimed
    · split at claimed
      · exact claimed
      · exact claimed
  refine ⟨rows.of_acquire_other (job_not_reservation _ _),?_⟩
  intro records done
  obtain ⟨refused,-⟩ | ⟨granted,before | own⟩ := rows.of_acquire
  · refine absurd ?_ refused
    unfold acquireJob at done
    dsimp only at done
    split at done
    · cases done
    · rename_i acquisition outcome
      split at done
      · rename_i taken
        exact ⟨acquisition.records,outcome.trans (by rw [← taken])⟩
      · cases done
  · exact ⟨before,granted⟩
  · exact absurd own (job_not_reservation _ _)

structure Converting (settings : Settings) (state : State) (data : JobCreate) (now : Nat) (outcome : Except ClusterError JobClaims × Registry) :
    Prop where
  fewer : ∀ id, Claimed outcome.2.rows (reservationSource id) → Claimed state.claims.rows (reservationSource id)
  moved : ∀ claims, outcome.1 = .ok claims → claims.transferred = true → Reserved state.db.reservations data.deviceReservationId
  gone : ∀ claims, outcome.1 = .ok claims → data.deviceReservationId ≠ "" →
    Claimed outcome.2.rows (reservationSource data.deviceReservationId) →
    Claimed (DeviceClaims.expire now state.claims.rows) (reservationSource data.deviceReservationId) ∧
      ¬ SubmissionBlocked settings state data now

theorem checkReservation_reserved {db : Db} {data : JobCreate} {ownerId : String} (checked : checkReservation db data ownerId = .ok ()) :
    Reserved db.reservations data.deviceReservationId := by
  unfold checkReservation at checked
  split at checked
  · cases checked
  rename_i reservation found
  split at checked
  · cases checked
  rename_i active
  unfold reservationPayload at found
  split at found
  · cases found
  rename_i first rest listed
  have chosen : first ∈ byDevice (Table.select (fun item => item.reservationId = data.deviceReservationId) db.reservations) := by
    rw [listed]
    exact List.mem_cons_self
  rw [byDevice,List.mem_insertionSort,Table.mem_select] at chosen
  cases found
  exact ⟨first,chosen.1,chosen.2,not_not.mp active⟩

theorem Converting.refused {settings : Settings} {data : JobCreate} {now : Nat} (error : ClusterError) :
    Converting settings state data now (.error error,state.claims) :=
  ⟨fun _ claimed => claimed,fun _ done => (nomatch done),fun _ done => (nomatch done)⟩

theorem Converting.acquired {settings : Settings} {data : JobCreate} {now : Nat} : Converting settings state data now
    ((acquireJob settings state.claims (claimDevices state.db data.workerId data.devices) (strip data.ownerId) (strip data.ownerUsername)
      data.jobId now).1.map (fun records => ⟨records,false⟩),
      (acquireJob settings state.claims (claimDevices state.db data.workerId data.devices) (strip data.ownerId) (strip data.ownerUsername)
      data.jobId now).2) := by
  generalize made : acquireJob settings state.claims (claimDevices state.db data.workerId data.devices) (strip data.ownerId)
    (strip data.ownerUsername) data.jobId now = outcome
  obtain ⟨answer,registry⟩ := outcome
  have left : ∀ id, Claimed registry.rows (reservationSource id) → Claimed state.claims.rows (reservationSource id) ∧
      ∀ records, answer = .ok records → Claimed (DeviceClaims.expire now state.claims.rows) (reservationSource id) ∧
        Grants (acquire state.claims (claimDevices state.db data.workerId data.devices) (submittedClaim settings data) now now) := by
    intro id claimed
    have both := @claimed_acquireJob settings state.claims (claimDevices state.db data.workerId data.devices) data now id
    rw [made] at both
    exact both claimed
  cases answer with
  | error error => exact ⟨fun id claimed => (left id claimed).1,fun _ done => (nomatch done),fun _ done => (nomatch done)⟩
  | ok records =>
    refine ⟨fun id claimed => (left id claimed).1,?_,?_⟩
    · intro claims done transferred
      cases done
      cases transferred
    · intro claims done named claimed
      obtain ⟨before,granted⟩ := (left _ claimed).2 records rfl
      exact ⟨before,fun blocked => not_granted blocked granted⟩

theorem converting (settings : Settings) (state : State) (data : JobCreate) (now : Nat) :
    Converting settings state data now (claimJobDevices settings state data now) := by
  unfold claimJobDevices
  dsimp only
  split
  · exact .refused _
  split
  · exact .refused _
  split
  · exact .refused _
  split
  · exact .acquired
  split
  · exact .refused _
  rename_i checked
  split
  · rename_i some
    refine ⟨?_,?_,?_⟩
    · intro id claimed
      obtain before | own := (claimed_activeClaims claimed).of_transfer
      · exact before
      · exact absurd own.symm (jobSource_ne _ _)
    · exact fun _ _ _ => checkReservation_reserved checked
    · intro _ _ _ claimed
      exact absurd (claimed_activeClaims claimed) (not_claimed_transfer (jobSource_ne _ _) some)
  · rename_i none
    rw [transfer_none none]
    exact .acquired

theorem Backed.submit (backed : Backed state) {settings : Settings} {data : JobCreate} {now : Nat}
    (tidy : data.deviceReservationId ≠ "" →
      Claimed (DeviceClaims.expire now state.claims.rows) (reservationSource data.deviceReservationId) → SubmissionBlocked settings state data now) :
    Backed (createJobWithLeases settings state data now).2 := by
  have phase := converting settings state data now
  unfold createJobWithLeases
  split
  · rename_i error registry made
    rw [made] at phase
    exact backed.rollback phase.fewer
  rename_i claims registry made
  rw [made] at phase
  have begun : Backed ⟨state.db,registry⟩ := backed.rollback phase.fewer
  have swept := begun.expire now
  have older := expire_fewer ⟨state.db,registry⟩ now
  unfold createJobMetadata
  dsimp only
  split
  · rename_i error failed inner
    split at inner
    · cases inner
      unfold returnClaims
      split
      · rename_i transferred
        have back : ∀ id, Claimed (transfer (expireDeviceReservations ⟨state.db,registry⟩ now).claims (jobSource data.jobId)
            (reservationSource data.deviceReservationId) "cluster-reservation" (6*60*60) (strip data.ownerId)
            ((claimDevices state.db data.workerId data.devices).map (·.deviceKey)) now now).2.rows (reservationSource id) →
            Reserved state.db.reservations id := by
          intro id claimed
          obtain before | own := claimed.of_transfer
          · exact begun.rows id (older _ before)
          · rw [reservationSource_inj own]
            exact phase.moved claims rfl transferred
        refine ⟨?_,backed.names⟩
        intro id claimed
        dsimp only at claimed
        split at claimed
        · exact back id claimed.of_release
        · exact back id claimed
      · exact begun.rollback fun id claimed => older _ claimed.of_release
    · cases inner
  · rename_i created inner
    split at inner
    · cases inner
    rename_i db inserted
    cases inner
    obtain same | closed := (insertJobWithLeases_submitted inserted).reservations
    · refine ⟨?_,?_⟩
      · intro id claimed
        change Reserved db.records.reservations id
        rw [same]
        exact swept.rows id claimed
      · change ∀ item ∈ db.records.reservations, _
        rw [same]
        exact swept.names
    · refine swept.close closed (fun _ claimed => claimed) fun claimed => ?_
      by_cases named : data.deviceReservationId = ""
      · obtain ⟨item,member,empty,-⟩ := swept.rows _ claimed
        exact (swept.names item member).2 (empty.trans named)
      · obtain ⟨before,free⟩ := phase.gone claims rfl named (older _ claimed)
        exact free (tidy named before)

/-- A renewal refused for somebody else's claim finds its reservation without claims, and one that still has claims is converted
only when one of the routes asked for is claimed. -/
def Tidy (settings : Settings) (state : State) : ReservationOp → Prop
  | .renewReservation reservationId ttl now => RenewalBlocked state reservationId ttl now →
    ¬ Claimed (expireDeviceReservations state now).claims.rows (reservationSource reservationId)
  | .createJobWithLeases data now => data.deviceReservationId ≠ "" →
    Claimed (DeviceClaims.expire now state.claims.rows) (reservationSource data.deviceReservationId) → SubmissionBlocked settings state data now
  | _ => True

instance (settings : Settings) (state : State) : DecidablePred (Tidy settings state)
  | .renewReservation .. => inferInstanceAs (Decidable (_ → ¬ _))
  | .createJobWithLeases .. => inferInstanceAs (Decidable (_ ≠ "" → _ → _))
  | .others _ | .reserveDevices .. | .releaseReservation .. | .expireDeviceReservations _ | .lockDevice .. | .unlockDevice ..
  | .forceUnlockDevice .. => inferInstanceAs (Decidable True)

theorem Backed.step {settings : Settings} {manager : Manager} {op : ReservationOp} (tidy : Tidy settings state op) (backed : Backed state) :
    Backed (reservationStep settings manager op state) := by
  cases op with
  | others db => exact ⟨backed.rows,backed.names⟩
  | reserveDevices request uuid now => exact backed.reserve uuid.2 now
  | renewReservation reservationId ttl now => exact backed.renew tidy
  | releaseReservation reservationId status now => exact backed.release reservationId status now
  | expireDeviceReservations now => exact backed.expire now
  | createJobWithLeases data now => exact backed.submit tidy
  | lockDevice deviceId clientId username sourceType ttl now later =>
    exact backed.rollback fun id claimed => claimed.of_acquire_other (lock_not_reservation clientId id)
  | unlockDevice deviceId clientId source now later => exact backed.rollback fun _ claimed => Manager.claimed_unlockDevice claimed
  | forceUnlockDevice deviceId now later => exact backed.rollback fun _ claimed => Manager.claimed_forceUnlockDevice claimed

end

/-- Once no row of a reservation is active, nothing is claimed under its name. -/
theorem ended_reservations_hold_nothing {settings : Settings} {manager : Manager} {state : State}
    (reached : Runs.Reached (reservationStep settings manager) (Tidy settings) {} state) {reservationId : String}
    (halted : ¬ Reserved state.db.reservations reservationId) : ¬ Claimed state.claims.rows (reservationSource reservationId) := by
  have backed : Backed state := by
    refine reached.invariant Backed ⟨?_,?_⟩ fun _ _ backed tidy => backed.step tidy
    · rintro id ⟨row,none,-⟩
      exact absurd none List.not_mem_nil
    · exact fun _ none => absurd none List.not_mem_nil
  exact fun claimed => halted (backed.rows reservationId claimed)

def reservedPair : List ReservationOp :=
  let device (serial : String) : Device := ⟨"w1:" ++ serial,"w1",serial,"usb","available",{},1000⟩
  [.others {workers := [⟨"w1",.online,2,0,0,0,0,"",0,none,none,1000,1000⟩], devices := [device "s1",device "s2"]},
    .reserveDevices ⟨"w1",["s1","s2"],"u","run-1",3600,"","",id⟩ ⟨"1",by decide⟩ 1000]

theorem ended_reservations_hold_nothing_released :
    let ops := reservedPair ++ [.renewReservation "reservation-1" 3600 1010,.createJobWithLeases
      {workerId := "w1", devices := ["s1","s2"], ownerId := "u", deviceReservationId := "reservation-1", jobUuid := "1", attemptUuid := "1"} 1020]
    let state := Runs.exec (reservationStep {} ⟨"w1",none⟩) {} ops
    ¬ Reserved state.db.reservations "reservation-1" ∧ Claimed state.claims.rows (jobSource "job-1") ∧
      ¬ Claimed state.claims.rows (reservationSource "reservation-1") := by
  intro ops state
  have halted : ¬ Reserved state.db.reservations "reservation-1" := by decide +kernel
  refine ⟨halted,by decide +kernel,?_⟩
  have reached : Runs.Reached (reservationStep {} ⟨"w1",none⟩) (Tidy {}) {} state := Runs.Reached.along .start ops (by decide +kernel)
  exact ended_reservations_hold_nothing reached halted

/-- The first device is unlocked by its owner and locked by somebody else; the renewal then ends the reservation and leaves it the second. -/
theorem renewal_leaves_claims : ¬ ∀ (manager : Manager) (ops : List ReservationOp) (id : String),
    let state := Runs.exec (reservationStep {} manager) {} ops
    ¬ Reserved state.db.reservations id → ¬ Claimed state.claims.rows (reservationSource id) := by
  intro always
  have kept := always ⟨"w1",none⟩ (reservedPair ++ [.unlockDevice "s1" "u" "" 1010 1010,
    .lockDevice "s1" "v" "v" "local" 3600 1020 1020,.renewReservation "reservation-1" 3600 1030]) "reservation-1"
  revert kept
  decide +kernel

end GmsRemoteTest.Cluster
