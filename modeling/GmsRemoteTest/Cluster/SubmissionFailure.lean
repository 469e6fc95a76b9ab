import GmsRemoteTest.Foundation.ClaimSurvival
import GmsRemoteTest.Cluster.ReservationClaims

/-! What a submission that fails leaves behind. Its claims were taken or moved in one database before the
transaction in the other: the transaction rolls back, and the claims go where they came from. -/
namespace GmsRemoteTest.Cluster
open DeviceClaims Text

def OfReservation (source : String) : Prop := "reservation:".toList <+: source.toList

instance : DecidablePred OfReservation := fun source => inferInstanceAs (Decidable ("reservation:".toList <+: source.toList))

theorem ofReservation_reservationSource (id : String) : OfReservation (reservationSource id) := by
  unfold OfReservation reservationSource
  rw [String.toList_append]
  exact List.prefix_append _ _

/-- Whoever claims for a reservation says so. -/
def Labels (_ : Registry) : DeviceClaims.Op → Prop
  | .acquire _ request _ _ => OfReservation (strip request.sourceId) → request.sourceType = "cluster-reservation"
  | .transfer _ new sourceType _ _ _ _ _ => OfReservation new → sourceType = "cluster-reservation"
  | _ => True

instance (registry : Registry) : DecidablePred (Labels registry)
  | .acquire .. | .transfer .. => inferInstanceAs (Decidable (_ → _))
  | .renew .. | .release .. | .releaseOperationIfCurrent .. | .forceRelease .. | .activeClaim .. | .listActive .. | .listBySource .. =>
    inferInstanceAs (Decidable True)

def Labelled (rows : List Claim) : Prop := ∀ row ∈ rows, OfReservation row.sourceId → row.sourceType = "cluster-reservation"

section
variable {rows : List Claim} {registry : Registry}

theorem Labelled.update (labelled : Labelled rows) {selects : Claim → Prop} [DecidablePred selects] {set : Claim → Claim}
    (kept : ∀ row, (set row).sourceId = row.sourceId ∧ (set row).sourceType = row.sourceType) :
    Labelled (Table.update selects set rows) := by
  intro row member reservation
  obtain ⟨before,there,rfl⟩ := Table.mem_update.mp member
  by_cases chosen : selects before
  · rw [if_pos chosen] at reservation ⊢
    rw [(kept before).1] at reservation
    rw [(kept before).2]
    exact labelled before there reservation
  · rw [if_neg chosen] at reservation ⊢
    exact labelled before there reservation

theorem Labelled.expire (labelled : Labelled rows) (now : Nat) : Labelled (expire now rows) := labelled.update fun _ => ⟨rfl,rfl⟩

theorem Labelled.grants {existing : String → Option Claim} {request : ClaimRequest} {now expires : Nat}
    (labels : OfReservation (strip request.sourceId) → request.sourceType = "cluster-reservation") (devices : List DeviceRequest) {grant : Grant}
    (labelled : Labelled grant.registry.rows) :
    Labelled (devices.foldl (grantDevice existing request now expires) grant).registry.rows := by
  induction devices generalizing grant with
  | nil => exact labelled
  | cons device devices ih =>
    refine ih ?_
    unfold grantDevice
    split
    · exact labelled.update fun _ => ⟨rfl,rfl⟩
    · intro row member reservation
      obtain old | new := List.mem_append.mp member
      · exact labelled row old reservation
      · rw [List.mem_singleton.mp new] at reservation ⊢
        show orElse request.sourceType "unknown" = _
        rw [labels reservation]
        rfl

theorem Labelled.transfer (labelled : Labelled registry.rows) {old new sourceType ownerId : String} {ttl : Int} {keys : List String}
    {now later : Nat} (labels : OfReservation new → sourceType = "cluster-reservation") :
    Labelled (transfer registry old new sourceType ttl ownerId keys now later).2.rows := by
  obtain ⟨-,same,-⟩ | ⟨-,-,moved⟩ := transfer_outcome registry old new sourceType ownerId ttl keys now later
  · rw [same]
    exact labelled
  · rw [moved]
    intro row member reservation
    obtain ⟨before,there,rfl⟩ := Table.mem_update.mp member
    by_cases chosen : Held old [] before
    · rw [if_pos chosen] at reservation ⊢
      exact labels reservation
    · rw [if_neg chosen] at reservation ⊢
      exact labelled.expire now before there reservation

theorem Labelled.step (labelled : Labelled registry.rows) {op : DeviceClaims.Op} (labels : Labels registry op) : Labelled (DeviceClaims.apply op registry).rows := by
  cases op with
  | acquire devices request now later =>
    show Labelled (acquire registry devices request now later).2.rows
    unfold acquire
    dsimp only
    split
    · exact labelled
    split
    · exact labelled
    split
    · exact labelled
    · exact Labelled.grants labels _ (labelled.expire now)
  | renew sourceId ttl keys now later => exact (labelled.expire now).update fun _ => ⟨rfl,rfl⟩
  | transfer old new sourceType ttl ownerId keys now later => exact labelled.transfer labels
  | release sourceId status keys now =>
    show Labelled (release registry sourceId status keys now).2.rows
    unfold release
    split
    · exact labelled
    · exact labelled.update fun _ => ⟨rfl,rfl⟩
  | releaseOperationIfCurrent key lease generation sourceId now =>
    show Labelled (releaseOperationIfCurrent registry key lease generation sourceId now).2.rows
    unfold releaseOperationIfCurrent
    dsimp only
    split
    · exact labelled
    · exact (labelled.expire now).update fun _ => ⟨rfl,rfl⟩
  | forceRelease key now =>
    show Labelled (forceRelease registry key now).2.rows
    unfold forceRelease
    split
    · exact labelled
    · exact labelled.update fun _ => ⟨rfl,rfl⟩
  | activeClaim key now => exact labelled.expire now
  | listActive workerId ownerId now => exact labelled.expire now
  | listBySource sourceId now => exact labelled.expire now

theorem reached_labelled (reached : Runs.Reached DeviceClaims.apply Labels .empty registry) : Labelled registry.rows :=
  reached.invariant (fun registry => Labelled registry.rows) (fun _ none => absurd none List.not_mem_nil) fun _ _ labelled labels => labelled.step labels

end

def Ending (items : List Reservation) (now : Nat) (id : String) : Prop :=
  ∃ item ∈ items, item.reservationId = id ∧
    (item.status = .active ∧ item.expiresAt ≤ now ∨ item.status = .expired ∧ item.releasedAt = some now)

section
variable {settings : Settings} {state : State} {data : JobCreate} {now : Nat} {row : Claim} {registry : Registry}

theorem survives_releaseReservations {ids : List String} (there : Survives now row registry.rows)
    (apart : ∀ id ∈ ids, row.sourceId ≠ reservationSource id) (status : ClaimStatus) :
    Survives now row (releaseReservations status now registry ids).rows := by
  induction ids generalizing registry with
  | nil => exact there
  | cons id ids ih =>
    exact ih (there.release (apart id (List.mem_cons_self ..)) status []) fun other member => apart other (List.mem_cons_of_mem _ member)

theorem mem_of_releaseReservations {ids : List String} {status : ClaimStatus}
    (member : row ∈ (releaseReservations status now registry ids).rows) (active : row.status = .active) : row ∈ registry.rows := by
  induction ids generalizing registry with
  | nil => exact member
  | cons id ids ih => exact mem_of_release (ih member) active

theorem survives_expireDeviceReservations (there : Survives now row state.claims.rows)
    (apart : ∀ id, row.sourceId = reservationSource id → ¬ Ending state.db.reservations now id) :
    Survives now row (expireDeviceReservations state now).claims.rows := by
  unfold expireDeviceReservations
  dsimp only
  split
  · exact there
  refine survives_releaseReservations there ?_ _
  intro id listed own
  rw [mem_fromkeys] at listed
  obtain ⟨item,chosen,named⟩ := List.mem_map.mp listed
  obtain ⟨member,past⟩ := Table.mem_select.mp chosen
  obtain ⟨old,held,rfl⟩ := Table.mem_update.mp member
  by_cases due : old.status = .active ∧ old.expiresAt ≤ now
  · rw [if_pos due] at named
    exact apart id own ⟨old,held,named,.inl due⟩
  · rw [if_neg due] at named past
    exact apart id own ⟨old,held,named,.inr past⟩

theorem mem_of_expireDeviceReservations (member : row ∈ (expireDeviceReservations state now).claims.rows) (active : row.status = .active) :
    row ∈ state.claims.rows := by
  unfold expireDeviceReservations at member
  dsimp only at member
  split at member
  · exact member
  · exact mem_of_releaseReservations member active

theorem survives_activeClaims {keys : List String} (there : Survives now row registry.rows) :
    Survives now row (activeClaims registry now keys).2.rows := by
  induction keys generalizing registry with
  | nil => exact there
  | cons key keys ih =>
    have first : Survives now row (activeClaim registry key now).2.rows := there.expire
    exact ih first

theorem mem_of_activeClaims {keys : List String} (member : row ∈ (activeClaims registry now keys).2.rows) (active : row.status = .active) :
    row ∈ registry.rows := by
  induction keys generalizing registry with
  | nil => exact member
  | cons key keys ih => exact mem_of_expire (ih member) active

def submittedKeys (state : State) (data : JobCreate) : List String := (claimDevices state.db data.workerId data.devices).map (·.deviceKey)

def convert (settings : Settings) (state : State) (data : JobCreate) (now : Nat) : Nat × Registry :=
  transfer state.claims (reservationSource data.deviceReservationId) (jobSource data.jobId) "cluster-job" settings.claimLeaseTtlSeconds
    (strip data.ownerId) (submittedKeys state data) now now

inductive ClaimPhase (settings : Settings) (state : State) (data : JobCreate) (now : Nat) : Except ClusterError JobClaims × Registry → Prop
  | refused (error : ClusterError) : ClaimPhase settings state data now (.error error,state.claims)
  | acquired (records : List Claim) (registry : Registry)
      (kept : ∀ row, Survives now row state.claims.rows → Survives now row registry.rows) :
      ClaimPhase settings state data now (.ok ⟨records,false⟩,registry)
  | transferred (records : List Claim) (moved : 0 < (convert settings state data now).1) :
      ClaimPhase settings state data now (.ok ⟨records,true⟩,
        (activeClaims (convert settings state data now).2 now (submittedKeys state data)).2)

theorem ClaimPhase.own (settings : Settings) (state : State) (data : JobCreate) (now : Nat) :
    ClaimPhase settings state data now
      (let result := acquireJob settings state.claims (claimDevices state.db data.workerId data.devices) (strip data.ownerId)
        (strip data.ownerUsername) data.jobId now
      (result.1.map fun records => ⟨records,false⟩,result.2)) := by
  unfold acquireJob
  dsimp only
  generalize claimDevices state.db data.workerId data.devices = devices
  generalize ClaimRequest.mk (strip data.ownerId) (orElse (strip data.ownerUsername) (strip data.ownerId)) "cluster-job" (jobSource data.jobId)
    settings.claimLeaseTtlSeconds true = request
  have refused := fun none : ¬ Grants (acquire state.claims devices request now now) => acquire_refused none
  cases outcome : (acquire state.claims devices request now now).1 with
  | error error =>
    dsimp only
    rw [refused fun ⟨records,granted⟩ => by rw [outcome] at granted; cases granted]
    exact .refused _
  | ok acquisition =>
    dsimp only
    split
    · exact .acquired _ _ fun row there => there.acquire devices request
    · rename_i denied
      rw [refused fun ⟨records,granted⟩ => by rw [outcome] at granted; cases granted; exact denied rfl]
      exact .refused _

theorem claimPhase (settings : Settings) (state : State) (data : JobCreate) (now : Nat) :
    ClaimPhase settings state data now (claimJobDevices settings state data now) := by
  unfold claimJobDevices
  dsimp only
  split
  · exact .refused _
  split
  · exact .refused _
  split
  · exact .refused _
  split
  · exact .own settings state data now
  split
  · exact .refused _
  split
  · rename_i some
    exact .transferred _ some
  · rename_i none
    rw [transfer_none none]
    exact .own settings state data now

theorem createJobMetadata_error {records : List Claim} {error : ClusterError}
    (failed : (createJobMetadata settings state data records now).1 = .error error) :
    (createJobMetadata settings state data records now).2 = ⟨state.db,(expireDeviceReservations state now).claims⟩ := by
  unfold createJobMetadata at failed ⊢
  dsimp only at failed ⊢
  split
  · rfl
  · rename_i done
    rw [done] at failed
    cases failed

/-- Nothing remains of the submission, and every live claim is the claim it was but for those of reservations that end. -/
structure Undone (state next : State) (data : JobCreate) (now : Nat) : Prop where
  db : next.db = state.db
  free : ¬ Claimed next.claims.rows (jobSource data.jobId)
  kept : ∀ row ∈ state.claims.rows, row.status = .active → now < row.expiresAt →
    (∀ id, row.sourceId = reservationSource id → ¬ Ending state.db.reservations now id) → Survives now row next.claims.rows

theorem undone_acquired {claims : Registry} (fresh : ∀ row ∈ state.claims.rows, row.sourceId ≠ jobSource data.jobId)
    (kept : ∀ row, Survives now row state.claims.rows → Survives now row claims.rows) :
    Undone state ⟨state.db,returnClaims ⟨state.db,(expireDeviceReservations ⟨state.db,claims⟩ now).claims⟩ data false now⟩ data now := by
  refine ⟨rfl,not_claimed_release _ _ (by decide) now,?_⟩
  intro row member active live apart
  have there := kept row (Survives.start member active live)
  have swept : Survives now row (expireDeviceReservations ⟨state.db,claims⟩ now).claims.rows := survives_expireDeviceReservations there apart
  exact swept.release (fresh row member) .failed []

theorem undone_transferred (labelled : Labelled state.claims.rows) (fresh : ∀ row ∈ state.claims.rows, row.sourceId ≠ jobSource data.jobId)
    (moved : 0 < (convert settings state data now).1) :
    let claims := (activeClaims (convert settings state data now).2 now (submittedKeys state data)).2
    Undone state ⟨state.db,returnClaims ⟨state.db,(expireDeviceReservations ⟨state.db,claims⟩ now).claims⟩ data true now⟩ data now := by
  intro claims
  have different := jobSource_ne data.jobId data.deviceReservationId
  have swept : ∀ row, Survives now row (convert settings state data now).2.rows →
      (∀ id, row.sourceId = reservationSource id → ¬ Ending state.db.reservations now id) →
      Survives now row (expireDeviceReservations ⟨state.db,claims⟩ now).claims.rows := fun row there apart =>
    survives_expireDeviceReservations (survives_activeClaims there) apart
  have job : ∀ row : Claim, row.sourceId = jobSource data.jobId →
      ∀ id, row.sourceId = reservationSource id → ¬ Ending state.db.reservations now id :=
    fun row own id named => absurd (own.symm.trans named) (jobSource_ne _ _)
  have returned := transfer_back fresh moved (fun row own there => swept row there (job row own))
    (fun row member active => mem_of_activeClaims (mem_of_expireDeviceReservations member active) active) "cluster-reservation" (6*60*60)
  unfold returnClaims
  rw [if_pos rfl]
  unfold submittedKeys at returned
  dsimp only
  rw [if_neg (Nat.ne_of_gt returned)]
  refine ⟨rfl,not_claimed_transfer different.symm returned,?_⟩
  intro row member active live apart
  have there := Survives.start member active live
  by_cases own : row.sourceId = reservationSource data.deviceReservationId
  · have type := labelled row member (own ▸ ofReservation_reservationSource _)
    have back := (swept _ (there.transferred own moved) (job _ rfl)).transferred rfl returned
    have same : (row.under (jobSource data.jobId) "cluster-job").under (reservationSource data.deviceReservationId) "cluster-reservation" = row := by
      rw [← own,← type]
      rfl
    exact same ▸ back
  · exact (swept row (there.transfer_other own) apart).transfer_other (fresh row member)

/-- A submission that fails changes no row of the cluster database, leaves nothing under its job and every live claim as it was. -/
theorem failed_submission_undone {error : ClusterError} (reached : Runs.Reached DeviceClaims.apply Labels .empty state.claims)
    (fresh : ∀ row ∈ state.claims.rows, row.sourceId ≠ jobSource data.jobId)
    (failed : (createJobWithLeases settings state data now).1 = .error error) :
    Undone state (createJobWithLeases settings state data now).2 data now := by
  have phase := claimPhase settings state data now
  unfold createJobWithLeases at failed ⊢
  generalize claimJobDevices settings state data now = outcome at phase failed ⊢
  cases phase with
  | refused error =>
    refine ⟨rfl,?_,fun row member active live _ => Survives.start member active live⟩
    rintro ⟨row,member,own,-⟩
    exact fresh row member own
  | acquired records registry kept =>
    dsimp only at failed ⊢
    split at failed
    · rename_i left inner
      have same : left = _ := (congrArg Prod.snd inner).symm.trans (createJobMetadata_error (congrArg Prod.fst inner))
      rw [same]
      exact undone_acquired fresh kept
    · cases failed
  | transferred records moved =>
    dsimp only at failed ⊢
    split at failed
    · rename_i left inner
      have same : left = _ := (congrArg Prod.snd inner).symm.trans (createJobMetadata_error (congrArg Prod.fst inner))
      rw [same]
      exact undone_transferred (reached_labelled reached) fresh moved
    · cases failed

end

def fullWorker : Db :=
  {workers := [⟨"w1",.online,1,1,0,0,0,"",0,none,none,1000,1000⟩]
   devices := [⟨"w1:s1","w1","s1","usb","reserved",{},1000⟩,⟨"w1:s2","w1","s2","usb","available",{},1000⟩]
   reservations := [⟨"reservation-item-1","reservation-1","w1:s1","w1","s1","u","run-1",.active,1000,1000,4600,none⟩]}

def fullClaims : List DeviceClaims.Op :=
  [.acquire [⟨"w1:s1","w1","s1",1⟩] ⟨"u","u","cluster-reservation",reservationSource "reservation-1",3600,true⟩ 1000 1000,
    .acquire [⟨"w1:s3","w1","s3",1⟩] ⟨"v","v","cluster-job",jobSource "job-0",600,true⟩ 1000 1000]

def reservedSubmission : JobCreate :=
  {workerId := "w1", devices := ["s1"], ownerId := "u", deviceReservationId := "reservation-1", jobUuid := "1", attemptUuid := "1"}

theorem fullClaims_reached : Runs.Reached DeviceClaims.apply Labels .empty (Runs.exec DeviceClaims.apply .empty fullClaims) :=
  Runs.Reached.along .start fullClaims (by decide +kernel)

theorem failed_submission_undone_reserved :
    let state : State := ⟨fullWorker,Runs.exec DeviceClaims.apply .empty fullClaims⟩
    0 < (convert {} state reservedSubmission 1010).1 ∧
      Undone state (createJobWithLeases {} state reservedSubmission 1010).2 reservedSubmission 1010 := by
  intro state
  refine ⟨by decide +kernel,?_⟩
  have failed : (createJobWithLeases {} state reservedSubmission 1010).1 = .error (.value "worker is not admissible (max_jobs)") := by
    decide +kernel
  exact failed_submission_undone fullClaims_reached (by decide +kernel) failed

/-- The claim of another job has run out; the submission that fails marks it expired. -/
theorem lapsed_claim_expired : ¬ ∀ (settings : Settings) (state : State) (data : JobCreate) (now : Nat) (error : ClusterError),
    Runs.Reached DeviceClaims.apply Labels .empty state.claims → (∀ row ∈ state.claims.rows, row.sourceId ≠ jobSource data.jobId) →
    (createJobWithLeases settings state data now).1 = .error error →
    ∀ row ∈ state.claims.rows, row.status = .active →
      (∀ id, row.sourceId = reservationSource id → ∀ item ∈ state.db.reservations, item.reservationId = id → now < item.expiresAt) →
      ∃ kept ∈ (createJobWithLeases settings state data now).2.claims.rows, kept.id = row.id ∧ kept.status = .active := by
  intro always
  have kept := always {} ⟨fullWorker,Runs.exec DeviceClaims.apply .empty fullClaims⟩ reservedSubmission 2000
    (.value "worker is not admissible (max_jobs)") fullClaims_reached (by decide +kernel) (by decide +kernel)
  have lost : ∃ row ∈ (Runs.exec DeviceClaims.apply .empty fullClaims).rows, row.status = .active ∧ row.sourceId = jobSource "job-0" ∧
      ¬ ∃ kept ∈ (createJobWithLeases {} ⟨fullWorker,Runs.exec DeviceClaims.apply .empty fullClaims⟩ reservedSubmission 2000).2.claims.rows,
        kept.id = row.id ∧ kept.status = .active := by
    decide +kernel
  obtain ⟨row,member,active,own,gone⟩ := lost
  exact gone (kept row member active fun id named => absurd (own.symm.trans named) (jobSource_ne "job-0" id))

end GmsRemoteTest.Cluster
