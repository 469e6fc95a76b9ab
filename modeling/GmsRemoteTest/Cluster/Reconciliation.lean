import GmsRemoteTest.Lib.Runs
import GmsRemoteTest.Cluster.Reservations

/-! Crash split-brain reconciliation between cluster state and physical claims.
The whole pass is one transaction of the cluster database; the claim database is
repaired source by source while it runs. -/
namespace GmsRemoteTest.Cluster
open DeviceClaims Text

structure Stats where
  reservationClaimsReacquired : Nat := 0
  reservationClaimsReleased : Nat := 0
  jobClaimsReleased : Nat := 0
  jobClaimsReacquired : Nat := 0
  unfenceableJobsFailed : Nat := 0
deriving DecidableEq, Repr

/-- A row of `SELECT DISTINCT reservation_id, worker_id, owner_id, status`. -/
structure ReservationKey where
  reservationId : String
  workerId : String
  ownerId : String
  status : ReservationStatus
deriving DecidableEq, Repr

def reservationKeys : List Reservation → List ReservationKey
  | [] => []
  | item :: items =>
    let row : ReservationKey := ⟨item.reservationId,item.workerId,item.ownerId,item.status⟩
    row :: (reservationKeys items).filter (· ≠ row)

structure Pass where
  db : Db
  claims : Registry
  stats : Stats := {}
deriving DecidableEq, Repr

def sourceClaims (pass : Pass) (sourceId : String) (now : Nat) : List Claim × Pass :=
  let result := listBySource pass.claims sourceId now
  (result.1,{pass with claims := result.2})

def releaseReconciled (pass : Pass) (sourceId : String) (now : Nat) : Pass :=
  {pass with claims := (release pass.claims sourceId .reconciled [] now).2}

def reconcileReservation (committed : Db) (now : Nat) (pass : Pass) (row : ReservationKey) :
    Except ClusterError Unit × Pass :=
  let sourceId := reservationSource row.reservationId
  let read := sourceClaims pass sourceId now
  if row.status = .active ∧ read.1 = [] then
    let deviceIds := (Table.select (fun item => item.reservationId = row.reservationId) read.2.db.reservations).map
      (·.deviceId)
    let result := acquire read.2.claims (claimDevices committed row.workerId deviceIds)
      ⟨row.ownerId,row.ownerId,"cluster-reservation",sourceId,6*60*60,true⟩ now now
    match result.1 with
    | .error error => (.error (.claim error),{read.2 with claims := result.2})
    | .ok acquisition =>
      let stats := if acquisition.acquired then
        {read.2.stats with reservationClaimsReacquired := read.2.stats.reservationClaimsReacquired+1} else read.2.stats
      (.ok (),⟨read.2.db,result.2,stats⟩)
  else if row.status ≠ .active ∧ read.1 ≠ [] then
    let freed := releaseReconciled read.2 sourceId now
    (.ok (),{freed with stats := {freed.stats with
      reservationClaimsReleased := freed.stats.reservationClaimsReleased+1}})
  else (.ok (),read.2)

def reconcileFinished (now : Nat) (pass : Pass) (jobId : String) : Pass :=
  let read := sourceClaims pass (jobSource jobId) now
  if read.1 = [] then read.2
  else
    let freed := releaseReconciled read.2 (jobSource jobId) now
    {freed with stats := {freed.stats with jobClaimsReleased := freed.stats.jobClaimsReleased+1}}

def unfencedError : String := "device fencing lost during a crash and could not be reacquired (reconciliation)"

def unfenced (now : Nat) (job : Job) : Job :=
  {job with status := .failed, error := unfencedError, finishedAt := some now, updatedAt := now}

def leasedDevices (leases : List Lease) (jobId : String) : List String :=
  fromkeys ((Table.select (fun lease => lease.jobId = jobId ∧ lease.status = .active) leases).map (·.deviceId))

def refence (settings : Settings) (committed : Db) (pass : Pass) (job : Job) (now : Nat) :
    Except ClaimError Acquisition × Registry :=
  let deviceIds := leasedDevices pass.db.leases job.id
  let workerId := (partition (deviceIds.head?.getD "")).1
  acquire pass.claims (claimDevices committed workerId deviceIds)
    ⟨job.ownerId,job.ownerId,"cluster-job",jobSource job.id,settings.claimLeaseTtlSeconds,true⟩ now now

def reconcileActive (settings : Settings) (committed : Db) (now : Nat) (pass : Pass) (job : Job) :
    Except ClusterError Unit × Pass :=
  let read := sourceClaims pass (jobSource job.id) now
  if read.1 ≠ [] ∨ leasedDevices read.2.db.leases job.id = [] then (.ok (),read.2)
  else
    let result := refence settings committed read.2 job now
    match result.1 with
    | .error error => (.error (.claim error),{read.2 with claims := result.2})
    | .ok acquisition =>
      if acquisition.acquired then
        (.ok (),⟨read.2.db,result.2,{read.2.stats with jobClaimsReacquired := read.2.stats.jobClaimsReacquired+1}⟩)
      else
        let jobs := Table.update (fun row => row.id = job.id ∧ row.status.occupied = true) (unfenced now) read.2.db.jobs
        let stats := {read.2.stats with unfenceableJobsFailed := read.2.stats.unfenceableJobsFailed+1}
        (.ok (),⟨{read.2.db with jobs := jobs},result.2,stats⟩)

def startPass (state : State) (now : Nat) : Pass :=
  let expired := expireDeviceReservations state now
  ⟨expired.db,expired.claims,{}⟩

def reservationPhase (state : State) (now : Nat) : Except ClusterError (List Unit) × Pass :=
  let start := startPass state now
  Runs.loop (reconcileReservation state.db now) start (reservationKeys start.db.reservations)

def terminalPhase (now : Nat) (pass : Pass) : Pass :=
  ((Table.select (fun job => job.status.terminal = true) pass.db.jobs).map (·.id)).foldl (reconcileFinished now) pass

def activePhase (settings : Settings) (committed : Db) (now : Nat) (pass : Pass) :
    Except ClusterError (List Unit) × Pass :=
  Runs.loop (reconcileActive settings committed now) pass
    (Table.select (fun job => job.status.occupied = true) pass.db.jobs)

def reconcileClaims (settings : Settings) (state : State) (now : Nat) : Except ClusterError Stats × State :=
  match reservationPhase state now with
  | (.error error,stopped) => (.error error,⟨state.db,stopped.claims⟩)
  | (.ok _,reserved) =>
    match activePhase settings state.db now (terminalPhase now reserved) with
    | (.error error,stopped) => (.error error,⟨state.db,stopped.claims⟩)
    | (.ok _,done) => (.ok done.stats,⟨done.db,done.claims⟩)

end GmsRemoteTest.Cluster
