import GmsRemoteTest.Cluster.Controller
import GmsRemoteTest.Foundation.DeviceLocks

/-! The Controller reaches the claim database through the registry alone: whatever one of its
operations does there is a history of registry operations, so what holds of every history of the
registry holds of the claims of every run. -/
namespace GmsRemoteTest.Cluster
open DeviceClaims Text

def Ran (before after : Registry) : Prop := ∃ ops, after = run before ops

namespace Ran

theorem refl (registry : Registry) : Ran registry registry := ⟨[],rfl⟩

theorem trans {first second third : Registry} (left : Ran first second) (right : Ran second third) : Ran first third := by
  obtain ⟨early,rfl⟩ := left
  obtain ⟨late,rfl⟩ := right
  exact ⟨early++late,(Runs.exec_append _ _ _ _).symm⟩

theorem op (op : DeviceClaims.Op) (registry : Registry) : Ran registry (DeviceClaims.apply op registry) := ⟨[op],rfl⟩

theorem acquire (registry : Registry) (devices : List DeviceRequest) (request : ClaimRequest) (now later : Nat) :
    Ran registry (acquire registry devices request now later).2 := op (.acquire devices request now later) registry

theorem release (registry : Registry) (sourceId : String) (status : ClaimStatus) (keys : List String) (now : Nat) :
    Ran registry (release registry sourceId status keys now).2 := op (.release sourceId status keys now) registry

theorem transfer (registry : Registry) (old new sourceType : String) (ttl : Int) (ownerId : String) (keys : List String) (now later : Nat) :
    Ran registry (transfer registry old new sourceType ttl ownerId keys now later).2 :=
  op (.transfer old new sourceType ttl ownerId keys now later) registry

theorem valid {before after : Registry} (ran : Ran before after) (valid : before.Valid) : after.Valid := by
  obtain ⟨ops,rfl⟩ := ran
  exact (run_advances before valid.numbered ops).valid valid

end Ran

section
variable (settings : Settings) (state : State)

theorem releaseReservations_ran (status : ClaimStatus) (now : Nat) (registry : Registry) (ids : List String) :
    Ran registry (releaseReservations status now registry ids) := by
  unfold releaseReservations
  induction ids generalizing registry with
  | nil => exact .refl registry
  | cons id ids ih => exact (Ran.release _ _ _ _ _).trans (ih _)

theorem expireDeviceReservations_ran (now : Nat) : Ran state.claims (expireDeviceReservations state now).claims := by
  unfold expireDeviceReservations
  dsimp only
  split
  · exact .refl _
  · exact releaseReservations_ran _ _ _ _

theorem activeClaims_ran (registry : Registry) (now : Nat) (keys : List String) : Ran registry (activeClaims registry now keys).2 := by
  induction keys generalizing registry with
  | nil => exact .refl registry
  | cons key keys ih => exact (Ran.op (.activeClaim key now) registry).trans (ih _)

theorem renewJobDeviceClaim_ran (devices : List Device) (registry : Registry) (jobId ownerId : String) (deviceIds : List String) (now : Nat) :
    Ran registry (renewJobDeviceClaim settings devices registry jobId ownerId deviceIds now).2 := by
  unfold renewJobDeviceClaim
  dsimp only
  split
  · exact .refl registry
  have read := activeClaims_ran registry now (fullKeys devices (fromkeys (deviceIds.filter (· ≠ ""))))
  split
  · exact read
  split
  · exact read
  · exact read.trans (.op (.renew (jobSource jobId) settings.claimLeaseTtlSeconds [] now now) _)

theorem beatJob_ran (committed : List Device) (workerId : String) (now : Nat) (running : RunningJob) :
    Ran state.claims (beatJob settings committed workerId now state running).2.claims := by
  unfold beatJob
  split
  · exact .refl _
  split
  · exact .refl _
  rename_i job found
  have renewed := renewJobDeviceClaim_ran settings committed state.claims job.id job.ownerId
    (liveDevices state.db.leases running.attemptId) now
  dsimp only
  split
  · split
    · exact renewed
    · exact renewed
  · exact renewed.trans (.release _ _ _ _ _)

theorem heartbeat_ran (workerId : String) (data : Heartbeat) (now : Nat) :
    Ran state.claims (heartbeat settings state workerId data now).2.claims := by
  have ready : Ran state.claims (beforeBeats state workerId data now).claims := expireDeviceReservations_ran _ now
  have beaten := Runs.loop_invariant (fun current : State => Ran state.claims current.claims)
    (fun current running ran _ => ran.trans (beatJob_ran settings current state.db.devices workerId now running)) data.runningJobs ready
    (Runs.Meets.all (fun _ _ => trivial) _ _)
  unfold heartbeat
  split
  · exact .refl _
  split
  · exact .refl _
  dsimp only
  split
  · exact ready
  split
  · rename_i stopped found
    rw [found] at beaten
    exact beaten
  · rename_i done found
    rw [found] at beaten
    exact beaten

theorem acquireJob_ran (registry : Registry) (devices : List DeviceRequest) (ownerId username jobId : String) (now : Nat) :
    Ran registry (acquireJob settings registry devices ownerId username jobId now).2 := by
  unfold acquireJob
  dsimp only
  split
  · exact .acquire _ _ _ _ _
  split
  · exact .acquire _ _ _ _ _
  · exact .acquire _ _ _ _ _

theorem claimJobDevices_ran (data : JobCreate) (now : Nat) : Ran state.claims (claimJobDevices settings state data now).2 := by
  unfold claimJobDevices
  dsimp only
  split
  · exact .refl _
  split
  · exact .refl _
  split
  · exact .refl _
  split
  · exact acquireJob_ran _ _ _ _ _ _ _
  split
  · exact .refl _
  split
  · exact (Ran.transfer _ _ _ _ _ _ _ _ _).trans (activeClaims_ran _ _ _)
  · exact (Ran.transfer _ _ _ _ _ _ _ _ _).trans (acquireJob_ran _ _ _ _ _ _ _)

theorem returnClaims_ran (data : JobCreate) (transferred : Bool) (now : Nat) :
    Ran state.claims (returnClaims state data transferred now) := by
  unfold returnClaims
  split
  · dsimp only
    split
    · exact (Ran.transfer _ _ _ _ _ _ _ _ _).trans (.release _ _ _ _ _)
    · exact .transfer _ _ _ _ _ _ _ _ _
  · exact .release _ _ _ _ _

theorem createJobWithLeases_ran (data : JobCreate) (now : Nat) : Ran state.claims (createJobWithLeases settings state data now).2.claims := by
  have claimed := claimJobDevices_ran settings state data now
  unfold createJobWithLeases
  split
  · rename_i registry same
    rw [same] at claimed
    exact claimed
  · rename_i registry same
    rw [same] at claimed
    have swept := claimed.trans (expireDeviceReservations_ran ⟨state.db,registry⟩ now)
    unfold createJobMetadata
    dsimp only
    split
    · rename_i failed inner
      split at inner
      · cases inner
        exact swept.trans (returnClaims_ran _ data _ now)
      · cases inner
    · rename_i created inner
      split at inner
      · cases inner
      · cases inner
        exact swept

theorem syncJobFromCommand_ran (command : Command) (now : Nat) : Ran state.claims (syncJobFromCommand state command now).claims := by
  unfold syncJobFromCommand
  split
  · exact .refl _
  split
  · exact .refl _
  split
  · exact .refl _
  split
  · exact .refl _
  split
  · exact .refl _
  dsimp only
  split
  · exact .release _ _ _ _ _
  · exact .refl _

theorem compensateFailedDispatch_ran (jobId reason attemptId : String) (now : Nat) :
    Ran state.claims (compensateFailedDispatch state jobId reason attemptId now).2.claims := by
  unfold compensateFailedDispatch
  split
  · exact .refl _
  split
  · exact .refl _
  split
  · exact .refl _
  split
  · exact .refl _
  · exact .release _ _ _ _ _

theorem abandonJob_ran (jobId : String) (now : Nat) : Ran state.claims (abandonJob state jobId now).2.claims := by
  unfold abandonJob
  split
  · exact .release _ _ _ _ _
  · exact .refl _

theorem failAbandoned_ran (minAgeSeconds : Int) (now : Nat) :
    Ran state.claims (failAbandonedWorkerLostJobs state minAgeSeconds now).2.claims := by
  have turns : ∀ (jobIds : List String) (current : State), Ran current.claims (abandonLoop now current jobIds).2.claims := by
    intro jobIds
    induction jobIds with
    | nil => exact fun current => .refl _
    | cons jobId jobIds ih => exact fun current => (abandonJob_ran current jobId now).trans (ih _)
  unfold failAbandonedWorkerLostJobs
  split
  · exact .refl _
  · exact turns _ state

theorem reconcileReservation_ran (committed : Db) (now : Nat) (pass : Pass) (row : ReservationKey) :
    Ran pass.claims (reconcileReservation committed now pass row).2.claims := by
  have read : Ran pass.claims (sourceClaims pass (reservationSource row.reservationId) now).2.claims :=
    .op (.listBySource (reservationSource row.reservationId) now) _
  unfold reconcileReservation
  dsimp only
  split
  · split
    · exact read.trans (.acquire _ _ _ _ _)
    · exact read.trans (.acquire _ _ _ _ _)
  split
  · exact read.trans (.release _ _ _ _ _)
  · exact read

theorem reconcileFinished_ran (now : Nat) (pass : Pass) (jobId : String) : Ran pass.claims (reconcileFinished now pass jobId).claims := by
  have read : Ran pass.claims (sourceClaims pass (jobSource jobId) now).2.claims := .op (.listBySource (jobSource jobId) now) _
  unfold reconcileFinished
  dsimp only
  split
  · exact read
  · exact read.trans (.release _ _ _ _ _)

theorem reconcileActive_ran (committed : Db) (now : Nat) (pass : Pass) (job : Job) :
    Ran pass.claims (reconcileActive settings committed now pass job).2.claims := by
  have read : Ran pass.claims (sourceClaims pass (jobSource job.id) now).2.claims := .op (.listBySource (jobSource job.id) now) _
  have fenced : Ran pass.claims (refence settings committed (sourceClaims pass (jobSource job.id) now).2 job now).2 :=
    read.trans (.acquire _ _ _ _ _)
  unfold reconcileActive
  dsimp only
  split
  · exact read
  split
  · exact fenced
  split
  · exact fenced
  · exact fenced

theorem reconcileClaims_ran (now : Nat) : Ran state.claims (reconcileClaims settings state now).2.claims := by
  have reserved : Ran state.claims (reservationPhase state now).2.claims :=
    Runs.loop_invariant (fun pass : Pass => Ran state.claims pass.claims)
      (fun pass row ran _ => ran.trans (reconcileReservation_ran state.db now pass row)) _ (expireDeviceReservations_ran state now)
      (Runs.Meets.all (fun _ _ => trivial) _ _)
  have finished : ∀ pass : Pass, Ran state.claims pass.claims → Ran state.claims (terminalPhase now pass).claims := fun pass ran =>
    Runs.foldl_invariant (fun pass : Pass => Ran state.claims pass.claims)
      (fun pass jobId ran _ => ran.trans (reconcileFinished_ran now pass jobId)) _ ran (Runs.Along.all (fun _ _ => trivial) _ _)
  have active : ∀ pass : Pass, Ran state.claims pass.claims → Ran state.claims (activePhase settings state.db now pass).2.claims :=
    fun pass ran => Runs.loop_invariant (fun pass : Pass => Ran state.claims pass.claims)
      (fun pass job ran _ => ran.trans (reconcileActive_ran settings state.db now pass job)) _ ran (Runs.Meets.all (fun _ _ => trivial) _ _)
  unfold reconcileClaims
  split
  · rename_i same
    rw [same] at reserved
    exact reserved
  rename_i pass same
  rw [same] at reserved
  have done := active _ (finished _ reserved)
  split
  · rename_i ended
    rw [ended] at done
    exact done
  · rename_i ended
    rw [ended] at done
    exact done

theorem acquireReservation_ran (registry : Registry) (devices : List DeviceRequest) (ownerId username reservationId : String) (ttl : Int)
    (now : Nat) : Ran registry (acquireReservation registry devices ownerId username reservationId ttl now).2 := by
  unfold acquireReservation
  dsimp only
  split
  · exact .acquire _ _ _ _ _
  split
  · exact .acquire _ _ _ _ _
  · exact .acquire _ _ _ _ _

theorem reserveDevices_ran (request : ReservationRequest) (now : Nat) : Ran state.claims (reserveDevices state request now).2.claims := by
  have swept := expireDeviceReservations_ran state now
  have acquired : ∀ devices reservationId, Ran state.claims (acquireReservation (expireDeviceReservations state now).claims devices
      request.ownerId request.username reservationId request.ttlSeconds now).2 :=
    fun devices reservationId => swept.trans (acquireReservation_ran _ _ _ _ _ _ _)
  unfold reserveDevices
  dsimp only
  split
  · exact .refl _
  split
  · split
    · split
      · exact acquired _ _
      · exact acquired _ _
    · exact swept
  · split
    · exact swept
    split
    · exact acquired _ _
    split
    · exact (acquired _ _).trans (.release _ _ _ _ _)
    · exact acquired _ _

theorem renewReservation_ran (reservationId : String) (ttlSeconds : Int) (now : Nat) :
    Ran state.claims (renewReservation state reservationId ttlSeconds now).2.claims := by
  have swept := expireDeviceReservations_ran state now
  unfold renewReservation
  dsimp only
  split
  · exact swept
  split
  · exact swept.trans (.acquire _ _ _ _ _)
  split
  · exact swept.trans (.acquire _ _ _ _ _)
  · exact swept.trans (.acquire _ _ _ _ _)

theorem releaseReservation_ran (reservationId : String) (status : ReservationStatus) (now : Nat) :
    Ran state.claims (releaseReservation state reservationId status now).2.claims := by
  unfold releaseReservation
  dsimp only
  split
  · exact .refl _
  split
  · exact .refl _
  · exact .release _ _ _ _ _

theorem acquireDeviceOperationClaim_ran (workerId : String) (devices : List String) (ownerId sourceType sourceId : String) (ttl : Int)
    (username : String) (now : Nat) :
    Ran state.claims (acquireDeviceOperationClaim state workerId devices ownerId sourceType sourceId ttl username now).2.claims := by
  unfold acquireDeviceOperationClaim
  dsimp only
  split
  · exact .acquire _ _ _ _ _
  split
  · exact .acquire _ _ _ _ _
  · exact .acquire _ _ _ _ _

theorem apply_ran (op : Op) : Ran state.claims (apply settings op state).claims := by
  cases op with
  | heartbeat workerId data now => exact heartbeat_ran settings state workerId data now
  | createJobWithLeases data now => exact createJobWithLeases_ran settings state data now
  | syncJobFromCommand command now => exact syncJobFromCommand_ran state command now
  | compensateFailedDispatch jobId reason attemptId now => exact compensateFailedDispatch_ran state jobId reason attemptId now
  | failAbandonedWorkerLostJobs minAge now => exact failAbandoned_ran state minAge now
  | reconcileClaims now => exact reconcileClaims_ran settings state now
  | reserveDevices request now => exact reserveDevices_ran state request now
  | renewReservation reservationId ttl now => exact renewReservation_ran state reservationId ttl now
  | releaseReservation reservationId status now => exact releaseReservation_ran state reservationId status now
  | acquireDeviceOperationClaim workerId devices ownerId sourceType sourceId ttl username now =>
    exact acquireDeviceOperationClaim_ran state workerId devices ownerId sourceType sourceId ttl username now
  | registry op => exact .op op _
  | createCommand data attachToJob now =>
    unfold apply createCommand
    dsimp only
    split
    · exact .refl _
    · exact .refl _
  | ackCommand workerId commandId data now =>
    unfold apply ackCommand
    dsimp only
    split
    · exact .refl _
    split
    · exact .refl _
    · exact .refl _
  | deleteJob jobId =>
    unfold apply deleteJob
    dsimp only
    split
    · exact .refl _
    split
    · exact .refl _
    · exact .refl _
  | registerWorker | markWorkerOffline | pollCommands | transitionJob => exact .refl _

end

theorem claims_valid {settings : Settings} {guard : State → Op → Prop} {state : State} (reached : Reached settings guard state) :
    state.claims.Valid :=
  reached.invariant (fun state => state.claims.Valid) empty_valid fun state op valid _ => (apply_ran settings state op).valid valid

/-- A step of the Controller, or a call of its lock manager. -/
def writeClaims (settings : Settings) (manager : DeviceLocks.Manager) : Op ⊕ DeviceLocks.Op → State → State
  | .inl op, state => apply settings op state
  | .inr op, state => {state with claims := DeviceLocks.apply manager op state.claims}

/-- In every interleaving of the Controller with its lock manager the claims are those of a history of the registry. -/
theorem writers_ran (settings : Settings) (manager : DeviceLocks.Manager) (ops : List (Op ⊕ DeviceLocks.Op)) :
    let state := Runs.exec (writeClaims settings manager) {} ops
    Ran .empty state.claims ∧ state.claims.Valid := by
  have ran : Ran .empty (Runs.exec (writeClaims settings manager) {} ops).claims := by
    refine @Runs.exec_invariant _ _ _ (fun state : State => Ran .empty state.claims) (fun state op ran => ?_) {} (.refl _) ops
    cases op with
    | inl op => exact ran.trans (apply_ran settings state op)
    | inr op => exact ran.trans (DeviceLocks.apply_run manager op state.claims)
  exact ⟨ran,ran.valid empty_valid⟩

end GmsRemoteTest.Cluster
