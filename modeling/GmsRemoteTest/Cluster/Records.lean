import GmsRemoteTest.Cluster.Controller

/-! Receipts and reservations along a run. Job operations do not touch these tables: a
receipt is written with its job and stays, and the rows of one reservation are written
by its id, so that they always agree. -/
namespace GmsRemoteTest.Cluster
open DeviceClaims Text

structure Records where
  receipts : List Receipt
  reservations : List Reservation

def Db.records (db : Db) : Records := ⟨db.receipts,db.reservations⟩

theorem transitionJobConn_records (db : Db) (jobId : String) (toStatus : JobStatus) (note : TransitionNote) (now : Nat) :
    (transitionJobConn db jobId toStatus note now).2.records = db.records := by
  unfold transitionJobConn casTransition
  split
  · rfl
  · rfl
  · dsimp only
    split <;> rfl

theorem abandonJob_records (state : State) (jobId : String) (now : Nat) :
    (abandonJob state jobId now).2.db.records = state.db.records := by
  have moved := transitionJobConn_records state.db jobId .failed abandonNote now
  unfold abandonJob
  split <;> rename_i found <;> rw [found] at moved <;> exact moved

theorem failAbandoned_records (state : State) (minAgeSeconds : Int) (now : Nat) :
    (failAbandonedWorkerLostJobs state minAgeSeconds now).2.db.records = state.db.records := by
  have loop : ∀ (jobIds : List String) (current : State),
      (abandonLoop now current jobIds).2.db.records = current.db.records := by
    intro jobIds
    induction jobIds with
    | nil => exact fun _ => rfl
    | cons jobId jobIds ih => exact fun current => (ih _).trans (abandonJob_records current jobId now)
  unfold failAbandonedWorkerLostJobs
  split
  · rfl
  · exact loop _ state

theorem markWorkerOffline_records (state : State) (workerId : String) (now : Nat) :
    (markWorkerOffline state workerId now).db.records = state.db.records := by
  have turn : ∀ (db : Db) (jobId : String), (loseJob workerId now db jobId).records = db.records := by
    intro db jobId
    have moved := transitionJobConn_records db jobId .workerLost (offlineNote workerId) now
    unfold loseJob
    split <;> rename_i found <;> rw [found] at moved <;> exact moved
  have loop : ∀ (jobIds : List String) (db : Db), (jobIds.foldl (loseJob workerId now) db).records = db.records := by
    intro jobIds
    induction jobIds with
    | nil => exact fun _ => rfl
    | cons jobId jobIds ih => exact fun db => (ih _).trans (turn db jobId)
  exact loop _ {state.db with workers := _, devices := _}

theorem attachCommandToJobConn_records {db after : Db} {jobId : String} {command : Command} {newlyCreated : Bool} {now : Nat}
    (done : attachCommandToJobConn db jobId command newlyCreated now = .ok after) : after.records = db.records := by
  unfold attachCommandToJobConn at done
  split at done
  · cases done
  · rename_i job _
    split at done
    · cases done
    split at done
    · split at done
      · cases done
      · cases done
        rfl
    · have moved := transitionJobConn_records db job.id .dispatching (attachNote command) now
      unfold dispatchAttached at done
      split at done <;> rename_i found <;> rw [found] at moved <;> cases done
      exact moved

theorem insertCommand_records {db after : Db} {command : Command} (done : insertCommand db command = .ok after) :
    after.records = db.records := by
  unfold insertCommand at done
  split at done
  · cases done
  split at done
  · cases done
  split at done
  · cases done
  · cases done
    rfl

theorem createCommand_records (state : State) (data : CommandCreate) (attachToJob : Bool) (now : Nat) :
    (createCommand state data attachToJob now).2.db.records = state.db.records := by
  have tx : ∀ result : Command × Db, createCommandTx state.db data attachToJob now = .ok result →
      result.2.records = state.db.records := by
    intro result done
    have attaches : ∀ {db : Db} {command : Command} {newlyCreated : Bool},
        ((attachCommandToJobConn db data.jobId command newlyCreated now).map fun attached => (command,attached)) =
          .ok result → result.2.records = db.records := by
      intro db command newlyCreated mapped
      cases attached : attachCommandToJobConn db data.jobId command newlyCreated now with
      | error error =>
        rw [attached] at mapped
        cases mapped
      | ok after =>
        rw [attached] at mapped
        cases mapped
        exact attachCommandToJobConn_records attached
    unfold createCommandTx at done
    dsimp only at done
    split at done
    · unfold reuseCommand at done
      dsimp only at done
      split at done
      · cases done
      split at done
      · exact attaches done
      · cases done
        rfl
    · split at done
      · cases done
      · unfold persistCommand at done
        dsimp only at done
        split at done
        · cases done
        · rename_i inserted found
          have same := insertCommand_records found
          split at done
          · exact (attaches done).trans same
          · cases done
            exact same
  unfold createCommand
  split
  · rfl
  · rename_i command db found
    exact tx _ found

theorem ackCommand_records (state : State) (workerId commandId : String) (data : CommandAck) (now : Nat) :
    (ackCommand state workerId commandId data now).2.db.records = state.db.records := by
  unfold ackCommand
  split
  · rfl
  · split <;> rfl

theorem syncJobFromCommand_records (state : State) (command : Command) (now : Nat) :
    (syncJobFromCommand state command now).db.records = state.db.records := by
  unfold syncJobFromCommand
  split
  · rfl
  · rename_i status _
    split
    · rfl
    split
    · rfl
    split
    · rfl
    · have moved := transitionJobConn_records state.db command.jobId status (ackNote command status) now
      split
      · rfl
      · rename_i found
        rw [found] at moved
        refine Eq.trans ?_ moved
        unfold syncAttempt
        dsimp only
        split <;> rfl

theorem compensateFailedDispatch_records (state : State) (jobId reason attemptId : String) (now : Nat) :
    (compensateFailedDispatch state jobId reason attemptId now).2.db.records = state.db.records := by
  unfold compensateFailedDispatch
  split
  · rfl
  · rename_i job _
    split
    · rfl
    split
    · rfl
    split
    · rfl
    · rename_i done
      have moved := transitionJobConn_records state.db job.id .failed
        (compensateNote ("dispatch command failed: " ++ reason)) now
      unfold compensated at done
      split at done <;> rename_i found <;> rw [found] at moved <;> cases done
      exact moved

theorem deleteJob_records (state : State) (jobId : String) : (deleteJob state jobId).2.db.records = state.db.records := by
  unfold deleteJob
  split
  · rfl
  · split <;> rfl

theorem beatJob_records (settings : Settings) (committed : List Device) (workerId : String) (now : Nat) (state : State)
    (running : RunningJob) : (beatJob settings committed workerId now state running).2.db.records = state.db.records := by
  unfold beatJob
  split
  · rfl
  split
  · rfl
  · rename_i job _
    dsimp only
    split
    · split
      · rfl
      · rename_i db done
        have moved := transitionJobConn_records
          {state.db with attempts := beatAttempts state.db.attempts workerId running now} job.id .running
          (resumeNote workerId) now
        unfold resumeAttempt at done
        dsimp only at done
        split at done <;> rename_i found <;> rw [found] at moved
        · cases done
          exact moved
        · split at done
          · cases done
          · cases done
            exact moved
    · exact transitionJobConn_records state.db job.id .failed (fencingNote workerId) now

theorem expire_receipts (state : State) (now : Nat) :
    (expireDeviceReservations state now).db.receipts = state.db.receipts := by
  unfold expireDeviceReservations
  dsimp only
  split <;> rfl

theorem expire_reservations (state : State) (now : Nat) : (expireDeviceReservations state now).db.reservations =
    Table.update (fun item => item.status = .active ∧ item.expiresAt ≤ now) (closedReservation .expired now)
      state.db.reservations := by
  unfold expireDeviceReservations
  dsimp only
  split
  · rename_i none
    exact (Table.update_eq_self (Table.select_eq_nil.mp none)).symm
  · rfl

structure Consistent (items : List Reservation) : Prop where
  alike : ∀ first ∈ items, ∀ second ∈ items, first.reservationId = second.reservationId →
    first.status = second.status ∧ first.expiresAt = second.expiresAt
  names : ∀ item ∈ items, Solid item.reservationId

theorem Consistent.update {items : List Reservation} (consistent : Consistent items) {selects : Reservation → Prop}
    [DecidablePred selects] {set : Reservation → Reservation} (id : ∀ item, (set item).reservationId = item.reservationId)
    (same : ∀ first second : Reservation, first.reservationId = second.reservationId → first.status = second.status →
      first.expiresAt = second.expiresAt →
      (selects first ↔ selects second) ∧ (set first).status = (set second).status ∧
      (set first).expiresAt = (set second).expiresAt) : Consistent (Table.update selects set items) := by
  have kept : ∀ item, (if selects item then set item else item).reservationId = item.reservationId := by
    intro item
    split
    · exact id item
    · rfl
  constructor
  · intro first left second right named
    obtain ⟨old,member,rfl⟩ := Table.mem_update.mp left
    obtain ⟨other,present,rfl⟩ := Table.mem_update.mp right
    rw [kept,kept] at named
    obtain ⟨status,expires⟩ := consistent.alike old member other present named
    obtain ⟨chosen,after⟩ := same old other named status expires
    by_cases picked : selects old
    · rw [if_pos picked,if_pos (chosen.mp picked)]
      exact after
    · rw [if_neg picked,if_neg (mt chosen.mpr picked)]
      exact ⟨status,expires⟩
  · intro item member
    obtain ⟨old,present,rfl⟩ := Table.mem_update.mp member
    rw [kept]
    exact consistent.names old present

theorem Consistent.expire {state : State} (consistent : Consistent state.db.reservations) (now : Nat) :
    Consistent (expireDeviceReservations state now).db.reservations := by
  rw [expire_reservations]
  refine consistent.update (fun _ => rfl) ?_
  intro first second _ status expires
  rw [status,expires]
  exact ⟨Iff.rfl,rfl,expires⟩

theorem Consistent.rewrite {items : List Reservation} (consistent : Consistent items) (reservationId : String)
    {set : Reservation → Reservation} (id : ∀ item, (set item).reservationId = item.reservationId)
    (same : ∀ first second : Reservation, first.status = second.status → first.expiresAt = second.expiresAt →
      (set first).status = (set second).status ∧ (set first).expiresAt = (set second).expiresAt) :
    Consistent (Table.update (fun item => item.reservationId = reservationId ∧ item.status = .active) set items) := by
  refine consistent.update id ?_
  intro first second named status expires
  rw [named,status]
  exact ⟨Iff.rfl,same first second status expires⟩

theorem Consistent.append {items news : List Reservation} (consistent : Consistent items) {reservationId : String}
    {expires : Nat} (solid : Solid reservationId) (fresh : ∀ item ∈ items, item.reservationId ≠ reservationId)
    (bound : ∀ item ∈ news, item.reservationId = reservationId ∧ item.status = .active ∧ item.expiresAt = expires) :
    Consistent (items++news) := by
  constructor
  · intro first left second right named
    rcases List.mem_append.mp left with old | new <;> rcases List.mem_append.mp right with other | added
    · exact consistent.alike first old second other named
    · rw [(bound second added).1] at named
      exact absurd named (fresh first old)
    · rw [(bound first new).1] at named
      exact absurd named.symm (fresh second other)
    · obtain ⟨_,status,expiry⟩ := bound first new
      obtain ⟨_,state,expired⟩ := bound second added
      exact ⟨status.trans state.symm,expiry.trans expired.symm⟩
  · intro item member
    rcases List.mem_append.mp member with old | new
    · exact consistent.names item old
    · rw [(bound item new).1]
      exact solid

section
variable {request : ReservationRequest} {reservationId : String} {now : Nat} {db next : Db}

theorem insertReserved_rows {device : Device} (done : insertReserved request reservationId now db device = .ok next) :
    ∃ item : Reservation, item.reservationId = reservationId ∧ item.status = .active ∧
      item.expiresAt = reservationExpiry now request.ttlSeconds ∧ next.records = ⟨db.receipts,db.reservations++[item]⟩ := by
  unfold insertReserved insertReservation at done
  dsimp only at done
  split at done
  · cases done
  split at done
  · cases done
  · cases done
    exact ⟨_,rfl,rfl,rfl,rfl⟩

theorem insertReservedLoop_rows {devices : List Device} (done : devices.foldlM (insertReserved request reservationId now) db = .ok next) :
    ∃ news : List Reservation, (∀ item ∈ news, item.reservationId = reservationId ∧ item.status = .active ∧
      item.expiresAt = reservationExpiry now request.ttlSeconds) ∧
      next.records = ⟨db.receipts,db.reservations++news⟩ := by
  refine Runs.foldlM_invariant (fun current : Db => ∃ news : List Reservation, (∀ item ∈ news,
    item.reservationId = reservationId ∧ item.status = .active ∧
    item.expiresAt = reservationExpiry now request.ttlSeconds) ∧
    current.records = ⟨db.receipts,db.reservations++news⟩) ?_ devices ⟨[],by simp,by simp [Db.records]⟩ done
  rintro current device after ⟨news,bound,same⟩ turn
  obtain ⟨item,named,active,expires,added⟩ := insertReserved_rows turn
  simp only [Db.records,Records.mk.injEq] at same
  refine ⟨news++[item],?_,?_⟩
  · intro one member
    rcases List.mem_append.mp member with old | new
    · exact bound one old
    · rw [List.mem_singleton.mp new]
      exact ⟨named,active,expires⟩
  · rw [added,same.1,same.2,List.append_assoc]

end

theorem leaseLoop_records {settings : Settings} {data : JobCreate} {claims : List Claim} {reservedDevices : List String}
    {now : Nat} {db after : Db} {rawIds : List String}
    (done : rawIds.foldlM (leaseDevice settings data claims reservedDevices now) db = .ok after) :
    after.records = db.records := by
  refine Runs.foldlM_invariant (fun current : Db => current.records = db.records) ?_ rawIds rfl done
  intro current rawId next same turn
  refine Eq.trans ?_ same
  unfold leaseDevice at turn
  dsimp only at turn
  split at turn
  · cases turn
  split at turn
  · cases turn
  split at turn
  · cases turn
  split at turn
  · cases turn
  split at turn
  · cases turn
  · cases turn
    rfl

def receiptOf (data : JobCreate) : Receipt := ⟨data.ownerId,data.idempotencyKey,data.requestHash,data.jobId⟩

structure Submitted (before : Records) (data : JobCreate) (now : Nat) (after : Records) : Prop where
  receipts : data.idempotencyKey = "" ∧ after.receipts = before.receipts ∨ data.idempotencyKey ≠ "" ∧
    (∀ receipt ∈ before.receipts, ¬ (receipt.ownerId = data.ownerId ∧ receipt.requestKey = data.idempotencyKey)) ∧
    after.receipts = before.receipts++[receiptOf data]
  reservations : after.reservations = before.reservations ∨ after.reservations =
    Table.update (fun item => item.reservationId = data.deviceReservationId ∧ item.status = .active)
      (closedReservation .converted now) before.reservations

theorem insertJobWithLeases_submitted {settings : Settings} {db after : Db} {data : JobCreate} {claims : List Claim}
    {now : Nat} (done : insertJobWithLeases settings db data claims now = .ok after) :
    Submitted db.records data now after.records := by
  unfold insertJobWithLeases at done
  simp only [bind,Except.bind,pure,Except.pure] at done
  split at done
  · cases done
  split at done
  · cases done
  split at done
  · cases done
  · rename_i inserted found
    split at done
    · cases done
    · rename_i leasedDb loop
      have same := leaseLoop_records loop
      simp only [Db.records,Records.mk.injEq] at same
      cases done
      unfold insertJob at found
      split at found
      · cases found
      split at found
      · cases found
      · rename_i fresh
        split at found
        · cases found
        · cases found
          dsimp only at same
          constructor
          · change _ ∧ leasedDb.receipts = _ ∨ _ ∧ _ ∧ leasedDb.receipts = _
            rw [same.1]
            by_cases keyed : data.idempotencyKey = ""
            · rw [if_pos keyed]
              exact .inl ⟨keyed,rfl⟩
            · rw [if_neg keyed]
              refine .inr ⟨keyed,?_,rfl⟩
              intro receipt member taken
              exact fresh ⟨keyed,receipt,member,taken⟩
          · change (if data.deviceReservationId = "" then leasedDb.reservations else _) = _ ∨
              (if data.deviceReservationId = "" then leasedDb.reservations else _) = _
            rw [same.2]
            split
            · exact .inl rfl
            · exact .inr rfl

theorem createJobWithLeases_records (settings : Settings) (state : State) (data : JobCreate) (now : Nat) :
    (createJobWithLeases settings state data now).2.db = state.db ∨
    Submitted ⟨state.db.receipts,(expireDeviceReservations state now).db.reservations⟩ data now
      (createJobWithLeases settings state data now).2.db.records := by
  unfold createJobWithLeases
  split
  · exact .inl rfl
  · rename_i registry _
    unfold createJobMetadata
    dsimp only
    generalize made : insertJobWithLeases settings (expireDeviceReservations {state with claims := registry} now).db data
      _ now = outcome
    cases outcome with
    | error error => exact .inl rfl
    | ok db =>
      have submitted := insertJobWithLeases_submitted made
      refine .inr ?_
      unfold Db.records at submitted
      rw [expire_receipts,expire_reservations] at submitted
      rw [expire_reservations]
      exact submitted

theorem Consistent.submitted {before after : Records} {data : JobCreate} {now : Nat}
    (submitted : Submitted before data now after) (consistent : Consistent before.reservations) :
    Consistent after.reservations := by
  rcases submitted.reservations with same | same
  · rw [same]
    exact consistent
  · rw [same]
    exact consistent.rewrite _ (fun _ => rfl) fun _ _ _ expires => ⟨rfl,expires⟩

def Calm (before after : Db) : Prop :=
  after.receipts = before.receipts ∧ (Consistent before.reservations → Consistent after.reservations)

theorem Calm.refl (db : Db) : Calm db db := ⟨rfl,fun consistent => consistent⟩

theorem Calm.same {before after : Db} (same : after.records = before.records) : Calm before after := by
  simp only [Db.records,Records.mk.injEq] at same
  refine ⟨same.1,fun consistent => ?_⟩
  rw [same.2]
  exact consistent

theorem Calm.expire (state : State) (now : Nat) : Calm state.db (expireDeviceReservations state now).db :=
  ⟨expire_receipts state now,fun consistent => consistent.expire now⟩

theorem reserveDevices_receipts (state : State) (request : ReservationRequest) (now : Nat) :
    (reserveDevices state request now).2.db.receipts = state.db.receipts := by
  have expired := expire_receipts state now
  unfold reserveDevices
  dsimp only
  split
  · rfl
  split
  · split
    · split
      · rfl
      · exact expired
    · rfl
  · split
    · rfl
    split
    · rfl
    · split
      · rfl
      · rename_i db done
        obtain ⟨news,bound,same⟩ := insertReservedLoop_rows done
        simp only [Db.records,Records.mk.injEq] at same
        exact same.1.trans expired

theorem reserveDevices_calm (state : State) (request : ReservationRequest) (now : Nat)
    (solid : Solid request.reservationUuid)
    (fresh : ∀ item ∈ state.db.reservations, item.reservationId ≠ "reservation-" ++ request.reservationUuid) :
    Calm state.db (reserveDevices state request now).2.db := by
  refine ⟨reserveDevices_receipts state request now,fun consistent => ?_⟩
  unfold reserveDevices
  dsimp only
  split
  · exact consistent
  split
  · rename_i first _ _
    split
    · split
      · exact consistent
      · exact (consistent.expire now).rewrite first.reservationId (fun _ => rfl) fun _ _ status _ => ⟨status,rfl⟩
    · exact consistent
  · split
    · exact consistent
    split
    · exact consistent
    · split
      · exact consistent
      · rename_i db done
        obtain ⟨news,bound,same⟩ := insertReservedLoop_rows done
        simp only [Db.records,Records.mk.injEq] at same
        dsimp only
        rw [same.2]
        refine (consistent.expire now).append (Solid.append (by decide) solid) ?_ bound
        intro item member
        rw [expire_reservations] at member
        obtain ⟨old,present,rfl⟩ := Table.mem_update.mp member
        split
        · exact fresh old present
        · exact fresh old present

theorem renewReservation_calm (state : State) (reservationId : String) (ttlSeconds : Int) (now : Nat) :
    Calm state.db (renewReservation state reservationId ttlSeconds now).2.db := by
  unfold renewReservation
  dsimp only
  split
  · exact .expire state now
  · split
    · exact .refl _
    split
    · refine ⟨expire_receipts state now,fun consistent => ?_⟩
      exact (consistent.expire now).rewrite reservationId (fun _ => rfl) fun _ _ status _ => ⟨status,rfl⟩
    · refine ⟨expire_receipts state now,fun consistent => ?_⟩
      exact (consistent.expire now).rewrite reservationId (fun _ => rfl) fun _ _ _ expires => ⟨rfl,expires⟩

theorem releaseReservation_calm (state : State) (reservationId : String) (status : ReservationStatus) (now : Nat) :
    Calm state.db (releaseReservation state reservationId status now).2.db := by
  unfold releaseReservation
  dsimp only
  split
  · exact .refl _
  split
  · exact .refl _
  · refine ⟨rfl,fun consistent => ?_⟩
    exact consistent.rewrite reservationId (fun _ => rfl) fun _ _ _ expires => ⟨rfl,expires⟩

theorem heartbeat_calm (settings : Settings) (state : State) (workerId : String) (data : Heartbeat) (now : Nat) :
    Calm state.db (heartbeat settings state workerId data now).2.db := by
  have ready : Calm state.db (beforeBeats state workerId data now).db := by
    unfold beforeBeats
    refine ⟨expire_receipts _ now,fun consistent => ?_⟩
    apply Consistent.expire
    exact consistent
  unfold heartbeat
  split
  · exact .refl _
  split
  · exact .refl _
  dsimp only
  split
  · exact .refl _
  have beaten := Runs.loop_invariant (fun current : State => current.db.records =
    (beforeBeats state workerId data now).db.records) (fun current running same _ =>
    (beatJob_records settings state.db.devices workerId now current running).trans same) data.runningJobs rfl
    (Runs.Meets.all (fun _ _ => trivial) _ _)
  split
  · exact .refl _
  · rename_i done found
    rw [found] at beaten
    have same := Calm.same beaten
    exact ⟨same.1.trans ready.1,fun consistent => same.2 (ready.2 consistent)⟩

theorem reconcileClaims_calm (settings : Settings) (state : State) (now : Nat) :
    Calm state.db (reconcileClaims settings state now).2.db := by
  have first := reservationPhase_db state now
  unfold reconcileClaims
  generalize reservationPhase state now = reserved at first ⊢
  obtain ⟨answer,pass⟩ := reserved
  cases answer with
  | error error => exact .refl _
  | ok finished =>
    dsimp only at first ⊢
    have last := Runs.loop_invariant (fun current : Pass => current.db.records = (startPass state now).db.records)
      (fun current job same _ => by
        rcases reconcileActive_cases settings state.db now current job with alone | ⟨_,failed⟩
        · rw [alone]
          exact same
        · rw [failed]
          exact same)
      (Table.select (fun job => job.status.occupied = true) (terminalPhase now pass).db.jobs)
      (by rw [terminalPhase_db,first]) (Runs.Meets.all (fun _ _ => trivial) (terminalPhase now pass) _)
    unfold activePhase
    split
    · exact .refl _
    · rename_i done found
      rw [found] at last
      have same := Calm.same last
      have start := Calm.expire state now
      exact ⟨same.1.trans start.1,fun consistent => same.2 (start.2 consistent)⟩

theorem apply_receipts {settings : Settings} {state : State} {op : Op}
    (unkeyed : ∀ data now, op = .createJobWithLeases data now → data.idempotencyKey = "") :
    (apply settings op state).db.receipts = state.db.receipts := by
  have kept : ∀ {after : State}, after.db.records = state.db.records → after.db.receipts = state.db.receipts :=
    fun same => congrArg Records.receipts same
  cases op with
  | registerWorker data now => rfl
  | heartbeat workerId data now => exact (heartbeat_calm settings state workerId data now).1
  | markWorkerOffline workerId now => exact kept (markWorkerOffline_records state workerId now)
  | createJobWithLeases data now =>
    rcases createJobWithLeases_records settings state data now with same | submitted
    · exact congrArg Db.receipts same
    · obtain ⟨_,same⟩ | ⟨keyed,_⟩ := submitted.receipts
      · exact same
      · exact absurd (unkeyed data now rfl) keyed
  | createCommand data attachToJob now => exact kept (createCommand_records state data attachToJob now)
  | pollCommands workerId limit redelivery now => rfl
  | ackCommand workerId commandId data now => exact kept (ackCommand_records state workerId commandId data now)
  | syncJobFromCommand command now => exact kept (syncJobFromCommand_records state command now)
  | compensateFailedDispatch jobId reason attemptId now =>
    exact kept (compensateFailedDispatch_records state jobId reason attemptId now)
  | failAbandonedWorkerLostJobs minAge now => exact kept (failAbandoned_records state minAge now)
  | transitionJob jobId toStatus note now => exact congrArg Records.receipts (transitionJobConn_records _ _ _ _ _)
  | deleteJob jobId => exact kept (deleteJob_records state jobId)
  | reconcileClaims now => exact (reconcileClaims_calm settings state now).1
  | reserveDevices request now => exact reserveDevices_receipts state request now
  | renewReservation reservationId ttl now => exact (renewReservation_calm state reservationId ttl now).1
  | releaseReservation reservationId status now => exact (releaseReservation_calm state reservationId status now).1
  | acquireDeviceOperationClaim workerId devices ownerId sourceType sourceId ttl username now =>
    exact congrArg Db.receipts
      (acquireDeviceOperationClaim_core state workerId devices ownerId sourceType sourceId ttl username now)
  | registry op => rfl

/-- Every uuid is a text without blanks, and a reservation draws one that no reservation had. -/
def drawn (state : State) : Op → Prop
  | .createJobWithLeases data _ => Solid data.jobUuid
  | .reserveDevices request _ => Solid request.reservationUuid ∧
    ∀ item ∈ state.db.reservations, item.reservationId ≠ "reservation-" ++ request.reservationUuid
  | _ => True

theorem apply_consistent {settings : Settings} {op : Op} {state : State} (allowed : drawn state op)
    (consistent : Consistent state.db.reservations) : Consistent (apply settings op state).db.reservations := by
  have calm : ∀ {after : State}, Calm state.db after.db → Consistent after.db.reservations := fun step => step.2 consistent
  cases op with
  | registerWorker data now => exact consistent
  | heartbeat workerId data now => exact calm (heartbeat_calm settings state workerId data now)
  | markWorkerOffline workerId now => exact calm (.same (markWorkerOffline_records state workerId now))
  | createJobWithLeases data now =>
    rcases createJobWithLeases_records settings state data now with same | submitted
    · change Consistent (createJobWithLeases settings state data now).2.db.reservations
      rw [same]
      exact consistent
    · exact Consistent.submitted submitted (consistent.expire now)
  | createCommand data attachToJob now => exact calm (.same (createCommand_records state data attachToJob now))
  | pollCommands workerId limit redelivery now => exact consistent
  | ackCommand workerId commandId data now => exact calm (.same (ackCommand_records state workerId commandId data now))
  | syncJobFromCommand command now => exact calm (.same (syncJobFromCommand_records state command now))
  | compensateFailedDispatch jobId reason attemptId now =>
    exact calm (.same (compensateFailedDispatch_records state jobId reason attemptId now))
  | failAbandonedWorkerLostJobs minAge now => exact calm (.same (failAbandoned_records state minAge now))
  | transitionJob jobId toStatus note now => exact calm (.same (transitionJobConn_records _ _ _ _ _))
  | deleteJob jobId => exact calm (.same (deleteJob_records state jobId))
  | reconcileClaims now => exact calm (reconcileClaims_calm settings state now)
  | reserveDevices request now => exact calm (reserveDevices_calm state request now allowed.1 allowed.2)
  | renewReservation reservationId ttl now => exact calm (renewReservation_calm state reservationId ttl now)
  | releaseReservation reservationId status now => exact calm (releaseReservation_calm state reservationId status now)
  | acquireDeviceOperationClaim workerId devices ownerId sourceType sourceId ttl username now =>
    change Consistent (acquireDeviceOperationClaim state workerId devices ownerId sourceType sourceId ttl username now).2.db.reservations
    rw [acquireDeviceOperationClaim_core]
    exact consistent
  | registry op => exact consistent

def nameConditions : Conditions := {create := fun data => Solid data.jobUuid}

theorem SameShape.jobIds {before after : Core} (same : SameShape before after) :
    after.jobs.map (·.id) = before.jobs.map (·.id) := by
  have projected := congrArg (List.map Prod.fst) same.jobs
  rw [List.map_map,List.map_map] at projected
  exact projected

def Named (core : Core) : Prop := ∀ job ∈ core.jobs, Solid job.id

theorem Named.shape {before after : Core} (named : Named before) (same : SameShape before after) : Named after := by
  intro job member
  obtain ⟨old,present,equal⟩ := mem_of_map_eq same.jobIds member
  rw [← equal]
  exact named old present

theorem nameConditions_keep {settings : Settings} : nameConditions.Keep settings Named where
  created _ named solid created := by
    cases created with
    | none => exact named
    | added leases freshJob freshAttempt owned _ =>
      intro job member
      rcases List.mem_append.mp member with old | new
      · exact named job old
      · rw [List.mem_singleton.mp new]
        exact Solid.append (by decide) solid
  commanded _ named _ commanded := by
    cases commanded with
    | none => exact named
    | reused command member worker operation after attached => exact named.shape (attached_shape attached.2)
    | inserted command commandType job attempt worker operation status fresh distinct after attached =>
      split at attached
      · refine Named.shape ?_ (attached_shape attached)
        exact fun row inside => named row inside
      · rw [attached]
        exact named
  touched _ named touched := named.shape (touched_shape touched)
  synced _ named _ synced := named.shape (synced_shape synced)
  compensated _ named _ compensated := by
    cases compensated with
    | none tables =>
      rw [tables]
      exact named
    | failed job member own waiting undelivered error tables =>
      rw [tables]
      exact named.shape (compensate_shape _ _ _ _)
  abandoned _ named _ abandoned := named.shape (abandoned_shape abandoned)
  transitioned _ named _ _ _ := named.shape (move_shape _ _ _ _ _)
  deleted _ named _ deleted := by
    cases deleted with
    | none => exact named
    | gone => exact fun job member => named job (Table.mem_delete.mp member).1
  lost _ named lost := named.shape (lost_shape lost)
  beaten _ named _ beaten := named.shape (beaten_shape _ beaten)
  unfenced _ named _ _ := named.shape (unfenced_shape _ _ _)

theorem drawn_names {settings : Settings} {state : State} {op : Op} (allowed : drawn state op) :
    nameConditions.guard settings state op := by
  cases op with
  | createJobWithLeases data now => exact allowed
  | heartbeat workerId data now => exact Runs.Meets.all (fun _ _ => trivial) _ _
  | failAbandonedWorkerLostJobs minAge now => exact Runs.Along.all (fun _ _ => trivial) _ _
  | reconcileClaims now => exact fun _ _ => Runs.Meets.all (fun _ _ => trivial) _ _
  | _ => trivial

theorem drawn_reached {settings : Settings} {state : State} (reached : Reached settings drawn state) :
    Linked state.db.core ∧ Named state.db.core ∧ Consistent state.db.reservations := by
  obtain ⟨linked,named⟩ := nameConditions_keep.reached (fun _ none => (by cases none))
    (reached.weaken fun _ _ allowed => drawn_names allowed)
  refine ⟨linked,named,?_⟩
  refine Runs.Reached.invariant (fun state : State => Consistent state.db.reservations) ?_ ?_ reached
  · exact ⟨fun _ none => (by cases none),fun _ none => (by cases none)⟩
  · exact fun current op consistent allowed => apply_consistent allowed consistent

end GmsRemoteTest.Cluster
