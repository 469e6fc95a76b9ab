import GmsRemoteTest.Foundation.ClaimRepair
import GmsRemoteTest.Cluster.Records

/-! One reconciliation pass, turn by turn. Its repairs compete for the same keys: a claim
that is released late in the pass still blocks a reservation looked at before it. What a
turn achieves for its reservation or job, the later turns keep. -/
namespace GmsRemoteTest.Cluster
open DeviceClaims Text

theorem jobSource_inj {first second : String} (same : jobSource first = jobSource second) : first = second :=
  tag_inj "job:" same

theorem reservationSource_inj {first second : String} (same : reservationSource first = reservationSource second) :
    first = second :=
  tag_inj "reservation:" same

theorem jobSource_ne (jobId reservationId : String) : jobSource jobId ≠ reservationSource reservationId := by
  intro same
  have lists := congrArg String.toList same
  unfold jobSource reservationSource at lists
  rw [String.toList_append,String.toList_append] at lists
  have heads := congrArg List.head? lists
  revert heads
  simp

def jobRequests (db : Db) (deviceIds : List String) : List DeviceRequest :=
  claimDevices db (partition (deviceIds.head?.getD "")).1 deviceIds

def refenceKeys (db : Db) (jobId : String) : List String := requestedKeys (jobRequests db (leasedDevices db.leases jobId))

def reservationRequests (db : Db) (workerId reservationId : String) : List DeviceRequest :=
  claimDevices db workerId
    ((Table.select (fun item => item.reservationId = reservationId) db.reservations).map (·.deviceId))

def ended (now : Nat) (item : Reservation) : Prop := item.status ≠ .active ∨ item.expiresAt ≤ now

instance (now : Nat) : DecidablePred (ended now) :=
  fun item => inferInstanceAs (Decidable (item.status ≠ .active ∨ item.expiresAt ≤ now))

def Ghost (db : Db) (sourceId : String) : Prop :=
  (∃ item ∈ db.reservations, item.status ≠ .active ∧ sourceId = reservationSource item.reservationId) ∨
    ∃ job ∈ db.jobs, job.status.terminal = true ∧ sourceId = jobSource job.id

instance (db : Db) : DecidablePred (Ghost db) := fun sourceId => inferInstanceAs (Decidable
  ((∃ item ∈ db.reservations, item.status ≠ .active ∧ sourceId = reservationSource item.reservationId) ∨
    ∃ job ∈ db.jobs, job.status.terminal = true ∧ sourceId = jobSource job.id))

def Released (db : Db) (now : Nat) (sourceId : String) : Prop :=
  (∃ item ∈ db.reservations, ended now item ∧ sourceId = reservationSource item.reservationId) ∨
    ∃ job ∈ db.jobs, job.status.terminal = true ∧ sourceId = jobSource job.id

instance (db : Db) (now : Nat) : DecidablePred (Released db now) := fun sourceId => inferInstanceAs (Decidable
  ((∃ item ∈ db.reservations, ended now item ∧ sourceId = reservationSource item.reservationId) ∨
    ∃ job ∈ db.jobs, job.status.terminal = true ∧ sourceId = jobSource job.id))

structure Drift (state : State) : Prop where
  claims : state.claims.Valid
  jobIds : (state.db.jobs.map (·.id)).Nodup
  alike : ∀ first ∈ state.db.reservations, ∀ second ∈ state.db.reservations,
    first.reservationId = second.reservationId → first.status = second.status ∧ first.expiresAt = second.expiresAt
  jobNames : ∀ job ∈ state.db.jobs, strip (jobSource job.id) = jobSource job.id
  reservationNames : ∀ item ∈ state.db.reservations,
    strip (reservationSource item.reservationId) = reservationSource item.reservationId

def Haunted (state : State) (now : Nat) (item : Reservation) : Prop :=
  ¬ HeldBy now state.claims (reservationSource item.reservationId) ∧
    Blocked now state.claims (reservationRequests state.db item.workerId item.reservationId) (Ghost state.db) ∧
    ¬ Blocked now state.claims (reservationRequests state.db item.workerId item.reservationId)
      fun sourceId => ¬ Released state.db now sourceId

section start
variable {state : State} {now : Nat}

theorem Drift.job_stays (drift : Drift state) {job : Job} (member : job ∈ state.db.jobs)
    (unfinished : job.status.terminal = false) : ¬ Released state.db now (jobSource job.id) := by
  rintro (⟨item,_,_,same⟩ | ⟨other,present,terminal,same⟩)
  · exact jobSource_ne _ _ same
  · have equal : job = other := Table.eq_of_key drift.jobIds member present (jobSource_inj same)
    rw [← equal,unfinished] at terminal
    cases terminal

theorem Drift.reservation_stays (drift : Drift state) {item : Reservation} (member : item ∈ state.db.reservations)
    (lasting : ¬ ended now item) : ¬ Released state.db now (reservationSource item.reservationId) := by
  rintro (⟨other,present,halted,same⟩ | ⟨job,_,_,same⟩)
  · obtain ⟨status,expires⟩ := drift.alike item member other present (reservationSource_inj same)
    unfold ended at lasting halted
    rw [status,expires] at lasting
    exact lasting halted
  · exact jobSource_ne _ _ same.symm

theorem releaseReservations_repairs {registry : Registry} (valid : registry.Valid) {status : ClaimStatus}
    (final : status ≠ .active) (ids : List String) {released : String → Prop}
    (gone : ∀ id ∈ ids, released (reservationSource id)) :
    (releaseReservations status now registry ids).Valid ∧
    Repairs now released (fun _ => False) registry (releaseReservations status now registry ids) ∧
    ∀ id ∈ ids, ¬ HeldBy now (releaseReservations status now registry ids) (reservationSource id) := by
  unfold releaseReservations
  refine Runs.foldl_prefix (fun earlier current : _ => Registry.Valid current ∧
    Repairs now released (fun _ => False) registry current ∧
    ∀ id ∈ earlier, ¬ HeldBy now current (reservationSource id)) ?_ ⟨valid,.refl _,fun _ none => (by cases none)⟩
  rintro earlier id later current split ⟨kept,repairs,free⟩
  obtain ⟨step,lost⟩ := repairs_release current (reservationSource id) final now
  refine ⟨(release_advances _ _ _ _ _).valid kept,repairs.trans (step.widen ?_ fun _ none => none),?_⟩
  · rintro source rfl
    exact gone id (by simp [split])
  · intro other member
    rcases List.mem_append.mp member with old | new
    · exact fun held => free other old (step.held_before (fun none => none) held)
    · rw [List.mem_singleton.mp new]
      exact lost

theorem startPass_core (state : State) (now : Nat) : (startPass state now).db.core = state.db.core :=
  expireDeviceReservations_core state now

theorem startPass_reservations (state : State) (now : Nat) : (startPass state now).db.reservations =
    Table.update (fun item => item.status = .active ∧ item.expiresAt ≤ now) (closedReservation .expired now)
      state.db.reservations :=
  expire_reservations state now

theorem startPass_claimDevices (state : State) (now : Nat) (workerId : String) (names : List String) :
    claimDevices (startPass state now).db workerId names = claimDevices state.db workerId names := by
  unfold startPass expireDeviceReservations
  dsimp only
  split
  · rfl
  · apply SameRoutes.claimDevices_eq
    · exact unreserve_routes _ _ now
    · rfl

theorem startPass_repairs (drift : Drift state) (now : Nat) : (startPass state now).claims.Valid ∧
    Repairs now (Released state.db now) (fun _ => False) state.claims (startPass state now).claims ∧
    ∀ item ∈ state.db.reservations, item.status = .active → item.expiresAt ≤ now →
      ¬ HeldBy now (startPass state now).claims (reservationSource item.reservationId) := by
  unfold startPass expireDeviceReservations
  dsimp only
  split
  · rename_i none
    refine ⟨drift.claims,.refl _,?_⟩
    intro item member active due
    exact absurd ⟨active,due⟩ (Table.select_eq_nil.mp none item member)
  · have gone : ∀ id ∈ fromkeys ((Table.select (fun item => item.status = .expired ∧ item.releasedAt = some now)
        (Table.update (fun item => item.status = .active ∧ item.expiresAt ≤ now) (closedReservation .expired now)
          state.db.reservations)).map (·.reservationId)), Released state.db now (reservationSource id) := by
      intro id listed
      rw [mem_fromkeys,List.mem_map] at listed
      obtain ⟨row,chosen,rfl⟩ := listed
      obtain ⟨present,expired,_⟩ := Table.mem_select.mp chosen
      obtain ⟨item,member,rfl⟩ := Table.mem_update.mp present
      refine .inl ⟨item,member,?_,?_⟩
      · by_cases due : item.status = .active ∧ item.expiresAt ≤ now
        · exact .inr due.2
        · rw [if_neg due] at expired
          exact .inl (by rw [expired]; decide)
      · split <;> rfl
    obtain ⟨valid,repairs,free⟩ :=
      releaseReservations_repairs drift.claims (show ClaimStatus.expired ≠ .active by decide) _ gone
    refine ⟨valid,repairs,?_⟩
    intro item member active due
    apply free
    rw [mem_fromkeys,List.mem_map]
    refine ⟨closedReservation .expired now item,Table.mem_select.mpr ⟨?_,rfl,rfl⟩,rfl⟩
    exact Table.mem_update.mpr ⟨item,member,if_pos ⟨active,due⟩⟩

end start

section turns
variable {settings : Settings} {committed : Db} {now : Nat} {pass : Pass}

inductive ReservationTurn (committed : Db) (now : Nat) (pass : Pass) (row : ReservationKey) (next : Registry) : Prop
  | fenced (active : row.status = .active) (held : HeldBy now next (reservationSource row.reservationId))
      (claims : next = sweep now pass.claims)
  | blocked (active : row.status = .active) (unheld : ¬ HeldBy now next (reservationSource row.reservationId))
      (owner : strip row.ownerId ≠ "")
      (blocked : Blocked now next (claimDevices committed row.workerId ((Table.select
        (fun item => item.reservationId = row.reservationId) pass.db.reservations).map (·.deviceId))) fun _ => True)
      (claims : next = sweep now pass.claims)
  | refenced (active : row.status = .active) (held : HeldBy now next (reservationSource row.reservationId))
      (repairs : Repairs now (fun _ => False) (fun sourceId => sourceId = reservationSource row.reservationId)
        pass.claims next)
  | freed (inactive : row.status ≠ .active) (free : ¬ HeldBy now next (reservationSource row.reservationId))
      (repairs : Repairs now (fun sourceId => sourceId = reservationSource row.reservationId) (fun _ => False)
        pass.claims next)

theorem reconcileReservation_turn (valid : pass.claims.Valid) {row : ReservationKey}
    (name : strip (reservationSource row.reservationId) = reservationSource row.reservationId) {result : Unit}
    (done : (reconcileReservation committed now pass row).1 = .ok result) :
    let next := (reconcileReservation committed now pass row).2.claims
    next.Valid ∧ Swept now next ∧ ReservationTurn committed now pass row next := by
  have swept := sweep_swept now pass.claims
  have kept := sweep_valid valid now
  have empty := @listBySource_nil now pass.claims (reservationSource row.reservationId)
  unfold reconcileReservation sourceClaims releaseReconciled at done ⊢
  dsimp only at done ⊢
  rw [listBySource_eq] at done ⊢
  split
  · rename_i lost
    rw [if_pos lost] at done
    have unheld : ¬ HeldBy now (sweep now pass.claims) (reservationSource row.reservationId) :=
      mt held_sweep.mp (empty.mp lost.2)
    have outcome := acquire_refenced (sweep now pass.claims) kept (claimDevices committed row.workerId ((Table.select
      (fun item => item.reservationId = row.reservationId) pass.db.reservations).map (·.deviceId)))
      ⟨row.ownerId,row.ownerId,"cluster-reservation",reservationSource row.reservationId,6*60*60,true⟩ now
      (by rw [name]; exact unheld)
    generalize acquire (sweep now pass.claims) _ _ now now = answer at outcome done ⊢
    cases outcome with
    | refused error => cases done
    | blocked held owner blocked => exact ⟨kept,swept,.blocked lost.1 unheld owner blocked rfl⟩
    | granted records after valid later repairs held holds =>
      dsimp only at repairs held
      rw [name] at repairs held
      exact ⟨valid,later,.refenced lost.1 held ((repairs_sweep now pass.claims).trans repairs)⟩
  · rename_i fine
    rw [if_neg fine] at done
    split
    · rename_i ghost
      obtain ⟨repairs,free⟩ := repairs_release (sweep now pass.claims) (reservationSource row.reservationId)
        (show ClaimStatus.reconciled ≠ .active by decide) now
      exact ⟨(release_advances _ _ _ _ _).valid kept,release_swept swept (by decide),
        .freed ghost.1 free ((repairs_sweep now pass.claims).trans repairs)⟩
    · rename_i calm
      refine ⟨kept,swept,?_⟩
      by_cases active : row.status = .active
      · refine .fenced active (held_sweep.mpr ?_) rfl
        by_contra unheld
        exact fine ⟨active,empty.mpr unheld⟩
      · refine .freed active (mt held_sweep.mp fun held => ?_) (repairs_sweep now pass.claims)
        exact calm ⟨active,mt empty.mp (not_not_intro held)⟩

theorem reconcileFinished_turn (valid : pass.claims.Valid) (jobId : String) :
    let next := reconcileFinished now pass jobId
    next.db = pass.db ∧ next.claims.Valid ∧ Swept now next.claims ∧ ¬ HeldBy now next.claims (jobSource jobId) ∧
      Repairs now (fun sourceId => sourceId = jobSource jobId) (fun _ => False) pass.claims next.claims := by
  have swept := sweep_swept now pass.claims
  have kept := sweep_valid valid now
  have empty := @listBySource_nil now pass.claims (jobSource jobId)
  unfold reconcileFinished sourceClaims releaseReconciled
  dsimp only
  rw [listBySource_eq]
  split
  · rename_i none
    exact ⟨rfl,kept,swept,mt held_sweep.mp (empty.mp none),repairs_sweep now pass.claims⟩
  · obtain ⟨repairs,free⟩ := repairs_release (sweep now pass.claims) (jobSource jobId)
      (show ClaimStatus.reconciled ≠ .active by decide) now
    exact ⟨rfl,(release_advances _ _ _ _ _).valid kept,release_swept swept (by decide),free,
      (repairs_sweep now pass.claims).trans repairs⟩

inductive JobTurn (committed : Db) (now : Nat) (pass : Pass) (job : Job) (next : Pass) : Prop
  | skipped (fenced : HeldBy now pass.claims (jobSource job.id) ∨ leasedDevices pass.db.leases job.id = [])
      (db : next.db = pass.db) (claims : next.claims = sweep now pass.claims)
  | refenced (unheld : ¬ HeldBy now pass.claims (jobSource job.id)) (db : next.db = pass.db)
      (repairs : Repairs now (fun _ => False) (fun sourceId => sourceId = jobSource job.id) pass.claims next.claims)
      (held : HeldBy now next.claims (jobSource job.id))
      (holds : ∀ key ∈ requestedKeys (jobRequests committed (leasedDevices pass.db.leases job.id)),
        HoldsKey now next.claims (jobSource job.id) key)
  | failed (unheld : ¬ HeldBy now pass.claims (jobSource job.id))
      (db : next.db = {pass.db with
        jobs := Table.update (fun row => row.id = job.id ∧ row.status.occupied = true) (unfenced now) pass.db.jobs})
      (claims : next.claims = sweep now pass.claims)

theorem reconcileActive_turn (valid : pass.claims.Valid) {job : Job} (name : strip (jobSource job.id) = jobSource job.id)
    {result : Unit} (done : (reconcileActive settings committed now pass job).1 = .ok result) :
    let next := (reconcileActive settings committed now pass job).2
    next.claims.Valid ∧ Swept now next.claims ∧ JobTurn committed now pass job next := by
  have swept := sweep_swept now pass.claims
  have kept := sweep_valid valid now
  have empty := @listBySource_nil now pass.claims (jobSource job.id)
  unfold reconcileActive sourceClaims refence at done ⊢
  dsimp only at done ⊢
  rw [listBySource_eq] at done ⊢
  split
  · rename_i fenced
    refine ⟨kept,swept,.skipped (fenced.imp_left fun some => ?_) rfl rfl⟩
    by_contra unheld
    exact some (empty.mpr unheld)
  · rename_i bare
    rw [if_neg bare] at done
    have unheld : ¬ HeldBy now pass.claims (jobSource job.id) := by
      refine empty.mp ?_
      by_contra some
      exact bare (.inl some)
    have outcome := acquire_refenced (sweep now pass.claims) kept
      (jobRequests committed (leasedDevices pass.db.leases job.id))
      ⟨job.ownerId,job.ownerId,"cluster-job",jobSource job.id,settings.claimLeaseTtlSeconds,true⟩ now
      (by rw [name]; exact mt held_sweep.mp unheld)
    unfold jobRequests at outcome
    generalize acquire (sweep now pass.claims) _ _ now now = answer at outcome done ⊢
    cases outcome with
    | refused error => cases done
    | blocked held owner blocked => exact ⟨kept,swept,.failed unheld rfl rfl⟩
    | granted records after valid later repairs held holds =>
      dsimp only at repairs held holds
      rw [name] at repairs held holds
      exact ⟨valid,later,.refenced unheld rfl ((repairs_sweep now pass.claims).trans repairs) held holds⟩

end turns

section stages
variable {state : State} {now : Nat} {pass next : Pass}

theorem mem_reservationKeys {items : List Reservation} {row : ReservationKey} : row ∈ reservationKeys items ↔
    ∃ item ∈ items, row = ⟨item.reservationId,item.workerId,item.ownerId,item.status⟩ := by
  induction items with
  | nil => simp [reservationKeys]
  | cons first items ih =>
    simp only [reservationKeys,List.mem_cons,List.mem_filter,ih,exists_eq_or_imp]
    by_cases same : row = ⟨first.reservationId,first.workerId,first.ownerId,first.status⟩ <;> simp [same]

theorem listed_row {row : ReservationKey} (listed : row ∈ reservationKeys (startPass state now).db.reservations) :
    ∃ item ∈ state.db.reservations, item.reservationId = row.reservationId ∧ item.workerId = row.workerId ∧
      (row.status = .active ↔ ¬ ended now item) := by
  obtain ⟨kept,present,rfl⟩ := mem_reservationKeys.mp listed
  rw [startPass_reservations] at present
  obtain ⟨item,member,rfl⟩ := Table.mem_update.mp present
  refine ⟨item,member,?_⟩
  unfold ended
  by_cases due : item.status = .active ∧ item.expiresAt ≤ now
  · simp [due,closedReservation]
  · rw [if_neg due]
    refine ⟨rfl,rfl,?_⟩
    rw [not_or,not_not]
    constructor
    · intro active
      exact ⟨active,fun late => due ⟨active,late⟩⟩
    · exact fun both => both.1

theorem Drift.row_stays (drift : Drift state) {row : ReservationKey}
    (listed : row ∈ reservationKeys (startPass state now).db.reservations) (active : row.status = .active) :
    ¬ Released state.db now (reservationSource row.reservationId) := by
  obtain ⟨item,member,same,_,status⟩ := listed_row listed
  rw [← same]
  exact drift.reservation_stays member (status.mp active)

theorem row_released {row : ReservationKey} (listed : row ∈ reservationKeys (startPass state now).db.reservations)
    (inactive : row.status ≠ .active) : Released state.db now (reservationSource row.reservationId) := by
  obtain ⟨item,member,same,_,status⟩ := listed_row listed
  refine .inl ⟨item,member,?_,by rw [same]⟩
  by_contra lasting
  exact inactive (status.mpr lasting)

structure Repaired (state : State) (now : Nat) (registry : Registry) (row : ReservationKey) : Prop where
  active : row.status = .active → HeldBy now registry (reservationSource row.reservationId) ∨ strip row.ownerId ≠ "" ∧
    Blocked now registry (reservationRequests state.db row.workerId row.reservationId)
      fun sourceId => ¬ Released state.db now sourceId
  inactive : row.status ≠ .active → ¬ HeldBy now registry (reservationSource row.reservationId)

structure Fenced (state : State) (now : Nat) (registry : Registry) (job : Job) : Prop where
  held : HeldBy now registry (jobSource job.id) ∨ leasedDevices state.db.leases job.id = []
  keys : ¬ HeldBy now state.claims (jobSource job.id) → ∀ key ∈ refenceKeys state.db job.id,
    HoldsKey now registry (jobSource job.id) key

section
variable {before after : Registry} {fresh : String → Prop} (drift : Drift state)
  (repairs : Repairs now (Released state.db now) fresh before after)
include drift repairs

theorem Repaired.kept (lawful : ∀ sourceId, fresh sourceId → ¬ Released state.db now sourceId) {row : ReservationKey}
    (listed : row ∈ reservationKeys (startPass state now).db.reservations) (repaired : Repaired state now before row) :
    Repaired state now after row := by
  constructor
  · intro active
    rcases repaired.active active with held | ⟨owner,blocked⟩
    · exact .inl (repairs.held (drift.row_stays listed active) held)
    · exact .inr ⟨owner,repairs.blocked blocked⟩
  · intro inactive held
    exact repaired.inactive inactive (repairs.held_before (fun new => lawful _ new (row_released listed inactive)) held)

theorem Fenced.kept {job : Job} (member : job ∈ state.db.jobs) (unfinished : job.status.terminal = false)
    (fenced : Fenced state now before job) : Fenced state now after job := by
  have stays : ¬ Released state.db now (jobSource job.id) := drift.job_stays member unfinished
  constructor
  · exact fenced.held.imp_left (repairs.held stays)
  · intro unheld key asked
    exact repairs.holds stays (fenced.keys unheld key asked)

end

/-- A pass that went through the reservations `rows`, the finished jobs `ids` and the jobs `jobs`. -/
structure Stage (state : State) (now : Nat) (rows : List ReservationKey) (ids : List String) (jobs : List Job)
    (pass : Pass) : Prop where
  db : pass.db = {(startPass state now).db with jobs := pass.db.jobs}
  valid : pass.claims.Valid
  swept : rows ≠ [] ∨ ids ≠ [] ∨ jobs ≠ [] → Swept now pass.claims
  reservations : ∀ row ∈ rows, row ∈ reservationKeys (startPass state now).db.reservations ∧
    Repaired state now pass.claims row
  finished : ∀ id ∈ ids, Released state.db now (jobSource id) ∧ ¬ HeldBy now pass.claims (jobSource id)
  active : ∀ job ∈ jobs, job ∈ state.db.jobs ∧ job.status.occupied = true ∧
    (job ∈ pass.db.jobs → Fenced state now pass.claims job)
  failed : ∀ row ∈ pass.db.jobs, row ∈ state.db.jobs ∨
    row.status.terminal = true ∧ ¬ HeldBy now pass.claims (jobSource row.id) ∧ ∃ job ∈ jobs, job.id = row.id

theorem Stage.step (drift : Drift state) {rows : List ReservationKey} {ids : List String} {jobs : List Job}
    (stage : Stage state now rows ids jobs pass) (db : next.db = pass.db) (valid : next.claims.Valid)
    (swept : Swept now next.claims) {fresh : String → Prop}
    (repairs : Repairs now (Released state.db now) fresh pass.claims next.claims)
    (lawful : ∀ sourceId, fresh sourceId → ¬ Released state.db now sourceId)
    (apart : ∀ job ∈ jobs, ¬ fresh (jobSource job.id)) : Stage state now rows ids jobs next := by
  constructor
  · rw [db]
    exact stage.db
  · exact valid
  · exact fun _ => swept
  · intro row member
    obtain ⟨listed,repaired⟩ := stage.reservations row member
    exact ⟨listed,repaired.kept drift repairs lawful listed⟩
  · intro id member
    obtain ⟨gone,free⟩ := stage.finished id member
    exact ⟨gone,mt (repairs.held_before fun new => lawful _ new gone) free⟩
  · intro job member
    obtain ⟨present,busy,fenced⟩ := stage.active job member
    rw [db]
    exact ⟨present,busy,fun there => (fenced there).kept drift repairs present (JobStatus.occupied_live busy)⟩
  · intro row member
    rw [db] at member
    rcases stage.failed row member with old | ⟨terminal,free,job,inside,same⟩
    · exact .inl old
    · refine .inr ⟨terminal,mt (repairs.held_before ?_) free,job,inside,same⟩
      rw [← same]
      exact apart job inside

theorem start_stage (drift : Drift state) (now : Nat) : Stage state now [] [] [] (startPass state now) := by
  have jobs : (startPass state now).db.jobs = state.db.jobs := congrArg Core.jobs (startPass_core state now)
  refine ⟨rfl,(startPass_repairs drift now).1,?_,?_,?_,?_,?_⟩
  · rintro (none | none | none) <;> exact absurd rfl none
  · intro row none
    cases none
  · intro id none
    cases none
  · intro job none
    cases none
  · intro row member
    rw [jobs] at member
    exact .inl member

def Open (db : Db) (now : Nat) (sourceId : String) : Prop :=
  ∃ item ∈ db.reservations, ¬ ended now item ∧ sourceId = reservationSource item.reservationId

theorem Drift.open_stays (drift : Drift state) {sourceId : String} (lasting : Open state.db now sourceId) :
    ¬ Released state.db now sourceId := by
  obtain ⟨item,member,lasting,rfl⟩ := lasting
  exact drift.reservation_stays member lasting

theorem row_open {row : ReservationKey} (listed : row ∈ reservationKeys (startPass state now).db.reservations)
    (active : row.status = .active) : Open state.db now (reservationSource row.reservationId) := by
  obtain ⟨item,member,same,_,status⟩ := listed_row listed
  exact ⟨item,member,status.mp active,by rw [same]⟩

theorem Drift.row_name (drift : Drift state) {row : ReservationKey}
    (listed : row ∈ reservationKeys (startPass state now).db.reservations) :
    strip (reservationSource row.reservationId) = reservationSource row.reservationId := by
  obtain ⟨item,member,same,_⟩ := listed_row listed
  rw [← same]
  exact drift.reservationNames item member

theorem start_requests (state : State) (now : Nat) (workerId reservationId : String) :
    claimDevices state.db workerId ((Table.select (fun item => item.reservationId = reservationId)
      (startPass state now).db.reservations).map (·.deviceId)) = reservationRequests state.db workerId reservationId := by
  unfold reservationRequests
  congr 1
  rw [startPass_reservations]
  unfold Table.select Table.update
  rw [List.filter_map,List.map_map]
  have kept : ∀ item : Reservation, (if item.status = .active ∧ item.expiresAt ≤ now then
      closedReservation .expired now item else item).reservationId = item.reservationId ∧
      (if item.status = .active ∧ item.expiresAt ≤ now then
        closedReservation .expired now item else item).deviceId = item.deviceId := by
    intro item
    split <;> exact ⟨rfl,rfl⟩
  simp only [Function.comp_def,kept]

theorem blocked_lasts (drift : Drift state) (calm : ∀ item ∈ state.db.reservations, ¬ ended now item → ¬ Haunted state now item)
    {registry : Registry} (repairs : Repairs now (Released state.db now) (Open state.db now) (startPass state now).claims registry)
    {row : ReservationKey} (listed : row ∈ reservationKeys (startPass state now).db.reservations)
    (active : row.status = .active) (unheld : ¬ HeldBy now registry (reservationSource row.reservationId))
    (blocked : Blocked now registry (reservationRequests state.db row.workerId row.reservationId) fun _ => True) :
    Blocked now registry (reservationRequests state.db row.workerId row.reservationId)
      fun sourceId => ¬ Released state.db now sourceId := by
  obtain ⟨_,start,free⟩ := startPass_repairs drift now
  obtain ⟨item,member,same,worker,status⟩ := listed_row listed
  have stays := drift.row_stays listed active
  obtain ⟨claim,present,current,asked,_⟩ := blocked
  by_cases gone : Released state.db now claim.sourceId
  · have early : claim ∈ (startPass state now).claims.rows := by
      rcases repairs.origin claim present current with old | new
      · exact old
      · exact absurd gone (drift.open_stays new)
    have stored : claim ∈ state.claims.rows := (start.origin claim early current).resolve_right fun none => none
    have ghost : Ghost state.db claim.sourceId := by
      rcases gone with ⟨other,there,halted,named⟩ | terminal
      · refine .inl ⟨other,there,?_,named⟩
        intro active
        have due := halted.resolve_left (not_not_intro active)
        exact free other there active due ⟨claim,early,current,named⟩
      · exact .inr terminal
    have lasting : Blocked now state.claims (reservationRequests state.db row.workerId row.reservationId)
        fun sourceId => ¬ Released state.db now sourceId := by
      have quiet := calm item member (status.mp active)
      unfold Haunted at quiet
      rw [same,worker] at quiet
      by_contra none
      exact quiet ⟨fun held => unheld (repairs.held stays (start.held stays held)),
        ⟨claim,stored,current,asked,ghost⟩,none⟩
    exact repairs.blocked (start.blocked lasting)
  · exact ⟨claim,present,current,asked,gone⟩

theorem Stage.reservation {rows : List ReservationKey} (stage : Stage state now rows [] [] next)
    (swept : Swept now next.claims) {row : ReservationKey}
    (listed : row ∈ reservationKeys (startPass state now).db.reservations) (repaired : Repaired state now next.claims row) :
    Stage state now (rows++[row]) [] [] next := by
  refine ⟨stage.db,stage.valid,fun _ => swept,?_,stage.finished,stage.active,stage.failed⟩
  intro other member
  rcases List.mem_append.mp member with old | new
  · exact stage.reservations other old
  · rw [List.mem_singleton.mp new]
    exact ⟨listed,repaired⟩

section
variable (drift : Drift state) (calm : ∀ item ∈ state.db.reservations, ¬ ended now item → ¬ Haunted state now item)
include drift calm

theorem ReservationTurn.repairs (before : Repairs now (Released state.db now) (Open state.db now) (startPass state now).claims pass.claims)
    (db : pass.db = (startPass state now).db) {row : ReservationKey}
    (listed : row ∈ reservationKeys (startPass state now).db.reservations) {registry : Registry}
    (turn : ReservationTurn state.db now pass row registry) :
    Repairs now (Released state.db now) (Open state.db now) pass.claims registry ∧ Repaired state now registry row := by
  cases turn with
  | fenced active held claims =>
    rw [claims] at held ⊢
    exact ⟨repairs_sweep now pass.claims,fun _ => .inl held,fun inactive => absurd active inactive⟩
  | blocked active unheld owner blocked claims =>
    rw [claims] at unheld blocked ⊢
    have step : Repairs now (Released state.db now) (Open state.db now) pass.claims (sweep now pass.claims) :=
      repairs_sweep now pass.claims
    rw [db,start_requests] at blocked
    have lasting := blocked_lasts drift calm (before.trans step) listed active unheld blocked
    exact ⟨step,fun _ => .inr ⟨owner,lasting⟩,fun inactive => absurd active inactive⟩
  | refenced active held repairs =>
    refine ⟨repairs.widen (fun _ none => none.elim) ?_,fun _ => .inl held,fun inactive => absurd active inactive⟩
    rintro sourceId rfl
    exact row_open listed active
  | freed inactive free repairs =>
    refine ⟨repairs.widen ?_ fun _ none => none.elim,fun active => absurd active inactive,fun _ => free⟩
    rintro sourceId rfl
    exact row_released listed inactive

theorem reservationPhase_stage {results : List Unit} (done : (reservationPhase state now).1 = .ok results) :
    Stage state now (reservationKeys (startPass state now).db.reservations) [] [] (reservationPhase state now).2 ∧
    Repairs now (Released state.db now) (Open state.db now) (startPass state now).claims
      (reservationPhase state now).2.claims ∧ (reservationPhase state now).2.db = (startPass state now).db := by
  unfold reservationPhase at done ⊢
  refine Runs.loop_prefix (fun earlier pass => Stage state now earlier [] [] pass ∧
    Repairs now (Released state.db now) (Open state.db now) (startPass state now).claims pass.claims ∧
    pass.db = (startPass state now).db) ?_ ⟨start_stage drift now,.refl _,rfl⟩ done
  rintro earlier row later pass result split ⟨stage,before,db⟩ answered
  have listed : row ∈ reservationKeys (startPass state now).db.reservations := by
    rw [split]
    simp
  obtain ⟨valid,swept,turn⟩ := reconcileReservation_turn stage.valid (drift.row_name listed) answered
  have same := reconcileReservation_db state.db now pass row
  generalize (reconcileReservation state.db now pass row).2 = next at valid swept turn same ⊢
  obtain ⟨step,repaired⟩ := turn.repairs drift calm before db listed
  refine ⟨?_,before.trans step,same.trans db⟩
  refine Stage.reservation (stage.step drift same valid swept step (fun _ => drift.open_stays) ?_) swept listed repaired
  intro job none
  cases none

end

theorem terminalPhase_stage (drift : Drift state) {rows : List ReservationKey} (stage : Stage state now rows [] [] pass)
    (before : Repairs now (Released state.db now) (Open state.db now) (startPass state now).claims pass.claims)
    (db : pass.db = (startPass state now).db) :
    Stage state now rows ((Table.select (fun job => job.status.terminal = true) state.db.jobs).map (·.id)) []
      (terminalPhase now pass) ∧
    Repairs now (Released state.db now) (Open state.db now) (startPass state now).claims (terminalPhase now pass).claims := by
  have jobs : pass.db.jobs = state.db.jobs := by
    rw [db]
    exact congrArg Core.jobs (startPass_core state now)
  unfold terminalPhase
  rw [jobs]
  refine Runs.foldl_prefix (fun earlier pass => Stage state now rows earlier [] pass ∧
    Repairs now (Released state.db now) (Open state.db now) (startPass state now).claims pass.claims) ?_ ⟨stage,before⟩
  rintro earlier id later pass split ⟨stage,before⟩
  have gone : Released state.db now (jobSource id) := by
    have listed : id ∈ (Table.select (fun job => job.status.terminal = true) state.db.jobs).map (·.id) := by
      rw [split]
      simp
    obtain ⟨job,chosen,rfl⟩ := List.mem_map.mp listed
    obtain ⟨member,terminal⟩ := Table.mem_select.mp chosen
    exact .inr ⟨job,member,terminal,rfl⟩
  obtain ⟨same,valid,swept,free,repairs⟩ := reconcileFinished_turn stage.valid id
  generalize reconcileFinished now pass id = next at same valid swept free repairs ⊢
  have step : Repairs now (Released state.db now) (Open state.db now) pass.claims next.claims := by
    refine repairs.widen ?_ fun _ none => none.elim
    rintro sourceId rfl
    exact gone
  have kept : Stage state now rows earlier [] next := by
    refine stage.step drift same valid swept step (fun _ => drift.open_stays) ?_
    intro job none
    cases none
  refine ⟨⟨kept.db,kept.valid,fun _ => swept,kept.reservations,?_,kept.active,kept.failed⟩,before.trans step⟩
  intro other member
  rcases List.mem_append.mp member with old | new
  · exact kept.finished other old
  · rw [List.mem_singleton.mp new]
    exact ⟨gone,free⟩

def Taken (db : Db) (now : Nat) (jobs : List Job) (sourceId : String) : Prop :=
  Open db now sourceId ∨ ∃ job ∈ jobs, sourceId = jobSource job.id

theorem Taken.own {db : Db} {jobs : List Job} {jobId : String} (taken : Taken db now jobs (jobSource jobId)) :
    ∃ job ∈ jobs, job.id = jobId := by
  rcases taken with ⟨item,_,_,same⟩ | ⟨job,member,same⟩
  · exact absurd same (jobSource_ne _ _)
  · exact ⟨job,member,(jobSource_inj same).symm⟩

theorem Stage.leases {rows : List ReservationKey} {ids : List String} {jobs : List Job}
    (stage : Stage state now rows ids jobs pass) : pass.db.leases = state.db.leases := by
  rw [stage.db]
  exact congrArg Core.leases (startPass_core state now)

theorem refenceKeys_nil {db : Db} {jobId : String} (none : leasedDevices db.leases jobId = []) : refenceKeys db jobId = [] := by
  unfold refenceKeys jobRequests
  rw [none]
  rfl

theorem mem_unfenced {jobs : List Job} {jobId : String} {row : Job}
    (member : row ∈ Table.update (fun row => row.id = jobId ∧ row.status.occupied = true) (unfenced now) jobs) :
    row ∈ jobs ∧ ¬ (row.id = jobId ∧ row.status.occupied = true) ∨ row.status.terminal = true ∧ row.id = jobId := by
  obtain ⟨old,present,rfl⟩ := Table.mem_update.mp member
  by_cases chosen : old.id = jobId ∧ old.status.occupied = true
  · rw [if_pos chosen]
    exact .inr ⟨rfl,chosen.1⟩
  · rw [if_neg chosen]
    exact .inl ⟨present,chosen⟩

theorem Stage.job {rows : List ReservationKey} {ids : List String} {jobs : List Job}
    (stage : Stage state now rows ids jobs next) (swept : Swept now next.claims) {job : Job} (member : job ∈ state.db.jobs)
    (busy : job.status.occupied = true) (fenced : job ∈ next.db.jobs → Fenced state now next.claims job) :
    Stage state now rows ids (jobs++[job]) next := by
  refine ⟨stage.db,stage.valid,fun _ => swept,stage.reservations,stage.finished,?_,?_⟩
  · intro other inside
    rcases List.mem_append.mp inside with old | new
    · exact stage.active other old
    · rw [List.mem_singleton.mp new]
      exact ⟨member,busy,fenced⟩
  · intro row present
    rcases stage.failed row present with old | ⟨terminal,free,other,inside,same⟩
    · exact .inl old
    · exact .inr ⟨terminal,free,other,List.mem_append_left _ inside,same⟩

theorem Stage.fail {rows : List ReservationKey} {ids : List String} {jobs : List Job} {job : Job}
    (stage : Stage state now rows ids jobs pass) (swept : Swept now pass.claims) (member : job ∈ state.db.jobs)
    (busy : job.status.occupied = true) (free : ¬ HeldBy now pass.claims (jobSource job.id))
    (claims : next.claims = pass.claims) (db : next.db = {pass.db with
      jobs := Table.update (fun row => row.id = job.id ∧ row.status.occupied = true) (unfenced now) pass.db.jobs}) :
    Stage state now rows ids (jobs++[job]) next := by
  have failed : ∀ row ∈ next.db.jobs, row ∈ pass.db.jobs ∧ ¬ (row.id = job.id ∧ row.status.occupied = true) ∨
      row.status.terminal = true ∧ row.id = job.id := by
    intro row present
    rw [db] at present
    exact mem_unfenced present
  have kept : Stage state now rows ids jobs {next with db := pass.db} := by
    refine ⟨stage.db,?_,?_,?_,?_,?_,?_⟩
    all_goals
      dsimp only
      rw [claims]
    · exact stage.valid
    · exact stage.swept
    · exact stage.reservations
    · exact stage.finished
    · exact stage.active
    · exact stage.failed
  rw [← claims] at swept free
  refine ⟨by rw [db,stage.db],kept.valid,fun _ => swept,kept.reservations,kept.finished,?_,?_⟩
  · intro other inside
    rcases List.mem_append.mp inside with old | new
    · obtain ⟨stored,alive,fenced⟩ := kept.active other old
      refine ⟨stored,alive,fun present => ?_⟩
      rcases failed other present with ⟨there,_⟩ | ⟨terminal,_⟩
      · exact fenced there
      · rw [JobStatus.occupied_live alive] at terminal
        cases terminal
    · rw [List.mem_singleton.mp new]
      refine ⟨member,busy,fun present => ?_⟩
      rcases failed job present with ⟨_,untouched⟩ | ⟨terminal,_⟩
      · exact absurd ⟨rfl,busy⟩ untouched
      · rw [JobStatus.occupied_live busy] at terminal
        cases terminal
  · intro row present
    rcases failed row present with ⟨there,_⟩ | ⟨terminal,same⟩
    · rcases kept.failed row there with old | ⟨terminal,lost,other,inside,same⟩
      · exact .inl old
      · exact .inr ⟨terminal,lost,other,List.mem_append_left _ inside,same⟩
    · exact .inr ⟨terminal,by rw [same]; exact free,job,by simp,same.symm⟩

theorem JobTurn.stage (drift : Drift state) {rows : List ReservationKey} {ids : List String} {earlier : List Job}
    (stage : Stage state now rows ids earlier pass)
    (before : Repairs now (Released state.db now) (Taken state.db now earlier) (startPass state now).claims pass.claims)
    {job : Job} (member : job ∈ state.db.jobs) (busy : job.status.occupied = true)
    (distinct : ∀ other ∈ earlier, other.id ≠ job.id) (valid : next.claims.Valid) (swept : Swept now next.claims)
    (turn : JobTurn state.db now pass job next) : Stage state now rows ids (earlier++[job]) next ∧
      Repairs now (Released state.db now) (Taken state.db now (earlier++[job])) pass.claims next.claims := by
  have leases := stage.leases
  cases turn with
  | skipped fenced db claims =>
    have step : Repairs now (Released state.db now) (fun _ => False) pass.claims next.claims := by
      rw [claims]
      exact repairs_sweep now pass.claims
    refine ⟨?_,step.widen (fun _ gone => gone) fun _ none => none.elim⟩
    refine Stage.job (stage.step drift db valid swept step (fun _ none => none.elim) fun _ _ none => none)
      swept member busy fun _ => ⟨?_,?_⟩
    · rw [claims,← leases]
      exact fenced.imp_left held_sweep.mpr
    · intro unheld key asked
      -- A claim found at this turn was there before the pass, since no earlier turn is of this job.
      rcases fenced with held | none
      · obtain ⟨_,start,_⟩ := startPass_repairs drift now
        refine absurd (start.held_before (fun none => none) (before.held_before ?_ held)) unheld
        intro taken
        obtain ⟨other,inside,same⟩ := taken.own
        exact distinct other inside same
      · rw [leases] at none
        rw [refenceKeys_nil none] at asked
        cases asked
  | refenced unheld db repairs held holds =>
    have step : Repairs now (Released state.db now) (fun sourceId => sourceId = jobSource job.id) pass.claims next.claims :=
      repairs.widen (fun _ none => none.elim) fun _ own => own
    rw [leases] at holds
    refine ⟨?_,step.widen (fun _ gone => gone) ?_⟩
    · refine Stage.job (stage.step drift db valid swept step ?_ ?_) swept member busy
        fun _ => ⟨.inl held,fun _ => holds⟩
      · rintro sourceId rfl
        exact drift.job_stays member (JobStatus.occupied_live busy)
      · exact fun other inside own => distinct other inside (jobSource_inj own)
    · rintro sourceId rfl
      exact .inr ⟨job,by simp,rfl⟩
  | failed unheld db claims =>
    have step : Repairs now (Released state.db now) (fun _ => False) pass.claims next.claims := by
      rw [claims]
      exact repairs_sweep now pass.claims
    refine ⟨?_,step.widen (fun _ gone => gone) fun _ none => none.elim⟩
    have read : Stage state now rows ids earlier {pass with claims := next.claims} :=
      stage.step drift rfl valid swept step (fun _ none => none.elim) fun _ _ none => none
    refine read.fail swept member busy ?_ rfl db
    dsimp only
    rw [claims]
    exact mt held_sweep.mp unheld

theorem activePhase_stage {settings : Settings} (drift : Drift state) {rows : List ReservationKey} {ids : List String}
    (stage : Stage state now rows ids [] pass)
    (before : Repairs now (Released state.db now) (Open state.db now) (startPass state now).claims pass.claims)
    (jobs : pass.db.jobs = state.db.jobs) {results : List Unit}
    (done : (activePhase settings state.db now pass).1 = .ok results) :
    Stage state now rows ids (Table.select (fun job => job.status.occupied = true) state.db.jobs)
      (activePhase settings state.db now pass).2 ∧
    Repairs now (Released state.db now)
      (Taken state.db now (Table.select (fun job => job.status.occupied = true) state.db.jobs))
      (startPass state now).claims (activePhase settings state.db now pass).2.claims := by
  unfold activePhase at done ⊢
  rw [jobs] at done ⊢
  refine Runs.loop_prefix (fun earlier pass => Stage state now rows ids earlier pass ∧
    Repairs now (Released state.db now) (Taken state.db now earlier) (startPass state now).claims pass.claims) ?_
    ⟨stage,before.widen (fun _ gone => gone) fun _ lasting => .inl lasting⟩ done
  rintro earlier job later pass result split ⟨stage,before⟩ answered
  have listed : job ∈ Table.select (fun job => job.status.occupied = true) state.db.jobs := by
    rw [split]
    simp
  obtain ⟨member,busy⟩ := Table.mem_select.mp listed
  have ids : ((Table.select (fun job => job.status.occupied = true) state.db.jobs).map (·.id)).Nodup :=
    drift.jobIds.sublist (List.filter_sublist.map _)
  rw [split,List.map_append,List.nodup_append] at ids
  have distinct : ∀ other ∈ earlier, other.id ≠ job.id :=
    fun other inside => ids.2.2 _ (List.mem_map_of_mem inside) _ (by simp)
  obtain ⟨valid,swept,turn⟩ := reconcileActive_turn stage.valid (drift.jobNames job member) answered
  generalize (reconcileActive settings state.db now pass job).2 = next at valid swept turn ⊢
  obtain ⟨further,step⟩ := turn.stage drift stage before member busy distinct valid swept
  refine ⟨further,Repairs.trans (before.widen (fun _ gone => gone) ?_) step⟩
  rintro sourceId (lasting | ⟨other,inside,same⟩)
  · exact .inl lasting
  · exact .inr ⟨other,List.mem_append_left _ inside,same⟩

end stages

section again
variable {settings : Settings} {committed : Db} {now : Nat} {pass : Pass}

theorem reconcileReservation_idle (swept : Swept now pass.claims) {row : ReservationKey} {stays : String → Prop}
    (name : strip (reservationSource row.reservationId) = reservationSource row.reservationId)
    (active : row.status = .active → HeldBy now pass.claims (reservationSource row.reservationId) ∨
      strip row.ownerId ≠ "" ∧ Blocked now pass.claims (claimDevices committed row.workerId ((Table.select
        (fun item => item.reservationId = row.reservationId) pass.db.reservations).map (·.deviceId))) stays)
    (inactive : row.status ≠ .active → ¬ HeldBy now pass.claims (reservationSource row.reservationId)) :
    reconcileReservation committed now pass row = (.ok (),pass) := by
  have empty := @listBySource_nil now pass.claims (reservationSource row.reservationId)
  unfold reconcileReservation sourceClaims
  dsimp only
  rw [listBySource_eq,swept.sweep_eq]
  split
  · rename_i lost
    have unheld := empty.mp lost.2
    obtain ⟨owner,blocked⟩ := (active lost.1).resolve_left unheld
    obtain ⟨held,refused⟩ := @acquire_blocked now pass.claims _
      ⟨row.ownerId,row.ownerId,"cluster-reservation",reservationSource row.reservationId,6*60*60,true⟩ now _ owner
      (by rw [name]; exact append_ne_empty _ _ (by decide)) blocked (by rw [name]; exact unheld)
    rw [refused]
    rfl
  · split
    · rename_i ghost
      exact absurd (empty.mpr (inactive ghost.1)) ghost.2
    · rfl

theorem reconcileFinished_idle (swept : Swept now pass.claims) {jobId : String}
    (free : ¬ HeldBy now pass.claims (jobSource jobId)) : reconcileFinished now pass jobId = pass := by
  unfold reconcileFinished sourceClaims
  dsimp only
  rw [listBySource_eq,swept.sweep_eq,if_pos (listBySource_nil.mpr free)]

theorem reconcileActive_idle (swept : Swept now pass.claims) {job : Job}
    (fenced : HeldBy now pass.claims (jobSource job.id) ∨ leasedDevices pass.db.leases job.id = []) :
    reconcileActive settings committed now pass job = (.ok (),pass) := by
  unfold reconcileActive sourceClaims
  dsimp only
  rw [listBySource_eq,swept.sweep_eq,if_pos]
  exact fenced.imp_left fun held none => listBySource_nil.mp none held

theorem reconcileClaims_idle {state : State} (start : startPass state now = ⟨state.db,state.claims,{}⟩)
    (reservations : ∀ row ∈ reservationKeys state.db.reservations,
      reconcileReservation state.db now (startPass state now) row = (.ok (),startPass state now))
    (finished : ∀ job ∈ state.db.jobs, job.status.terminal = true →
      reconcileFinished now (startPass state now) job.id = startPass state now)
    (active : ∀ job ∈ state.db.jobs, job.status.occupied = true →
      reconcileActive settings state.db now (startPass state now) job = (.ok (),startPass state now)) :
    reconcileClaims settings state now = (.ok {},state) := by
  have jobs : (startPass state now).db.jobs = state.db.jobs := by rw [start]
  obtain ⟨_,first⟩ := Runs.loop_idle fun row listed => ⟨(),reservations row listed⟩
  have second : terminalPhase now (startPass state now) = startPass state now := by
    unfold terminalPhase
    rw [jobs]
    refine Runs.foldl_prefix (fun _ pass => pass = startPass state now) ?_ rfl
    rintro earlier id later pass split rfl
    have listed : id ∈ (Table.select (fun job => job.status.terminal = true) state.db.jobs).map (·.id) := by
      rw [split]
      simp
    obtain ⟨job,chosen,rfl⟩ := List.mem_map.mp listed
    obtain ⟨member,terminal⟩ := Table.mem_select.mp chosen
    exact finished job member terminal
  have third : ∃ results, activePhase settings state.db now (startPass state now) = (.ok results,startPass state now) := by
    unfold activePhase
    rw [jobs]
    refine Runs.loop_idle fun job listed => ?_
    obtain ⟨member,busy⟩ := Table.mem_select.mp listed
    exact ⟨(),active job member busy⟩
  obtain ⟨_,third⟩ := third
  unfold reconcileClaims reservationPhase
  dsimp only
  rw [show (startPass state now).db.reservations = state.db.reservations by rw [start],first]
  dsimp only
  rw [second,third]
  dsimp only
  rw [start]

end again

end GmsRemoteTest.Cluster
