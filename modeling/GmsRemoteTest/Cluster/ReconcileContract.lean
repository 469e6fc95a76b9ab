import GmsRemoteTest.Cluster.RepairPass

/-! The reconciliation contract: after a pass ended reservations and finished jobs hold nothing, unfinished jobs are
fenced, and another pass finds nothing to do. It holds where no job is half fenced and no ghost claim is all that blocks
a reservation. -/
namespace GmsRemoteTest.Cluster
open DeviceClaims Text

def boundDevices (leases : List Lease) (jobId : String) : List String :=
  fromkeys ((Table.select (fun lease => lease.jobId = jobId ∧ lease.status.live = true) leases).map (·.deviceId))

def jobKeys (db : Db) (jobId : String) : List String :=
  (jobRequests db (boundDevices db.leases jobId)).map (·.deviceKey)

structure Reconciled (settings : Settings) (now : Nat) (state : State) : Prop where
  reservations : ∀ item ∈ state.db.reservations, item.status ≠ .active →
    ¬ HeldBy now state.claims (reservationSource item.reservationId)
  finished : ∀ job ∈ state.db.jobs, job.status.terminal = true → ¬ HeldBy now state.claims (jobSource job.id)
  fenced : ∀ job ∈ state.db.jobs, job.status.terminal = false →
    ∀ key ∈ jobKeys state.db job.id, HoldsKey now state.claims (jobSource job.id) key
  stable : reconcileClaims settings state now = (.ok {},state)

def Recoverable (state : State) (now : Nat) (job : Job) : Prop :=
  (∀ key ∈ jobKeys state.db job.id, HoldsKey now state.claims (jobSource job.id) key) ∨
    job.status.occupied = true ∧ ¬ HeldBy now state.claims (jobSource job.id) ∧
      ∀ key ∈ jobKeys state.db job.id, key ∈ refenceKeys state.db job.id

instance (state : State) (now : Nat) : DecidablePred (Recoverable state now) := fun job => inferInstanceAs (Decidable
  ((∀ key ∈ jobKeys state.db job.id, HoldsKey now state.claims (jobSource job.id) key) ∨
    job.status.occupied = true ∧ ¬ HeldBy now state.claims (jobSource job.id) ∧
      ∀ key ∈ jobKeys state.db job.id, key ∈ refenceKeys state.db job.id))

structure Reconcilable (state : State) (now : Nat) : Prop where
  jobs : ∀ job ∈ state.db.jobs, job.status.terminal = false → Recoverable state now job
  reservations : ∀ item ∈ state.db.reservations, ¬ ended now item → ¬ Haunted state now item

section contract
variable {settings : Settings} {state after : State} {now : Nat} {stats : Stats}

theorem returned_stage (drift : Drift state) (ready : Reconcilable state now)
    (returned : reconcileClaims settings state now = (.ok stats,after)) :
    ∃ pass : Pass, after = ⟨pass.db,pass.claims⟩ ∧
      Stage state now (reservationKeys (startPass state now).db.reservations)
        ((Table.select (fun job => job.status.terminal = true) state.db.jobs).map (·.id))
        (Table.select (fun job => job.status.occupied = true) state.db.jobs) pass ∧
      Repairs now (Released state.db now)
        (Taken state.db now (Table.select (fun job => job.status.occupied = true) state.db.jobs)) state.claims pass.claims := by
  obtain ⟨_,start,_⟩ := startPass_repairs drift now
  have first := @reservationPhase_stage state now drift ready.reservations
  unfold reconcileClaims at returned
  generalize reservationPhase state now = reserved at first returned
  obtain ⟨answer,pass⟩ := reserved
  cases answer with
  | error error => cases returned
  | ok finished =>
    dsimp only at first returned
    obtain ⟨stage,before,db⟩ := first rfl
    obtain ⟨further,later⟩ := terminalPhase_stage drift stage before db
    have jobs : (terminalPhase now pass).db.jobs = state.db.jobs := by
      rw [terminalPhase_db,db]
      exact congrArg Core.jobs (startPass_core state now)
    have third := @activePhase_stage state now (terminalPhase now pass) settings drift _ _ further later jobs
    generalize activePhase settings state.db now (terminalPhase now pass) = ended at third returned
    obtain ⟨answer,done⟩ := ended
    cases answer with
    | error error => cases returned
    | ok results =>
      cases returned
      obtain ⟨final,repairs⟩ := third rfl
      exact ⟨done,rfl,final,Repairs.trans (start.widen (fun _ gone => gone) fun _ none => none.elim) repairs⟩

theorem startPass_idle (none : ∀ item ∈ state.db.reservations, ¬ (item.status = .active ∧ item.expiresAt ≤ now)) :
    startPass state now = ⟨state.db,state.claims,{}⟩ := by
  unfold startPass expireDeviceReservations
  dsimp only
  rw [if_pos (Table.select_eq_nil.mpr none)]

section
variable {rows : List ReservationKey} {ids : List String} {jobs : List Job} {pass : Pass}
  (stage : Stage state now rows ids jobs pass)
include stage

theorem Stage.reservations_eq : pass.db.reservations = (startPass state now).db.reservations := by
  rw [stage.db]

theorem Stage.claimDevices_eq (workerId : String) (names : List String) :
    claimDevices pass.db workerId names = claimDevices state.db workerId names := by
  rw [stage.db]
  exact startPass_claimDevices state now workerId names

theorem Stage.jobKeys_eq (jobId : String) : jobKeys pass.db jobId = jobKeys state.db jobId := by
  unfold jobKeys jobRequests
  rw [stage.claimDevices_eq,stage.leases]

theorem Stage.nothing_due : startPass ⟨pass.db,pass.claims⟩ now = ⟨pass.db,pass.claims,{}⟩ := by
  apply startPass_idle
  rintro item member ⟨active,late⟩
  dsimp only at member
  rw [stage.reservations_eq,startPass_reservations] at member
  obtain ⟨old,_,rfl⟩ := Table.mem_update.mp member
  by_cases due : old.status = .active ∧ old.expiresAt ≤ now
  · rw [if_pos due] at active
    cases active
  · rw [if_neg due] at active late
    exact due ⟨active,late⟩

end

theorem Drift.reconciled (drift : Drift state) (ready : Reconcilable state now)
    (returned : reconcileClaims settings state now = (.ok stats,after)) : Reconciled settings now after := by
  obtain ⟨pass,rfl,stage,repairs⟩ := returned_stage drift ready returned
  have finished : ∀ job ∈ pass.db.jobs, job.status.terminal = true → ¬ HeldBy now pass.claims (jobSource job.id) := by
    intro job member terminal
    rcases stage.failed job member with old | ⟨_,free,_⟩
    · exact (stage.finished job.id (List.mem_map_of_mem (Table.mem_select.mpr ⟨old,terminal⟩))).2
    · exact free
  have stored : ∀ job ∈ pass.db.jobs, job.status.terminal = false → job ∈ state.db.jobs := by
    intro job member unfinished
    rcases stage.failed job member with old | ⟨terminal,_⟩
    · exact old
    · rw [unfinished] at terminal
      cases terminal
  have fenced : ∀ job ∈ pass.db.jobs, job.status.occupied = true → Fenced state now pass.claims job := by
    intro job member busy
    have old := stored job member (JobStatus.occupied_live busy)
    exact (stage.active job (Table.mem_select.mpr ⟨old,busy⟩)).2.2 member
  constructor
  · intro item member inactive
    have listed : (⟨item.reservationId,item.workerId,item.ownerId,item.status⟩ : ReservationKey) ∈
        reservationKeys (startPass state now).db.reservations := by
      rw [← stage.reservations_eq]
      exact mem_reservationKeys.mpr ⟨item,member,rfl⟩
    exact (stage.reservations _ listed).2.inactive inactive
  · exact finished
  · intro job member unfinished key asked
    rw [stage.jobKeys_eq] at asked
    have old := stored job member unfinished
    rcases ready.jobs job old unfinished with held | ⟨busy,unheld,covered⟩
    · exact repairs.holds (drift.job_stays old unfinished) (held key asked)
    · exact (fenced job member busy).keys unheld key (covered key asked)
  · have start := stage.nothing_due
    refine reconcileClaims_idle start ?_ ?_ ?_
    all_goals rw [start]
    · intro row listed
      dsimp only at listed
      rw [stage.reservations_eq] at listed
      have repaired := (stage.reservations row listed).2
      apply reconcileReservation_idle
      · exact stage.swept (.inl (List.ne_nil_of_mem listed))
      · exact drift.row_name listed
      · dsimp only
        rw [stage.claimDevices_eq,stage.reservations_eq,start_requests]
        exact repaired.active
      · exact repaired.inactive
    · intro job member terminal
      apply reconcileFinished_idle
      · rcases stage.failed job member with old | ⟨_,_,other,inside,_⟩
        · exact stage.swept (.inr (.inl (List.ne_nil_of_mem (List.mem_map_of_mem (Table.mem_select.mpr ⟨old,terminal⟩)))))
        · exact stage.swept (.inr (.inr (List.ne_nil_of_mem inside)))
      · exact finished job member terminal
    · intro job member busy
      have old := stored job member (JobStatus.occupied_live busy)
      apply reconcileActive_idle
      · exact stage.swept (.inr (.inr (List.ne_nil_of_mem (Table.mem_select.mpr ⟨old,busy⟩))))
      · dsimp only
        rw [stage.leases]
        exact (fenced job member busy).held

theorem reached_drift (reached : Reached settings drawn state) {claims : Registry} (valid : claims.Valid) :
    Drift ⟨state.db,claims⟩ := by
  obtain ⟨linked,named,consistent⟩ := drawn_reached reached
  refine ⟨valid,linked.jobIds,consistent.alike,?_,?_⟩
  · intro job member
    exact (Solid.append (by decide) (named job member)).strip_eq
  · intro item member
    exact (Solid.append (by decide) (consistent.names item member)).strip_eq

end contract

end GmsRemoteTest.Cluster
