import GmsRemoteTest.Foundation.ClaimRenewal
import GmsRemoteTest.Cluster.ClaimHistory
import GmsRemoteTest.Cluster.RepairPass

/-! What a heartbeat makes of the claims of the attempts it reports. A renewal compares the claims a
job holds with the keys the inventory at hand gives for its leases. -/
namespace GmsRemoteTest.Cluster
open DeviceClaims Text JobStatus

/-- The job holds every key the inventory gives for the devices it leases, and it leases one. -/
def Covered (devices : List Device) (now : Nat) (registry : Registry) (jobId ownerId : String) (deviceIds : List String) : Prop :=
  fromkeys (deviceIds.filter (· ≠ "")) ≠ [] ∧
    ∀ key ∈ fullKeys devices (fromkeys (deviceIds.filter (· ≠ ""))), Keeps now registry (jobSource jobId) ownerId key

instance (devices : List Device) (now : Nat) (registry : Registry) (jobId ownerId : String) (deviceIds : List String) :
    Decidable (Covered devices now registry jobId ownerId deviceIds) :=
  inferInstanceAs (Decidable (_ ≠ [] ∧ ∀ key ∈ fullKeys devices (fromkeys (deviceIds.filter (· ≠ ""))), _))

section
variable {settings : Settings} {devices : List Device} {registry : Registry} {jobId ownerId : String} {deviceIds : List String} {now : Nat}

theorem sweep_sweep (now : Nat) (registry : Registry) : sweep now (sweep now registry) = sweep now registry :=
  (sweep_swept now registry).sweep_eq

theorem activeClaims_eq (registry : Registry) (now : Nat) (keys : List String) :
    (activeClaims registry now keys).1 = keys.map (activeRow (expire now registry.rows)) ∧
      sweep now (activeClaims registry now keys).2 = sweep now registry := by
  induction keys generalizing registry with
  | nil => exact ⟨rfl,rfl⟩
  | cons key keys ih =>
    obtain ⟨records,table⟩ := ih (sweep now registry)
    have same : expire now (sweep now registry).rows = expire now registry.rows := congrArg Registry.rows (sweep_sweep now registry)
    rw [same] at records
    refine ⟨?_,?_⟩
    · change activeRow (expire now registry.rows) key :: (activeClaims (sweep now registry) now keys).1 = _
      rw [records]
      rfl
    · change sweep now (activeClaims (sweep now registry) now keys).2 = _
      rw [table,sweep_sweep]

theorem renew_sweep {first second : Registry} (same : sweep now first = sweep now second) (sourceId : String) (ttl : Int) :
    renew first sourceId ttl [] now now = renew second sourceId ttl [] now now := by
  have rows : expire now first.rows = expire now second.rows := congrArg Registry.rows same
  have uuid : (sweep now first).uuid = (sweep now second).uuid := congrArg Registry.uuid same
  change first.uuid = second.uuid at uuid
  unfold renew
  dsimp only
  rw [rows,uuid]

theorem fullKeys_nodup (devices : List Device) (deviceIds : List String) : (fullKeys devices deviceIds).Nodup :=
  sorted_nodup (fromkeys_nodup _)

theorem renewJobDeviceClaim_repairs : Repairs now (· = jobSource jobId) (· = jobSource jobId) registry
    (renewJobDeviceClaim settings devices registry jobId ownerId deviceIds now).2 := by
  have read : ∀ keys, Repairs now (· = jobSource jobId) (· = jobSource jobId) registry (activeClaims registry now keys).2 := by
    intro keys
    induction keys generalizing registry with
    | nil => exact .refl registry
    | cons key keys ih => exact (repairs_sweep now registry).trans ih
  unfold renewJobDeviceClaim
  dsimp only
  split
  · exact .refl registry
  split
  · exact read _
  split
  · exact read _
  · exact (read _).trans (renew_repairs _ _ _ _)

theorem renewJobDeviceClaim_covered (valid : registry.Valid) :
    (renewJobDeviceClaim settings devices registry jobId ownerId deviceIds now).1 = true ↔
      Covered devices now registry jobId ownerId deviceIds := by
  unfold renewJobDeviceClaim Covered
  dsimp only
  generalize fromkeys (deviceIds.filter (· ≠ "")) = expected
  obtain ⟨records,table⟩ := activeClaims_eq registry now (fullKeys devices expected)
  rw [records]
  by_cases empty : expected = []
  · rw [if_pos empty]
    simp [empty]
  rw [if_neg empty]
  have keeps : ∀ key, Keeps now registry (jobSource jobId) ownerId key ↔ ∃ row, activeRow (expire now registry.rows) key = some row ∧
      row.sourceId = jobSource jobId ∧ row.ownerId = ownerId := fun key => keeps_activeRow valid
  split
  · rename_i missing
    simp only [Bool.false_eq_true,false_iff,not_and]
    intro _ covered
    obtain ⟨record,listed,rfl⟩ := missing
    obtain ⟨key,member,vacant⟩ := List.mem_map.mp listed
    obtain ⟨row,found,-⟩ := (keeps key).mp (covered key member)
    rw [vacant] at found
    cases found
  rename_i complete
  split
  · rename_i foreign
    simp only [Bool.false_eq_true,false_iff,not_and]
    intro _ covered
    obtain ⟨record,listed,other⟩ := foreign
    rw [List.mem_filterMap] at listed
    obtain ⟨entry,there,same⟩ := listed
    obtain ⟨key,member,found⟩ := List.mem_map.mp there
    obtain ⟨row,fetched,source,owner⟩ := (keeps key).mp (covered key member)
    rw [← found,fetched] at same
    cases same
    rcases other with wrong | wrong
    · exact wrong source
    · exact wrong owner
  · rename_i own
    have covered : ∀ key ∈ fullKeys devices expected, Keeps now registry (jobSource jobId) ownerId key := by
      intro key member
      rw [keeps]
      cases found : activeRow (expire now registry.rows) key with
      | none => exact absurd ⟨none,List.mem_map.mpr ⟨key,member,found⟩,rfl⟩ complete
      | some row =>
        have listed : row ∈ ((fullKeys devices expected).map (activeRow (expire now registry.rows))).filterMap id :=
          List.mem_filterMap.mpr ⟨some row,List.mem_map.mpr ⟨key,member,found⟩,rfl⟩
        refine ⟨row,rfl,?_,?_⟩
        · by_contra wrong
          exact own ⟨row,listed,.inl wrong⟩
        · by_contra wrong
          exact own ⟨row,listed,.inr wrong⟩
    have counted : (fullKeys devices expected).length ≤
        (renew (activeClaims registry now (fullKeys devices expected)).2 (jobSource jobId) settings.claimLeaseTtlSeconds [] now now).1 := by
      rw [renew_sweep table]
      exact renew_counts (fullKeys_nodup devices expected) covered
    rw [decide_eq_true counted]
    exact ⟨fun _ => ⟨empty,covered⟩,fun _ => rfl⟩

theorem renewJobDeviceClaim_renews (renewed : (renewJobDeviceClaim settings devices registry jobId ownerId deviceIds now).1 = true) :
    ∃ table, sweep now table = sweep now registry ∧ (renewJobDeviceClaim settings devices registry jobId ownerId deviceIds now).2 =
      (renew table (jobSource jobId) settings.claimLeaseTtlSeconds [] now now).2 := by
  unfold renewJobDeviceClaim at renewed ⊢
  dsimp only at renewed ⊢
  split at renewed
  · cases renewed
  rename_i some
  rw [if_neg some]
  split at renewed
  · cases renewed
  rename_i complete
  rw [if_neg complete]
  split at renewed
  · cases renewed
  rename_i own
  rw [if_neg own]
  exact ⟨_,(activeClaims_eq _ _ _).2,rfl⟩

theorem keeps_sweep {first second : Registry} (same : sweep now first = sweep now second) {sourceId key : String} :
    Keeps now first sourceId ownerId key ↔ Keeps now second sourceId ownerId key := by
  have rows : ∀ row, DeviceClaims.Current now row → (row ∈ first.rows ↔ row ∈ second.rows) := by
    intro row current
    constructor
    · intro member
      have listed := (mem_sweep.mpr ⟨member,current⟩).1
      rw [same] at listed
      exact (mem_sweep.mp ⟨listed,current.1⟩).1
    · intro member
      have listed := (mem_sweep.mpr ⟨member,current⟩).1
      rw [← same] at listed
      exact (mem_sweep.mp ⟨listed,current.1⟩).1
  constructor
  · rintro ⟨row,member,current,rest⟩
    exact ⟨row,(rows row current).mp member,current,rest⟩
  · rintro ⟨row,member,current,rest⟩
    exact ⟨row,(rows row current).mpr member,current,rest⟩

theorem renewJobDeviceClaim_keeps (renewed : (renewJobDeviceClaim settings devices registry jobId ownerId deviceIds now).1 = true)
    (key : String) :
    (Keeps now (renewJobDeviceClaim settings devices registry jobId ownerId deviceIds now).2 (jobSource jobId) ownerId key ↔
      Keeps now registry (jobSource jobId) ownerId key) ∧
    (Keeps now registry (jobSource jobId) ownerId key → KeepsUntil (expiresAt now settings.claimLeaseTtlSeconds) now
      (renewJobDeviceClaim settings devices registry jobId ownerId deviceIds now).2 (jobSource jobId) ownerId key) := by
  obtain ⟨table,same,after⟩ := renewJobDeviceClaim_renews renewed
  rw [after]
  refine ⟨renew_keeps_iff.trans (keeps_sweep same),?_⟩
  intro keeps
  exact renew_keepsUntil ((keeps_sweep same).mpr keeps)

end

structure Watch where
  workerId : String
  attemptId : String
  jobId : String
  ownerId : String
  now : Nat
deriving DecidableEq, Repr

/-- The attempt and its job are there, with the leases they had, and nothing has failed the job since `before`. -/
structure Tracked (watch : Watch) (before core : Core) : Prop where
  linked : Linked core
  attempt : ∃ attempt ∈ core.attempts, attempt.id = watch.attemptId ∧ attempt.workerId = watch.workerId ∧ attempt.jobId = watch.jobId
  job : ∃ job ∈ core.jobs, job.id = watch.jobId ∧ job.ownerId = watch.ownerId
  leases : liveDevices core.leases watch.attemptId = liveDevices before.leases watch.attemptId
  failed : ∀ job ∈ core.jobs, job.id = watch.jobId → job.status = .failed → ∃ old ∈ before.jobs, old.id = watch.jobId ∧ old.status = .failed

section
variable {settings : Settings} {watch : Watch} {before core : Core}

section
variable (tracked : Tracked watch before core) {running : RunningJob} {job : Job}
include tracked

theorem Tracked.entry (entry : Entry core watch.workerId running job) (own : running.attemptId = watch.attemptId) :
    job.id = watch.jobId ∧ job.ownerId = watch.ownerId := by
  obtain ⟨attempt,member,named,-,joined⟩ := tracked.attempt
  obtain ⟨other,present,called,-,linked⟩ := entry.attempt
  have same : other = attempt := Table.eq_of_key tracked.linked.attemptIds present member (called.trans (own.trans named.symm))
  subst same
  obtain ⟨row,inside,called,owner⟩ := tracked.job
  have equal : job = row := Table.eq_of_key tracked.linked.jobIds entry.member inside (linked.symm.trans (joined.trans called.symm))
  subst equal
  exact ⟨called,owner⟩

theorem Tracked.other (entry : Entry core watch.workerId running job) (other : running.attemptId ≠ watch.attemptId) : job.id ≠ watch.jobId := by
  intro same
  obtain ⟨attempt,member,named,-,joined⟩ := tracked.attempt
  obtain ⟨row,inside,called,current⟩ := tracked.linked.attemptJob attempt member
  have equal : job = row := Table.eq_of_key tracked.linked.jobIds entry.member inside (same.trans (joined.symm.trans called.symm))
  subst equal
  exact other ((entry.current tracked.linked).symm.trans (current.trans named))

end

theorem liveDevices_update {leases : List Lease} {attemptId : String} {selects : Lease → Prop} [DecidablePred selects] {set : Lease → Lease}
    (kept : ∀ lease, selects lease → lease.attemptId = attemptId → (set lease).status.live = lease.status.live)
    (same : ∀ lease, (set lease).attemptId = lease.attemptId ∧ (set lease).deviceId = lease.deviceId) :
    liveDevices (Table.update selects set leases) attemptId = liveDevices leases attemptId := by
  unfold liveDevices
  induction leases with
  | nil => rfl
  | cons lease leases ih =>
    have first : ((if selects lease then set lease else lease).attemptId = attemptId ∧ (if selects lease then set lease else lease).status.live = true) ↔
        (lease.attemptId = attemptId ∧ lease.status.live = true) := by
      split
      · rename_i chosen
        rw [(same lease).1]
        constructor
        · rintro ⟨own,live⟩
          exact ⟨own,(kept lease chosen own).symm.trans live⟩
        · rintro ⟨own,live⟩
          exact ⟨own,(kept lease chosen own).trans live⟩
      · exact Iff.rfl
    have device : (if selects lease then set lease else lease).deviceId = lease.deviceId := by
      split
      · exact (same lease).2
      · rfl
    change (Table.select _ ((if selects lease then set lease else lease) :: Table.update selects set leases)).map (·.deviceId) =
      (Table.select _ (lease :: leases)).map (·.deviceId)
    unfold Table.select at ih ⊢
    rw [List.filter_cons,List.filter_cons]
    simp only [first]
    split
    · rw [List.map_cons,List.map_cons,device,ih]
    · exact ih

theorem Tracked.rewrite (tracked : Tracked watch before core) {after : Core} (shape : SameShape core after)
    (attempts : Attempt → Attempt) (jobs : Job → Job) (attemptRows : after.attempts = core.attempts.map attempts)
    (jobRows : after.jobs = core.jobs.map jobs)
    (attemptKept : ∀ attempt, (attempts attempt).id = attempt.id ∧ (attempts attempt).workerId = attempt.workerId ∧
      (attempts attempt).jobId = attempt.jobId)
    (jobKept : ∀ job, (jobs job).id = job.id ∧ (jobs job).ownerId = job.ownerId)
    (leases : liveDevices after.leases watch.attemptId = liveDevices core.leases watch.attemptId)
    (failed : ∀ job ∈ core.jobs, job.id = watch.jobId → (jobs job).status = .failed → job.status = .failed) :
    Tracked watch before after := by
  refine ⟨shape.linked tracked.linked,?_,?_,leases.trans tracked.leases,?_⟩
  · obtain ⟨attempt,member,named,worker,joined⟩ := tracked.attempt
    obtain ⟨id,same,job⟩ := attemptKept attempt
    refine ⟨attempts attempt,?_,id.trans named,same.trans worker,job.trans joined⟩
    rw [attemptRows]
    exact List.mem_map_of_mem member
  · obtain ⟨job,member,named,owner⟩ := tracked.job
    obtain ⟨id,same⟩ := jobKept job
    refine ⟨jobs job,?_,id.trans named,same.trans owner⟩
    rw [jobRows]
    exact List.mem_map_of_mem member
  · intro job member named status
    rw [jobRows] at member
    obtain ⟨old,present,rfl⟩ := List.mem_map.mp member
    have same := (jobKept old).1.symm.trans named
    exact tracked.failed old present same (failed old present same status)

theorem beaten_tracked {committed : List Device} {state : State} {running : RunningJob} {after : Core}
    (tracked : Tracked watch before state.db.core)
    (quiet : ∀ job, Entry state.db.core watch.workerId running job → running.attemptId = watch.attemptId →
      ¬ Unrenewable settings committed state job running.attemptId watch.now)
    (beaten : Beaten settings committed state watch.workerId running watch.now after) : Tracked watch before after := by
  have shape := beaten_shape settings beaten
  cases beaten with
  | idle => exact tracked
  | revoked job entry expired =>
    have other : running.attemptId ≠ watch.attemptId := fun own => quiet job entry own expired
    have elsewhere := tracked.other entry other
    have leases : liveDevices (state.db.core.revoke job running.attemptId watch.now).leases watch.attemptId =
        liveDevices state.db.core.leases watch.attemptId :=
      liveDevices_update (fun lease chosen own => absurd (chosen.1.symm.trans own) other) fun _ => ⟨rfl,rfl⟩
    by_cases allowed : Allowed job.status .failed
    · refine tracked.rewrite shape _ (fun row => if row.id = job.id then moved .failed fencingError watch.now row else row) rfl ?_ ?_ ?_
        leases ?_
      · simp only [Core.revoke,if_pos allowed]
        rfl
      · intro attempt
        split <;> exact ⟨rfl,rfl,rfl⟩
      · intro row
        split <;> exact ⟨rfl,rfl⟩
      · intro row member named status
        rw [if_neg fun same => elsewhere (same.symm.trans named)] at status
        exact status
    · refine tracked.rewrite shape _ (fun row => row) rfl ?_ ?_ (fun _ => ⟨rfl,rfl⟩) leases (fun _ _ _ status => status)
      · simp only [Core.revoke,if_neg allowed,List.map_id']
      · intro attempt
        split <;> exact ⟨rfl,rfl,rfl⟩
  | kept job entry renewed elsewhere refused =>
    refine tracked.rewrite shape _ (fun row => row) rfl ?_ ?_ (fun _ => ⟨rfl,rfl⟩) rfl (fun _ _ _ status => status)
    · simp only [Core.beat,List.map_id']
    · intro attempt
      split <;> exact ⟨rfl,rfl,rfl⟩
  | resumed job entry renewed runs =>
    have woken : liveDevices (resumeLeases settings state.db.core.leases watch.workerId running.attemptId watch.now) watch.attemptId =
        liveDevices state.db.core.leases watch.attemptId := by
      refine liveDevices_update ?_ fun _ => ⟨rfl,rfl⟩
      rintro lease ⟨-,-,orphaned⟩ -
      rw [orphaned]
      rfl
    have leases : liveDevices (state.db.core.resume settings job watch.workerId running watch.now).leases watch.attemptId =
        liveDevices state.db.core.leases watch.attemptId := by
      refine Eq.trans ?_ woken
      exact liveDevices_update (fun _ _ _ => rfl) fun _ => ⟨rfl,rfl⟩
    by_cases already : job.status = .running
    · refine tracked.rewrite shape _ (fun row => row) rfl ?_ ?_ (fun _ => ⟨rfl,rfl⟩) leases (fun _ _ _ status => status)
      · simp only [Core.resume,if_pos already,List.map_id']
      · intro attempt
        split <;> exact ⟨rfl,rfl,rfl⟩
    · refine tracked.rewrite shape _ (fun row => if row.id = job.id then moved .running "" watch.now row else row) rfl ?_ ?_ ?_ leases
        ?_
      · simp only [Core.resume,if_neg already]
        rfl
      · intro attempt
        split <;> exact ⟨rfl,rfl,rfl⟩
      · intro row
        split <;> exact ⟨rfl,rfl⟩
      · intro row member named status
        split at status
        · cases status
        · exact status

structure Steady (watch : Watch) (before state : State) : Prop where
  tracked : Tracked watch before.db.core state.db.core
  valid : state.claims.Valid
  keys : ∀ key, Keeps watch.now state.claims (jobSource watch.jobId) watch.ownerId key ↔
    Keeps watch.now before.claims (jobSource watch.jobId) watch.ownerId key

def Watch.Reports (watch : Watch) (running : RunningJob) : Prop := running.external = false ∧ running.attemptId = watch.attemptId

instance (watch : Watch) : DecidablePred watch.Reports :=
  fun running => inferInstanceAs (Decidable (running.external = false ∧ running.attemptId = watch.attemptId))

def Watch.Fenced (watch : Watch) (before : State) : Prop :=
  Covered before.db.devices watch.now before.claims watch.jobId watch.ownerId (liveDevices before.db.leases watch.attemptId)

def Watch.Renewed (settings : Settings) (watch : Watch) (before : State) (registry : Registry) : Prop :=
  ∀ key, Keeps watch.now before.claims (jobSource watch.jobId) watch.ownerId key →
    KeepsUntil (expiresAt watch.now settings.claimLeaseTtlSeconds) watch.now registry (jobSource watch.jobId) watch.ownerId key

end

section
variable {settings : Settings} {watch : Watch} {before state : State} {running : RunningJob}

section
variable (steady : Steady watch before state)
include steady

theorem Steady.fenced {devices : List Device} :
    Covered devices watch.now state.claims watch.jobId watch.ownerId (liveDevices state.db.leases watch.attemptId) ↔
      Covered devices watch.now before.claims watch.jobId watch.ownerId (liveDevices before.db.leases watch.attemptId) := by
  have leases : liveDevices state.db.leases watch.attemptId = liveDevices before.db.leases watch.attemptId := steady.tracked.leases
  unfold Covered
  rw [leases]
  simp only [steady.keys]

theorem Steady.finds : ∃ job, entryJob state.db watch.workerId watch.attemptId = some job ∧
    job.id = watch.jobId ∧ job.ownerId = watch.ownerId := by
  obtain ⟨attempt,member,named,worker,joined⟩ := steady.tracked.attempt
  obtain ⟨row,inside,called,owner⟩ := steady.tracked.job
  change attempt ∈ state.db.attempts at member
  change row ∈ state.db.jobs at inside
  obtain ⟨found,fetched⟩ := Table.fetch_isSome
    (fun attempt : Attempt => attempt.id = watch.attemptId ∧ attempt.workerId = watch.workerId) member ⟨named,worker⟩
  have selected := Table.fetch_selects fetched
  have same : found = attempt :=
    Table.eq_of_key steady.tracked.linked.attemptIds (Table.fetch_mem fetched) member (selected.1.trans named.symm)
  obtain ⟨job,listed⟩ := Table.fetch_isSome (fun job : Job => job.id = found.jobId) inside (by rw [same,joined,called])
  have entry : entryJob state.db watch.workerId watch.attemptId = some job := by
    unfold entryJob findJob
    rw [fetched]
    exact listed
  have equal : job = row := Table.eq_of_key steady.tracked.linked.jobIds (Table.fetch_mem listed) inside
    ((Table.fetch_selects listed).trans (by rw [same,joined,called]))
  subst equal
  exact ⟨job,entry,called,owner⟩

theorem Steady.other (other : ¬ watch.Reports running) (committed : List Device) :
    Steady watch before (beatJob settings committed watch.workerId watch.now state running).2 ∧
    Repairs watch.now (· ≠ jobSource watch.jobId) (· ≠ jobSource watch.jobId) state.claims
      (beatJob settings committed watch.workerId watch.now state running).2.claims ∧
    (beatJob settings committed watch.workerId watch.now state running).1 ≠ .ok (some watch.attemptId) := by
  have beaten := beatJob_beaten settings committed watch.workerId watch.now state steady.tracked.linked.jobIds running
  have tracked := beaten_tracked steady.tracked (fun job entry own => absurd ⟨entry.internal,own⟩ other) beaten
  have valid := (beatJob_ran settings state committed watch.workerId watch.now running).valid steady.valid
  suffices rest : Repairs watch.now (· ≠ jobSource watch.jobId) (· ≠ jobSource watch.jobId) state.claims
      (beatJob settings committed watch.workerId watch.now state running).2.claims ∧
      (beatJob settings committed watch.workerId watch.now state running).1 ≠ .ok (some watch.attemptId) by
    exact ⟨⟨tracked,valid,fun key => rest.1.keeps_iff.trans (steady.keys key)⟩,rest⟩
  unfold beatJob
  split
  · exact ⟨.refl _,fun wrong => (nomatch wrong)⟩
  rename_i internal
  split
  · exact ⟨.refl _,fun wrong => (nomatch wrong)⟩
  rename_i job found
  have inner := Bool.eq_false_iff.mpr internal
  have elsewhere : running.attemptId ≠ watch.attemptId := fun own => other ⟨inner,own⟩
  have apart : ∀ source, source = jobSource job.id → source ≠ jobSource watch.jobId := by
    rintro source rfl same
    exact steady.tracked.other (entryJob_entry inner found) elsewhere (jobSource_inj same)
  have renewed := (@renewJobDeviceClaim_repairs settings committed state.claims job.id job.ownerId
    (liveDevices state.db.leases running.attemptId) watch.now).widen apart apart
  dsimp only
  split
  · split
    · exact ⟨renewed,fun wrong => (nomatch wrong)⟩
    · refine ⟨renewed,?_⟩
      intro wrong
      cases wrong
  · refine ⟨renewed.trans ((repairs_release _ _ (by decide) _).1.widen apart fun _ none => none),?_⟩
    intro same
    exact elsewhere (Option.some.inj (Except.ok.inj same))

theorem Steady.own (own : watch.Reports running) (committed : List Device) :
    (Covered committed watch.now before.claims watch.jobId watch.ownerId (liveDevices before.db.leases watch.attemptId) →
      Steady watch before (beatJob settings committed watch.workerId watch.now state running).2 ∧
      watch.Renewed settings before (beatJob settings committed watch.workerId watch.now state running).2.claims ∧
      (beatJob settings committed watch.workerId watch.now state running).1 ≠ .ok (some watch.attemptId)) ∧
    (¬ Covered committed watch.now before.claims watch.jobId watch.ownerId (liveDevices before.db.leases watch.attemptId) →
      (beatJob settings committed watch.workerId watch.now state running).1 = .ok (some watch.attemptId)) := by
  obtain ⟨job,found,named,owner⟩ := steady.finds
  have covers := @renewJobDeviceClaim_covered settings committed state.claims watch.jobId watch.ownerId
    (liveDevices state.db.leases watch.attemptId) watch.now steady.valid
  rw [steady.fenced] at covers
  have beaten := beatJob_beaten settings committed watch.workerId watch.now state steady.tracked.linked.jobIds running
  have valid := (beatJob_ran settings state committed watch.workerId watch.now running).valid steady.valid
  constructor
  · intro covered
    have renewed := covers.mpr covered
    have tracked : Tracked watch before.db.core (beatJob settings committed watch.workerId watch.now state running).2.db.core := by
      refine beaten_tracked steady.tracked ?_ beaten
      intro other entry same expired
      obtain ⟨id,by_⟩ := steady.tracked.entry entry same
      unfold Unrenewable at expired
      rw [id,by_,same,renewed] at expired
      cases expired
    suffices rest : (beatJob settings committed watch.workerId watch.now state running).2.claims =
        (renewJobDeviceClaim settings committed state.claims watch.jobId watch.ownerId
          (liveDevices state.db.leases watch.attemptId) watch.now).2 ∧
        (beatJob settings committed watch.workerId watch.now state running).1 ≠ .ok (some watch.attemptId) by
      refine ⟨⟨tracked,valid,?_⟩,?_,rest.2⟩
      · intro key
        rw [rest.1]
        exact (renewJobDeviceClaim_keeps renewed key).1.trans (steady.keys key)
      · intro key keeps
        rw [rest.1]
        exact (renewJobDeviceClaim_keeps renewed key).2 ((steady.keys key).mpr keeps)
    unfold beatJob
    rw [if_neg (by rw [own.1]; decide),own.2,found]
    dsimp only
    rw [named,owner,if_pos renewed]
    split
    · exact ⟨rfl,fun wrong => (nomatch wrong)⟩
    · refine ⟨rfl,?_⟩
      intro wrong
      cases wrong
  · intro uncovered
    unfold beatJob
    rw [if_neg (by rw [own.1]; decide),own.2,found]
    dsimp only
    rw [named,owner,if_neg fun renewed => uncovered (covers.mp renewed)]

theorem Steady.beats {committed : List Device} {items : List RunningJob}
    {results : List (Option String)} {final : State}
    (done : Runs.loop (beatJob settings committed watch.workerId watch.now) state items = (.ok results,final)) :
    (Covered committed watch.now before.claims watch.jobId watch.ownerId (liveDevices before.db.leases watch.attemptId) →
      Steady watch before final ∧ some watch.attemptId ∉ results ∧
      ((∃ running ∈ items, watch.Reports running) ∨ watch.Renewed settings before state.claims → watch.Renewed settings before final.claims)) ∧
    (¬ Covered committed watch.now before.claims watch.jobId watch.ownerId (liveDevices before.db.leases watch.attemptId) →
      (∃ running ∈ items, watch.Reports running) → some watch.attemptId ∈ results) := by
  induction items generalizing state results with
  | nil =>
    cases done
    refine ⟨fun _ => ⟨steady,List.not_mem_nil,?_⟩,?_⟩
    · rintro (⟨_,none,-⟩ | already)
      · exact absurd none List.not_mem_nil
      · exact already
    · rintro _ ⟨_,none,-⟩
      exact absurd none List.not_mem_nil
  | cons running items ih =>
    have own := @Steady.own settings watch before state running steady
    have other := @Steady.other settings watch before state running steady
    unfold Runs.loop at done
    generalize turn : beatJob settings committed watch.workerId watch.now state running = outcome at done
    obtain ⟨answer,next⟩ := outcome
    cases answer with
    | error error => cases done
    | ok result =>
      dsimp only at done
      generalize rest : Runs.loop (beatJob settings committed watch.workerId watch.now) next items = remaining at done
      obtain ⟨values,last⟩ := remaining
      cases values with
      | error error => cases done
      | ok values =>
        cases done
        by_cases mine : watch.Reports running
        · obtain ⟨covers,loses⟩ := own mine committed
          rw [turn] at covers loses
          constructor
          · intro covered
            obtain ⟨kept,renewed,quiet⟩ := covers covered
            obtain ⟨after,absent,lasting⟩ := (ih kept rest).1 covered
            refine ⟨after,?_,fun _ => lasting (.inr renewed)⟩
            intro listed
            obtain same | further := List.mem_cons.mp listed
            · exact quiet (congrArg Except.ok same.symm)
            · exact absent further
          · intro uncovered _
            rw [Except.ok.inj (loses uncovered)]
            exact List.mem_cons_self
        · obtain ⟨kept,repairs,quiet⟩ := other mine committed
          rw [turn] at kept repairs quiet
          have elsewhere : (∃ item ∈ running :: items, watch.Reports item) → ∃ item ∈ items, watch.Reports item := by
            rintro ⟨item,listed,reports⟩
            obtain same | further := List.mem_cons.mp listed
            · rw [same] at reports
              exact absurd reports mine
            · exact ⟨item,further,reports⟩
          constructor
          · intro covered
            obtain ⟨after,absent,lasting⟩ := (ih kept rest).1 covered
            refine ⟨after,?_,?_⟩
            · intro listed
              obtain same | further := List.mem_cons.mp listed
              · exact quiet (congrArg Except.ok same.symm)
              · exact absent further
            · rintro (reported | already)
              · exact lasting (.inl (elsewhere reported))
              · exact lasting (.inr fun key keeps => repairs.keepsUntil (already key keeps))
          · intro uncovered reported
            exact List.mem_cons_of_mem _ ((ih kept rest).2 uncovered (elsewhere reported))

end

theorem expire_repairs (db : Db) {registry : Registry} (valid : registry.Valid) (now : Nat) (jobId : String) :
    Repairs now (· ≠ jobSource jobId) (· ≠ jobSource jobId) registry (expireDeviceReservations ⟨db,registry⟩ now).claims := by
  unfold expireDeviceReservations
  dsimp only
  split
  · exact .refl _
  · refine ((releaseReservations_repairs valid (by decide) _ ?_).2.1).widen (fun _ gone => gone) fun _ none => none.elim
    exact fun id _ => (jobSource_ne jobId id).symm

section
variable (linked : Linked state.db.core) (valid : state.claims.Valid)
  (attempt : ∃ attempt ∈ state.db.attempts, attempt.id = watch.attemptId ∧ attempt.workerId = watch.workerId ∧ attempt.jobId = watch.jobId)
  (job : ∃ job ∈ state.db.jobs, job.id = watch.jobId ∧ job.ownerId = watch.ownerId)
include linked valid attempt job

theorem beforeBeats_steady (data : Heartbeat) :
    Steady watch state (beforeBeats state watch.workerId data watch.now) := by
  refine ⟨?_,?_,?_⟩
  · rw [beforeBeats_core]
    exact ⟨linked,attempt,job,rfl,fun old member named failed => ⟨old,member,named,failed⟩⟩
  · exact (expireDeviceReservations_ran _ watch.now).valid valid
  · exact fun key => (expire_repairs _ valid watch.now watch.jobId).keeps_iff

theorem heartbeat_fenced {data : Heartbeat}
    (reported : ∃ running ∈ data.runningJobs, watch.Reports running) {revoked : List String}
    (accepted : (heartbeat settings state watch.workerId data watch.now).1 = .ok (some revoked)) :
    (watch.Fenced state → Tracked watch state.db.core (heartbeat settings state watch.workerId data watch.now).2.db.core ∧
      watch.attemptId ∉ revoked ∧ watch.Renewed settings state (heartbeat settings state watch.workerId data watch.now).2.claims) ∧
    (¬ watch.Fenced state → watch.attemptId ∈ revoked) := by
  have steady := beforeBeats_steady linked valid attempt job data
  unfold heartbeat at accepted ⊢
  split at accepted
  · cases accepted
  split at accepted
  · cases accepted
  rename_i current
  rw [if_neg current]
  dsimp only at accepted ⊢
  split at accepted
  · cases accepted
  rename_i distinct
  rw [if_neg distinct]
  split at accepted
  · cases accepted
  rename_i results beaten looped
  cases accepted
  obtain ⟨covers,loses⟩ := steady.beats looped
  constructor
  · intro fenced
    obtain ⟨after,absent,lasting⟩ := covers fenced
    refine ⟨?_,?_,?_⟩
    · exact after.tracked
    · simpa using absent
    · exact lasting (.inl reported)
  · intro unfenced
    have listed := loses unfenced reported
    simpa using listed

end

theorem heartbeat_refused {workerId : String} {data : Heartbeat} {now : Nat}
    (refused : ∀ revoked, (heartbeat settings state workerId data now).1 ≠ .ok (some revoked)) :
    (heartbeat settings state workerId data now).2.db = state.db := by
  unfold heartbeat at refused ⊢
  split
  · rfl
  rename_i worker found
  rw [found] at refused
  dsimp only at refused
  split
  · rfl
  rename_i current
  rw [if_neg current] at refused
  dsimp only at refused ⊢
  split
  · rfl
  rename_i distinct
  rw [if_neg distinct] at refused
  split
  · rfl
  rename_i looped
  rw [looped] at refused
  exact absurd rfl (refused _)

end

/-- The claims a job had when it was created are still claims of the job and its owner. -/
def Retained (born : Nat) (created : Registry) (jobId ownerId : String) (now : Nat) (registry : Registry) : Prop :=
  ∀ row ∈ created.rows, DeviceClaims.Current born row → row.sourceId = jobSource jobId → Keeps now registry (jobSource jobId) ownerId row.deviceKey

instance (born : Nat) (created : Registry) (jobId ownerId : String) (now : Nat) (registry : Registry) :
    Decidable (Retained born created jobId ownerId now registry) :=
  inferInstanceAs (Decidable (∀ row ∈ created.rows, DeviceClaims.Current born row → row.sourceId = jobSource jobId → _))

/-- They last until the end of a new lease. -/
def RetainedUntil (expires born : Nat) (created : Registry) (jobId ownerId : String) (now : Nat) (registry : Registry) : Prop :=
  ∀ row ∈ created.rows, DeviceClaims.Current born row → row.sourceId = jobSource jobId →
    KeepsUntil expires now registry (jobSource jobId) ownerId row.deviceKey

/-- A job that has failed in the second database had failed in the first. -/
def Unharmed (jobId : String) (before after : Db) : Prop :=
  ∀ job ∈ after.jobs, job.id = jobId → job.status = .failed → ∃ old ∈ before.jobs, old.id = jobId ∧ old.status = .failed

/-- Where the claims a job took are all still its own, an accepted heartbeat renews them and spares attempt and job exactly when
the inventory asks for no key the job does not hold; one that is refused changes no row of either. -/
theorem heartbeat_renews_job_claims (settings : Settings) (start : State) (reached : Reached settings (fun _ _ => True) start)
    (data : JobCreate) (born : Nat) (_created : (createJobWithLeases settings start data born).1 = .ok ()) (state : State)
    (later : Runs.Reached (apply settings) (fun _ _ => True) (createJobWithLeases settings start data born).2 state)
    (attempt : ∃ attempt ∈ state.db.attempts, attempt.id = data.attemptId ∧ attempt.workerId = data.workerId ∧ attempt.jobId = data.jobId)
    (job : ∃ job ∈ state.db.jobs, job.id = data.jobId ∧ job.ownerId = data.ownerId) (beat : Heartbeat) (now : Nat)
    (reported : ∃ running ∈ beat.runningJobs, running.external = false ∧ running.attemptId = data.attemptId)
    (retained : Retained born (createJobWithLeases settings start data born).2.claims data.jobId data.ownerId now state.claims) :
    let result := heartbeat settings state data.workerId beat now
    (∀ revoked, result.1 = .ok (some revoked) →
      ((data.attemptId ∉ revoked ∧ Unharmed data.jobId state.db result.2.db ∧
        RetainedUntil (expiresAt now settings.claimLeaseTtlSeconds) born (createJobWithLeases settings start data born).2.claims data.jobId
          data.ownerId now result.2.claims) ↔
        Covered state.db.devices now state.claims data.jobId data.ownerId (liveDevices state.db.leases data.attemptId))) ∧
    ((∀ revoked, result.1 ≠ .ok (some revoked)) → result.2.db = state.db) := by
  intro result
  have born_linked : Linked (createJobWithLeases settings start data born).2.db.core :=
    apply_linked (.createJobWithLeases data born) (tables_linked reached)
  have linked : Linked state.db.core :=
    later.invariant (fun state : State => Linked state.db.core) born_linked fun _ op linked _ => apply_linked op linked
  have valid : state.claims.Valid :=
    later.invariant (fun state : State => state.claims.Valid) ((createJobWithLeases_ran settings start data born).valid (claims_valid reached))
      fun state op valid _ => (apply_ran settings state op).valid valid
  refine ⟨?_,heartbeat_refused⟩
  intro revoked accepted
  obtain ⟨spared,lost⟩ := @heartbeat_fenced settings ⟨data.workerId,data.attemptId,data.jobId,data.ownerId,now⟩ state linked valid attempt job
    beat reported revoked accepted
  constructor
  · rintro ⟨spares,-⟩
    by_contra uncovered
    exact spares (lost uncovered)
  · intro covered
    obtain ⟨tracked,absent,renewed⟩ := spared covered
    exact ⟨absent,tracked.failed,fun row member current own => renewed _ (retained row member current own)⟩

def idleWorker : List Op := [.registerWorker ⟨"w1",2,""⟩ 0,.heartbeat "w1" {devices := [{serial := "s1"}]} 0]

def localJob : JobCreate := {workerId := "w1", devices := ["s1"], ownerId := "o", jobUuid := "1", attemptUuid := "1"}

def attemptBeat : Heartbeat := {runningJobs := [⟨"wj-1","attempt-1",false,[]⟩], devices := [{serial := "s1"}]}

def localStart : State := (createJobWithLeases {} (Runs.exec (apply {}) {} idleWorker) localJob 0).2

def localReturn : State := Runs.exec (apply {}) localStart [.markWorkerOffline "w1" 30,.registerWorker ⟨"w1",2,""⟩ 40]

theorem heartbeat_renews_job_claims_reconnected :
    (heartbeat {} localReturn localJob.workerId attemptBeat 50).1 = .ok (some []) ∧ localJob.attemptId ∉ ([] : List String) ∧
      Unharmed localJob.jobId localReturn.db (heartbeat {} localReturn localJob.workerId attemptBeat 50).2.db ∧
      RetainedUntil (expiresAt 50 ({} : Settings).claimLeaseTtlSeconds) 0 localStart.claims localJob.jobId localJob.ownerId 50
        (heartbeat {} localReturn localJob.workerId attemptBeat 50).2.claims := by
  have along : ∀ ops (initial : State), Runs.Reached (apply {}) (fun _ _ => True) initial (Runs.exec (apply {}) initial ops) :=
    fun ops initial => Runs.Reached.along .start ops (Runs.Along.all (fun _ _ => trivial) _ _)
  have accepted : (heartbeat {} localReturn localJob.workerId attemptBeat 50).1 = .ok (some []) := by decide +kernel
  have made : (createJobWithLeases {} (Runs.exec (apply {}) {} idleWorker) localJob 0).1 = .ok () := by decide +kernel
  have attempt : ∃ attempt ∈ localReturn.db.attempts, attempt.id = localJob.attemptId ∧ attempt.workerId = localJob.workerId ∧
      attempt.jobId = localJob.jobId := by
    decide +kernel
  have job : ∃ job ∈ localReturn.db.jobs, job.id = localJob.jobId ∧ job.ownerId = localJob.ownerId := by decide +kernel
  have reported : ∃ running ∈ attemptBeat.runningJobs, running.external = false ∧ running.attemptId = localJob.attemptId := by
    decide +kernel
  have retained : Retained 0 localStart.claims localJob.jobId localJob.ownerId 50 localReturn.claims := by decide +kernel
  have covered : Covered localReturn.db.devices 50 localReturn.claims localJob.jobId localJob.ownerId
      (liveDevices localReturn.db.leases localJob.attemptId) := by
    decide +kernel
  have renews := (heartbeat_renews_job_claims {} _ (along idleWorker {}) localJob 0 made localReturn (along _ localStart) attempt job
    attemptBeat 50 reported retained).1 [] accepted
  exact ⟨accepted,renews.mpr covered⟩

/-- Another Worker comes to report a proxy of the device while the job runs. All the job ever claimed is still its own, but the next
heartbeat also asks for the proxy: it revokes the attempt and fails the job. -/
theorem new_proxy_revokes_attempt : ¬ ∀ (ops : List Op) (now : Nat) (revoked : List String),
    let state := Runs.exec (apply {}) localStart ops
    let result := heartbeat {} state "w1" attemptBeat now
    Retained 0 localStart.claims "job-1" "o" now state.claims → result.1 = .ok (some revoked) →
      "attempt-1" ∉ revoked ∧ Unharmed "job-1" state.db result.2.db ∧
      RetainedUntil (expiresAt now 90) 0 localStart.claims "job-1" "o" now result.2.claims := by
  intro always
  have spared := always [.heartbeat "w1" attemptBeat 10,.registerWorker ⟨"w2",2,""⟩ 20,
    .heartbeat "w2" {devices := [⟨"p1","adb_proxy","available",⟨"w1","s1",""⟩⟩]} 20] 30 ["attempt-1"] (by decide +kernel)
    (by decide +kernel)
  exact spared.1 List.mem_cons_self

end GmsRemoteTest.Cluster
