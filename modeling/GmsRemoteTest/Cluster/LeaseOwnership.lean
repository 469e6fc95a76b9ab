import GmsRemoteTest.Cluster.Controller

/-! A lease that still binds a device belongs to a job that is not finished. The
repository clears leases along with the job status almost everywhere; the three
steps that do not are named by `leaseConditions`. -/
namespace GmsRemoteTest.Cluster
open DeviceClaims JobStatus

variable {settings : Settings}

def bindable : LeaseStatus → JobStatus → Bool
  | .active, job => !job.terminal
  | .orphaned, job => !job.terminal && job != .assigned && job != .dispatching
  | _, _ => true

def Bound (core : Core) : Prop :=
  Table.Joined (fun (lease : Lease) (job : Job) => job.id = lease.jobId)
    (fun lease job => bindable lease.status job.status = true) core.leases core.jobs

theorem bindable_closed {lease : LeaseStatus} {job : JobStatus} (closed : lease.live = false) :
    bindable lease job = true := by
  cases lease <;> simp_all [bindable,LeaseStatus.live]

theorem bindable_live {lease : LeaseStatus} {job : JobStatus} (binds : bindable lease job = true)
    (live : lease.live = true) : job.terminal = false := by
  cases lease <;> simp_all [bindable,LeaseStatus.live]

theorem bindable_allowed {lease : LeaseStatus} {source target : JobStatus} (binds : bindable lease source = true)
    (allowed : Allowed source target) (live : target.terminal = false) : bindable lease target = true := by
  revert binds allowed live
  cases lease <;> cases source <;> cases target <;> decide

theorem bindable_active {job : JobStatus} (live : job.terminal = false) : bindable .active job = true := by
  simp [bindable,live]

theorem Bound.map {core : Core} (bound : Bound core) {first : Lease → Lease} {second : Job → Job}
    (leaseJob : ∀ lease, (first lease).jobId = lease.jobId) (jobId : ∀ job, (second job).id = job.id)
    (kept : ∀ lease ∈ core.leases, ∀ job ∈ core.jobs, job.id = lease.jobId →
      bindable lease.status job.status = true → bindable (first lease).status (second job).status = true)
    {attempts : List Attempt} {commands : List Command} :
    Bound ⟨core.jobs.map second,attempts,core.leases.map first,commands⟩ := by
  refine Table.Joined.map bound ?_ kept
  intro lease job same
  rw [leaseJob,jobId] at same
  exact same

theorem Bound.leases {core : Core} (bound : Bound core) {first : Lease → Lease}
    (leaseJob : ∀ lease, (first lease).jobId = lease.jobId)
    (kept : ∀ lease ∈ core.leases, ∀ job ∈ core.jobs, job.id = lease.jobId →
      bindable lease.status job.status = true → bindable (first lease).status job.status = true)
    {attempts : List Attempt} {commands : List Command} :
    Bound ⟨core.jobs,attempts,core.leases.map first,commands⟩ := by
  refine Table.Joined.map_left bound ?_ kept
  intro lease job same
  rw [leaseJob] at same
  exact same

section
variable {core : Core} (bound : Bound core) (distinct : (core.jobs.map (·.id)).Nodup) {job : Job} (member : job ∈ core.jobs) {status : JobStatus}
  (allowed : Allowed job.status status) (error : String) (now : Nat)
include bound distinct member allowed

theorem Bound.finish {first : Lease → Lease} (leaseJob : ∀ lease, (first lease).jobId = lease.jobId)
    (closes : ∀ lease, (first lease).status = lease.status ∨ (first lease).status.live = false)
    (free : status.terminal = true → ∀ lease ∈ core.leases, lease.jobId = job.id → (first lease).status.live = false)
    {attempts : List Attempt} {commands : List Command} :
    Bound ⟨(core.move job.id status error now).jobs,attempts,core.leases.map first,commands⟩ := by
  refine bound.map leaseJob (fun row => by split <;> rfl) ?_
  intro lease present row inside same binds
  dsimp only
  rcases closes lease with kept | closed
  · rw [kept]
    split
    · rename_i named
      have equal : row = job := Table.eq_of_key distinct inside member named
      subst equal
      cases live : status.terminal with
      | false => exact bindable_allowed binds allowed live
      | true =>
        have gone := free live lease present same.symm
        rw [kept] at gone
        exact bindable_closed gone
    · exact binds
  · exact bindable_closed closed

theorem Bound.move (free : status.terminal = true → ∀ lease ∈ core.leases, lease.jobId = job.id → lease.status.live = false)
    {attempts : List Attempt} {commands : List Command} :
    Bound ⟨(core.move job.id status error now).jobs,attempts,core.leases,commands⟩ := by
  have moved : Bound ⟨(core.move job.id status error now).jobs,attempts,core.leases.map fun lease => lease,commands⟩ :=
    bound.finish distinct member allowed error now (fun _ => rfl) (fun _ => .inl rfl) free
  rw [List.map_id'] at moved
  exact moved

end

theorem Bound.orphan {core : Core} (bound : Bound core) {jobId : String}
    (lost : ∀ job ∈ core.jobs, job.id = jobId → job.status = .workerLost) :
    Bound {core with leases := orphanLeases core.leases jobId} := by
  refine bound.leases (fun lease => by split <;> rfl) ?_
  intro lease present job inside same binds
  dsimp only
  split
  · rename_i chosen
    rw [lost job inside (same.trans chosen.1)]
    rfl
  · exact binds

/-- Under these leases follow their jobs: an ACK ends a job only when none of its leases is orphaned, a bare transition only when
it leases nothing, and reconciliation finds no job it would fail. -/
def leaseConditions (settings : Settings) : Conditions where
  sync state command := ∀ status, AckMoves state.db command status → status.terminal = true →
    ∀ lease ∈ state.db.leases, lease.jobId = command.jobId → lease.status ≠ .orphaned
  transition state jobId status := (∃ job ∈ state.db.jobs, job.id = jobId ∧ Allowed job.status status) →
    status.terminal = true → ∀ lease ∈ state.db.leases, lease.jobId = jobId → lease.status.live = false
  unfence committed now pass job := ¬ Unfenceable settings committed now pass job

theorem created_bound {core after : Core} {data : JobCreate} {now : Nat} (linked : Linked core) (bound : Bound core)
    (created : Created core data now after) : Bound after := by
  cases created with
  | none => exact bound
  | added leases freshJob freshAttempt owned _ =>
    refine Table.Joined.append bound ?_ ?_ ?_
    · intro lease new job member same
      exact absurd (same.trans (owned lease new).1) (freshJob job member)
    · intro lease old job new same
      obtain ⟨owner,member,named,_⟩ := linked.leaseJob lease old
      rw [List.mem_singleton.mp new] at same
      exact absurd (named.trans same.symm) (freshJob owner member)
    · intro lease new job fresh same
      rw [List.mem_singleton.mp fresh,(owned lease new).2.2]
      rfl

theorem attached_bound {core after : Core} {jobId : String} {command : Command} {newlyCreated : Bool} {now : Nat}
    (linked : Linked core) (bound : Bound core) (attached : Attached core jobId command newlyCreated now after) :
    Bound after := by
  cases attached with
  | kept => exact bound
  | dispatched job member named own current assigned =>
    refine bound.move linked.jobIds member ?_ "" now ?_
    · rw [assigned]
      decide
    · intro ended
      cases ended

theorem commanded_bound {core after : Core} {data : CommandCreate} {attachToJob : Bool} {now : Nat}
    (linked : Linked core) (bound : Bound core) (commanded : Commanded core data attachToJob now after) :
    Bound after := by
  cases commanded with
  | none => exact bound
  | reused command member worker operation after attached => exact attached_bound linked bound attached.2
  | inserted command commandType job attempt worker operation status fresh distinct after attached =>
    split at attached
    · exact attached_bound (linked.insert fresh) bound attached
    · rw [attached]
      exact bound

theorem synced_bound {state after : State} {command : Command} {now : Nat} (linked : Linked state.db.core)
    (bound : Bound state.db.core) (orderly : (leaseConditions settings).sync state command)
    (synced : Synced state command now after) : Bound after.db.core := by
  cases synced with
  | silent tables =>
    rw [tables]
    exact bound
  | again job member named current reporting tables =>
    rw [tables]
    exact bound
  | moves job status member named allowed moves tables =>
    rw [tables,← named]
    unfold Core.report
    cases ended : status.terminal with
    | false =>
      refine bound.move linked.jobIds member allowed _ now ?_
      rw [ended]
      intro wrong
      cases wrong
    | true =>
      refine bound.finish linked.jobIds member allowed _ now (fun lease => by split <;> rfl) ?_ ?_
      · intro lease
        split
        · exact .inr rfl
        · exact .inl rfl
      · intro _ lease present own
        have settled := orderly status moves ended lease present (own.trans named)
        split
        · rfl
        · rename_i open_
          have inactive : lease.status ≠ .active := fun active => open_ ⟨own.trans named,active⟩
          cases current : lease.status <;> simp_all [LeaseStatus.live]

theorem compensated_bound {state after : State} {jobId : String} {now : Nat} (linked : Linked state.db.core)
    (bound : Bound state.db.core) (compensated : Compensated state jobId now after) : Bound after.db.core := by
  cases compensated with
  | none tables =>
    rw [tables]
    exact bound
  | failed job member named waiting undelivered error tables =>
    rw [tables]
    have allowed : Allowed job.status .failed := by
      rcases waiting with same | same <;> rw [same] <;> decide
    refine bound.finish linked.jobIds member allowed _ now (fun lease => by split <;> rfl) ?_ ?_
    · intro lease
      split
      · exact .inr rfl
      · exact .inl rfl
    · intro _ lease present own
      -- A waiting job was never lost, so none of its leases is orphaned.
      have binds : bindable lease.status job.status = true := bound lease present job member own.symm
      split
      · rfl
      · rename_i open_
        have inactive : lease.status ≠ .active := fun active => open_ ⟨own,active⟩
        rcases waiting with same | same <;> rw [same] at binds <;>
          cases current : lease.status <;> simp_all [LeaseStatus.live,bindable]

section
variable {core after : Core} {jobId : String} {now : Nat} (linked : Linked core) (bound : Bound core)
include linked bound

theorem abandoned_bound (abandoned : Abandoned core jobId now after) : Bound after := by
  cases abandoned with
  | none => exact bound
  | failed job member named allowed =>
    refine bound.finish linked.jobIds member allowed _ now (fun lease => by split <;> rfl) ?_ ?_
    · intro lease
      split
      · exact .inr rfl
      · exact .inl rfl
    · intro _ lease present own
      split
      · rfl
      · rename_i open_
        rw [Bool.eq_false_iff]
        exact fun live => open_ ⟨own,live⟩

theorem lost_bound (lost : Lost core jobId now after) : Bound after := by
  cases lost with
  | refused => exact bound
  | already lost => exact bound.orphan lost
  | lost job member named allowed error =>
    subst named
    have moved : Bound (core.move job.id .workerLost error now) :=
      bound.move linked.jobIds member allowed error now (fun ended => by cases ended)
    refine moved.orphan ?_
    intro row inside named
    obtain ⟨old,present,rfl⟩ := Table.mem_update.mp inside
    split
    · rfl
    · rename_i other
      rw [if_neg other] at named
      exact absurd named other

end

theorem beaten_bound {committed : List Device} {state : State} {workerId : String} {running : RunningJob} {now : Nat}
    {after : Core} (linked : Linked state.db.core) (bound : Bound state.db.core)
    (beaten : Beaten settings committed state workerId running now after) : Bound after := by
  cases beaten with
  | idle => exact bound
  | revoked job entry expired =>
    have closes : ∀ lease : Lease, (if lease.attemptId = running.attemptId ∧ lease.status.live = true then
        closedLease .revoked now lease else lease).jobId = lease.jobId := fun lease => by split <;> rfl
    unfold Core.revoke
    split
    · rename_i allowed
      refine bound.finish linked.jobIds entry.member allowed _ now closes ?_ ?_
      · intro lease
        split
        · exact .inr rfl
        · exact .inl rfl
      · intro _ lease present own
        have attempt := (linked.lease_attempt present entry.member own).trans (entry.current linked)
        split
        · rfl
        · rename_i open_
          rw [Bool.eq_false_iff]
          exact fun live => open_ ⟨attempt,live⟩
    · refine bound.leases closes ?_
      intro lease present job inside same binds
      split
      · exact bindable_closed rfl
      · exact binds
  | kept job entry renewed elsewhere refused => exact bound
  | resumed job entry fenced runs =>
    have woken : Bound {state.db.core with
        leases := resumeLeases settings state.db.core.leases workerId running.attemptId now} := by
      refine bound.leases (fun lease => by split <;> rfl) ?_
      intro lease present job inside same binds
      dsimp only
      split
      · rename_i chosen
        rw [chosen.2.2] at binds
        exact bindable_active (bindable_live binds rfl)
      · exact binds
    have renewed : Bound {state.db.core with
        leases := (state.db.core.resume settings job workerId running now).leases} := by
      refine woken.leases (fun lease => by split <;> rfl) ?_
      intro lease present job inside same binds
      dsimp only
      split <;> exact binds
    unfold Core.resume at renewed ⊢
    split
    · exact renewed
    · rename_i moves
      have allowed : Allowed job.status .running := by
        rcases runs with same | edge
        · exact absurd same moves
        · exact edge
      exact renewed.move linked.jobIds entry.member allowed "" now (fun ended => by cases ended)

theorem leaseConditions_keep : (leaseConditions settings).Keep settings Bound where
  created linked bound _ created := created_bound linked bound created
  commanded linked bound _ commanded := commanded_bound linked bound commanded
  touched _ bound touched := by
    unfold Bound
    rw [touched.leases,touched.jobs]
    exact bound
  synced linked bound orderly synced := synced_bound linked bound orderly synced
  compensated linked bound _ compensated := compensated_bound linked bound compensated
  abandoned linked bound _ abandoned := abandoned_bound linked bound abandoned
  transitioned linked bound orderly member allowed :=
    bound.move linked.jobIds member allowed _ _ (orderly ⟨_,member,rfl,allowed⟩)
  deleted _ bound _ deleted := by
    cases deleted with
    | none => exact bound
    | gone =>
      refine Table.Joined.subset bound ?_ ?_
      · exact fun _ inside => (Table.mem_delete.mp inside).1
      · exact fun _ inside => (Table.mem_delete.mp inside).1
  lost linked bound lost := lost_bound linked bound lost
  beaten linked bound _ beaten := beaten_bound linked bound beaten
  unfenced _ _ fenceable taken := absurd taken fenceable

/-- In every state a run under `leaseConditions` reaches, a live lease belongs to an unfinished job. -/
theorem live_lease_of_unfinished_job (settings : Settings) (state : State)
    (reached : Reached settings ((leaseConditions settings).guard settings) state) :
    ∀ lease ∈ state.db.leases, lease.status.live = true →
      ∃ job ∈ state.db.jobs, job.id = lease.jobId ∧ job.status.terminal = false := by
  intro lease present live
  have start : Bound ({} : State).db.core := fun _ none => by cases none
  obtain ⟨linked,bound⟩ := leaseConditions_keep.reached start reached
  obtain ⟨job,member,named,_⟩ := linked.leaseJob lease present
  exact ⟨job,member,named,bindable_live (bound lease present job member named) live⟩

theorem live_lease_of_unfinished_job_completed : (Runs.exec (apply {}) {} completedRun).db.leases ≠ [] ∧
    ∀ lease ∈ (Runs.exec (apply {}) {} completedRun).db.leases, lease.status.live = true →
      ∃ job ∈ (Runs.exec (apply {}) {} completedRun).db.jobs, job.id = lease.jobId ∧ job.status.terminal = false := by
  refine ⟨by decide +kernel,live_lease_of_unfinished_job {} _ (Runs.Reached.along .start _ ?_)⟩
  refine ⟨trivial,trivial,trivial,trivial,trivial,trivial,?_,trivial⟩
  intro status moves ended
  decide +kernel

/-- The Worker is marked offline while the test runs and then acknowledges its end:
the ACK releases active leases only, so the orphaned lease stays with the completed job. -/
theorem completed_job_keeps_lease : ¬ ∀ state, Reached {} acknowledged state →
    ∀ lease ∈ state.db.leases, lease.status.live = true →
      ∃ job ∈ state.db.jobs, job.id = lease.jobId ∧ job.status.terminal = false := by
  intro always
  have meets : Runs.Along (fun state op => apply {} op state) acknowledged {} (delivery++
      [.markWorkerOffline "w1" 2,.ackCommand "w1" "cmd-1" ⟨.completed,{},""⟩ 3,
        .syncJobFromCommand (deliveredAck .completed 3) 3]) := by
    decide +kernel
  have kept := always _ (Runs.Reached.along .start _ meets)
  revert kept
  decide +kernel

end GmsRemoteTest.Cluster
