import GmsRemoteTest.Cluster.Controller

/-! A job that asked for its Worker alone. The host is checked when a job is created,
against the four statuses that occupy a Worker; a lost job is in none of them and comes
back without a check. -/
namespace GmsRemoteTest.Cluster
open DeviceClaims JobStatus

variable {settings : Settings}

def Alone (jobs : List Job) (job : Job) : Prop :=
  ∀ other ∈ jobs, other.id ≠ job.id → other.assignedWorkerId = job.assignedWorkerId → other.status.occupied = true →
    other.request.exclusiveHost = false ∧ job.request.exclusiveHost = false

instance (jobs : List Job) : DecidablePred (Alone jobs) := fun job => inferInstanceAs (Decidable
  (∀ other ∈ jobs, other.id ≠ job.id → other.assignedWorkerId = job.assignedWorkerId → other.status.occupied = true →
    other.request.exclusiveHost = false ∧ job.request.exclusiveHost = false))

def Apart (core : Core) : Prop :=
  ∀ first ∈ core.jobs, ∀ second ∈ core.jobs, first.request.exclusiveHost = true → first.status.occupied = true →
    second.status.occupied = true → second.assignedWorkerId = first.assignedWorkerId → second.id = first.id

/-- The condition of a run: a lost job comes back to a Worker only when nothing there excludes it. -/
def exclusiveConditions (settings : Settings) : Conditions where
  sync state command := ∀ status, AckMoves state.db command status → status.occupied = true →
    ∀ job ∈ state.db.jobs, job.id = command.jobId → job.status = .workerLost → Alone state.db.jobs job
  transition state jobId status := status.occupied = true →
    ∀ job ∈ state.db.jobs, job.id = jobId → job.status = .workerLost → Alone state.db.jobs job
  beat committed workerId now state running := ∀ job, Entry state.db.core workerId running job →
    ¬ Unrenewable settings committed state job running.attemptId now → job.status = .workerLost → Alone state.db.jobs job

section
variable {core after : Core} (apart : Apart core)
include apart

theorem Apart.rewrite {change : Job → Job} (jobs : after.jobs = core.jobs.map change)
    (same : ∀ job, (change job).id = job.id ∧ (change job).assignedWorkerId = job.assignedWorkerId ∧
      (change job).request = job.request) (jobId : String)
    (returns : ∀ job ∈ core.jobs, (change job).status.occupied = true →
      job.status.occupied = true ∨ job.id = jobId ∧ Alone core.jobs job) : Apart after := by
  intro first left second right exclusive busy also worker
  rw [jobs] at left right
  obtain ⟨old,member,rfl⟩ := List.mem_map.mp left
  obtain ⟨other,present,rfl⟩ := List.mem_map.mp right
  rw [(same old).2.2] at exclusive
  rw [(same old).2.1,(same other).2.1] at worker
  rw [(same old).1,(same other).1]
  by_contra different
  rcases returns old member busy with before | ⟨named,free⟩ <;>
    rcases returns other present also with earlier | ⟨called,alone⟩
  · exact different (apart old member other present exclusive before earlier worker)
  · have shared := (alone old member (Ne.symm different) worker.symm before).1
    rw [exclusive] at shared
    cases shared
  · have shared := (free other present different worker earlier).2
    rw [exclusive] at shared
    cases shared
  · exact different (called.trans named.symm)

theorem Apart.move (linked : Linked core) {job : Job} (member : job ∈ core.jobs)
    {status : JobStatus} (allowed : Allowed job.status status) {error : String} {now : Nat}
    (jobs : after.jobs = (core.move job.id status error now).jobs)
    (free : status.occupied = true → job.status = .workerLost → Alone core.jobs job) : Apart after := by
  refine apart.rewrite jobs (fun row => by split <;> exact ⟨rfl,rfl,rfl⟩) job.id ?_
  intro row present busy
  split at busy
  · rename_i named
    have equal : row = job := Table.eq_of_key linked.jobIds present member named
    subst equal
    cases already : row.status.occupied with
    | true => exact .inl rfl
    | false => exact .inr ⟨rfl,free busy (allowed.returns busy already)⟩
  · exact .inl busy

theorem Apart.same (jobs : after.jobs = core.jobs) : Apart after := by
  unfold Apart
  rw [jobs]
  exact apart

end

theorem attached_apart {core after : Core} {jobId : String} {command : Command} {newlyCreated : Bool} {now : Nat}
    (linked : Linked core) (apart : Apart core) (attached : Attached core jobId command newlyCreated now after) :
    Apart after := by
  cases attached with
  | kept => exact apart
  | dispatched job member named own current assigned =>
    refine apart.move linked member ?_ rfl ?_
    · rw [assigned]
      decide
    · intro _ lost
      rw [assigned] at lost
      cases lost

theorem synced_apart {state after : State} {command : Command} {now : Nat} (linked : Linked state.db.core)
    (apart : Apart state.db.core) (orderly : (exclusiveConditions settings).sync state command)
    (synced : Synced state command now after) : Apart after.db.core := by
  cases synced with
  | silent tables => exact apart.same (congrArg Core.jobs tables)
  | again job member named current reporting tables =>
    rw [tables]
    exact apart.same rfl
  | moves job status member named allowed moves tables =>
    rw [tables,← named]
    refine apart.move linked member allowed rfl ?_
    exact fun busy lost => orderly status moves busy job member named lost

theorem beaten_apart {committed : List Device} {state : State} {workerId : String} {running : RunningJob} {now : Nat}
    {after : Core} (linked : Linked state.db.core) (apart : Apart state.db.core)
    (orderly : (exclusiveConditions settings).beat committed workerId now state running)
    (beaten : Beaten settings committed state workerId running now after) : Apart after := by
  cases beaten with
  | idle => exact apart
  | revoked job entry expired =>
    by_cases allowed : Allowed job.status .failed
    · refine apart.move linked entry.member allowed (if_pos allowed) ?_
      intro busy
      cases busy
    · exact apart.same (if_neg allowed)
  | kept => exact apart
  | resumed job entry renewed runs =>
    by_cases already : job.status = .running
    · exact apart.same (if_pos already)
    · refine apart.move linked entry.member (runs.resolve_left already) (if_neg already) ?_
      exact fun _ lost => orderly job entry renewed lost

theorem Apart.ends {core after : Core} (apart : Apart core) (linked : Linked core) {job : Job} (member : job ∈ core.jobs)
    (allowed : Allowed job.status .failed) {error : String} {now : Nat}
    (jobs : after.jobs = (core.move job.id .failed error now).jobs) : Apart after := by
  refine apart.move linked member allowed jobs ?_
  intro busy
  cases busy

theorem exclusiveConditions_keep : (exclusiveConditions settings).Keep settings Apart where
  created linked apart _ created := by
    cases created with
    | none => exact apart
    | added leases freshJob freshAttempt owned alone =>
      intro first left second right exclusive busy also worker
      rcases List.mem_append.mp left with old | new <;> rcases List.mem_append.mp right with other | added
      · exact apart first old second other exclusive busy also worker
      · rw [List.mem_singleton.mp added] at worker
        have shared := (alone first old worker.symm busy).1
        rw [exclusive] at shared
        cases shared
      · rw [List.mem_singleton.mp new] at exclusive worker
        have shared := (alone second other worker also).2
        exact absurd (shared.symm.trans exclusive) (by decide)
      · rw [List.mem_singleton.mp new,List.mem_singleton.mp added]
  commanded linked apart _ commanded := by
    cases commanded with
    | none => exact apart
    | reused command member worker operation after attached => exact attached_apart linked apart attached.2
    | inserted command commandType job attempt worker operation status fresh distinct after attached =>
      split at attached
      · exact attached_apart (linked.insert fresh) (apart.same rfl) attached
      · rw [attached]
        exact apart.same rfl
  touched _ apart touched := apart.same touched.jobs
  synced linked apart orderly synced := synced_apart linked apart orderly synced
  compensated linked apart _ compensated := by
    cases compensated with
    | none tables => exact apart.same (congrArg Core.jobs tables)
    | failed job member named waiting undelivered error tables =>
      rw [tables]
      refine apart.ends linked member ?_ rfl
      rcases waiting with status | status <;> rw [status] <;> decide
  abandoned linked apart _ abandoned := by
    cases abandoned with
    | none => exact apart
    | failed job member named allowed => exact apart.ends linked member allowed rfl
  transitioned linked apart orderly member allowed :=
    apart.move linked member allowed rfl fun busy lost => orderly busy _ member rfl lost
  deleted _ apart _ deleted := by
    cases deleted with
    | none => exact apart
    | gone =>
      intro first left second right
      exact apart first (Table.mem_delete.mp left).1 second (Table.mem_delete.mp right).1
  lost linked apart lost := by
    cases lost with
    | refused => exact apart
    | already => exact apart.same rfl
    | lost job member named allowed error =>
      subst named
      refine apart.move linked member allowed rfl ?_
      intro busy
      cases busy
  beaten linked apart orderly beaten := beaten_apart linked apart orderly beaten
  unfenced _ apart _ _ := by
    refine apart.rewrite rfl (fun row => by split <;> exact ⟨rfl,rfl,rfl⟩) "" ?_
    intro row present busy
    split at busy
    · cases busy
    · exact .inl busy

/-- In every state a run under `exclusiveConditions` reaches, an exclusive job that occupies its Worker is the only one there. -/
theorem exclusive_job_is_alone (settings : Settings) (state : State)
    (reached : Reached settings ((exclusiveConditions settings).guard settings) state) :
    ∀ job ∈ state.db.jobs, job.request.exclusiveHost = true → job.status.occupied = true →
    ∀ other ∈ state.db.jobs, other.assignedWorkerId = job.assignedWorkerId → other.status.occupied = true →
      other = job := by
  have start : Apart ({} : State).db.core := fun _ none => by cases none
  obtain ⟨linked,apart⟩ := exclusiveConditions_keep.reached start reached
  intro job member exclusive busy other present worker also
  exact Table.eq_of_key linked.jobIds present member (apart job member other present exclusive busy also worker)

def lostRun : List Op :=
  [.registerWorker ⟨"w1",2,""⟩ 0,
    .heartbeat "w1" {devices := [{serial := "s1"},{serial := "s2"}]} 0,
    .createJobWithLeases {
      workerId := "w1", devices := ["s1"], ownerId := "o", exclusiveHost := true, jobUuid := "1", attemptUuid := "1"} 0,
    .markWorkerOffline "w1" 1,
    .registerWorker ⟨"w1",2,""⟩ 2,
    .heartbeat "w1" {devices := [{serial := "s1"},{serial := "s2"}]} 2]

def recovery : Op :=
  .heartbeat "w1" {
    devices := [{serial := "s1"},{serial := "s2"}]
    runningJobs := [{attemptId := "attempt-1", workerJobId := "wj-1"}]} 4

theorem exclusive_job_is_alone_recovered : (Runs.exec (apply {}) {} (lostRun++[recovery])).db.jobs ≠ [] ∧
    ∀ job ∈ (Runs.exec (apply {}) {} (lostRun++[recovery])).db.jobs, job.request.exclusiveHost = true →
      job.status.occupied = true → ∀ other ∈ (Runs.exec (apply {}) {} (lostRun++[recovery])).db.jobs,
      other.assignedWorkerId = job.assignedWorkerId → other.status.occupied = true → other = job := by
  have alone : ∀ job ∈ (Runs.exec (apply {}) {} lostRun).db.jobs, Alone (Runs.exec (apply {}) {} lostRun).db.jobs job := by
    decide +kernel
  refine ⟨by decide +kernel,exclusive_job_is_alone {} _ (Runs.Reached.along .start _ ?_)⟩
  refine ⟨trivial,trivial,trivial,trivial,trivial,trivial,⟨?_,fun _ _ => trivial⟩,trivial⟩
  exact fun job entry _ _ => alone job entry.member

/-- Another job is created before the lost one comes back. -/
theorem exclusive_job_is_crowded : ¬ ∀ state, Reached {} acknowledged state →
    ∀ job ∈ state.db.jobs, job.request.exclusiveHost = true → job.status.occupied = true →
    ∀ other ∈ state.db.jobs, other.assignedWorkerId = job.assignedWorkerId → other.status.occupied = true →
      other = job := by
  intro always
  have meets : Runs.Along (fun state op => apply {} op state) acknowledged {} (lostRun++
      [.createJobWithLeases {workerId := "w1", devices := ["s2"], ownerId := "o", jobUuid := "2", attemptUuid := "2"} 3,
        recovery]) := by
    decide +kernel
  have kept := always _ (Runs.Reached.along .start _ meets)
  revert kept
  decide +kernel

end GmsRemoteTest.Cluster
