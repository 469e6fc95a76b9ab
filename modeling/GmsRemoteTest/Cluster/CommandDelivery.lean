import GmsRemoteTest.Cluster.Controller

/-! Start commands and the jobs they start: two state machines joined by `job_id`. A poll hands out a start only for a
job that goes on, as long as no step ends a job while one of its starts still waits for a delivery. -/
namespace GmsRemoteTest.Cluster
open DeviceClaims JobStatus

variable {settings : Settings}

def Command.waitingStart (command : Command) : Prop := command.commandType = .startTest ∧ command.status.pending = true

instance (command : Command) : Decidable command.waitingStart :=
  inferInstanceAs (Decidable (command.commandType = .startTest ∧ command.status.pending = true))

/-- No start of the job waits for a delivery. -/
def NoWaitingStart (commands : List Command) (jobId : String) : Prop :=
  ∀ command ∈ commands, command.jobId = jobId → ¬ command.waitingStart

instance (commands : List Command) (jobId : String) : Decidable (NoWaitingStart commands jobId) :=
  inferInstanceAs (Decidable (∀ command ∈ commands, command.jobId = jobId → ¬ command.waitingStart))

def Awaited (core : Core) : Prop :=
  Table.Joined (fun (command : Command) (job : Job) => command.jobId = job.id)
    (fun command job => command.waitingStart → job.status.terminal = false) core.commands core.jobs

/-- Under these no start outlives its job: each step that ends a job finds none of its starts waiting, compensation only starts of
the attempt it cancels, and a start that is queued without its job is for one that is not finished. -/
def deliveryConditions (settings : Settings) : Conditions where
  command state data attachToJob := attachToJob = false → data.commandType = .startTest →
    data.initialStatus.pending = true →
    (data.operationId ≠ "" → ∀ other ∈ state.db.commands, other.workerId = data.workerId →
      other.operationId ≠ data.operationId) →
    ∀ job ∈ state.db.jobs, job.id = data.jobId → job.status.terminal = false
  sync state command := ∀ status, AckMoves state.db command status → status.terminal = true →
    NoWaitingStart state.db.commands command.jobId
  transition state jobId status := (∃ job ∈ state.db.jobs, job.id = jobId ∧ Allowed job.status status) →
    status.terminal = true → NoWaitingStart state.db.commands jobId
  compensate state jobId := ∀ job ∈ state.db.jobs, job.id = jobId →
    (job.status = .assigned ∨ job.status = .dispatching) → ∀ command ∈ state.db.commands, command.jobId = jobId →
    command.waitingStart → command.attemptId = job.currentAttemptId
  abandon state jobId := (∃ job ∈ state.db.jobs, job.id = jobId ∧ Allowed job.status .failed) →
    NoWaitingStart state.db.commands jobId
  beat committed workerId now state running := ∀ job, Entry state.db.core workerId running job →
    Unrenewable settings committed state job running.attemptId now → Allowed job.status .failed →
    NoWaitingStart state.db.commands job.id
  unfence committed now pass job := Unfenceable settings committed now pass job →
    NoWaitingStart pass.db.commands job.id

section
variable {core after : Core} (awaited : Awaited core)
include awaited

theorem Awaited.jobs {second : Job → Job}
    (jobs : after.jobs = core.jobs.map second) (commands : after.commands = core.commands)
    (jobId : ∀ job, (second job).id = job.id)
    (ends : ∀ job ∈ core.jobs, (second job).status.terminal = true → job.status.terminal = true ∨
      NoWaitingStart core.commands job.id) : Awaited after := by
  unfold Awaited
  rw [jobs,commands]
  refine Table.Joined.map_right awaited ?_ ?_
  · intro command job same
    rw [jobId] at same
    exact same
  · intro command present job inside same before waits
    have live := before waits
    cases halted : (second job).status.terminal with
    | false => rfl
    | true =>
      rcases ends job inside halted with ended | none
      · rw [live] at ended
        cases ended
      · exact absurd waits (none command present same)

theorem Awaited.move (distinct : (core.jobs.map (·.id)).Nodup) {job : Job}
    (member : job ∈ core.jobs) {status : JobStatus} {error : String} {now : Nat}
    (jobs : after.jobs = (core.move job.id status error now).jobs) (commands : after.commands = core.commands)
    (none : status.terminal = true → NoWaitingStart core.commands job.id) : Awaited after := by
  refine awaited.jobs jobs commands (fun row => by split <;> rfl) ?_
  intro row inside ended
  split at ended
  · rename_i named
    rw [Table.eq_of_key distinct inside member named]
    exact .inr (none ended)
  · exact .inl ended

theorem Awaited.same (jobs : after.jobs = core.jobs)
    (commands : after.commands = core.commands) : Awaited after := by
  unfold Awaited
  rw [jobs,commands]
  exact awaited

end

theorem attached_awaited {core after : Core} {jobId : String} {command : Command} {newlyCreated : Bool} {now : Nat}
    (linked : Linked core) (awaited : Awaited core) (attached : Attached core jobId command newlyCreated now after) :
    Awaited after := by
  cases attached with
  | kept => exact awaited
  | dispatched job member named own current assigned =>
    exact awaited.move linked.jobIds member rfl rfl fun ended => by cases ended

theorem Awaited.insert {core : Core} (awaited : Awaited core) {command : Command}
    (going : command.waitingStart → ∀ job ∈ core.jobs, job.id = command.jobId → job.status.terminal = false) :
    Awaited {core with commands := core.commands++[command]} := by
  intro row present job inside same waits
  rcases List.mem_append.mp present with old | new
  · exact awaited row old job inside same waits
  · rw [List.mem_singleton.mp new] at same waits
    exact going waits job inside same.symm

theorem Attached.going {core after : Core} {jobId : String} {command : Command} {now : Nat}
    (attached : Attached core jobId command true now after) :
    ∃ job ∈ core.jobs, job.id = jobId ∧ job.status.terminal = false := by
  cases attached with
  | kept job member named own current elsewhere first =>
    refine ⟨job,member,named,?_⟩
    rw [(first rfl).1]
    rfl
  | dispatched job member named own current assigned =>
    refine ⟨job,member,named,?_⟩
    rw [assigned]
    rfl

theorem commanded_awaited {state : State} {after : Core} {data : CommandCreate} {attachToJob : Bool} {now : Nat}
    (linked : Linked state.db.core) (awaited : Awaited state.db.core)
    (orderly : (deliveryConditions settings).command state data attachToJob)
    (commanded : Commanded state.db.core data attachToJob now after) : Awaited after := by
  cases commanded with
  | none => exact awaited
  | reused command member worker operation after attached => exact attached_awaited linked awaited attached.2
  | inserted command commandType named attempt worker operation status fresh distinct after attached =>
    split at attached
    · obtain ⟨job,member,same,going⟩ := attached.going
      have unfinished : ∀ row ∈ state.db.core.jobs, row.id = command.jobId → row.status.terminal = false := by
        intro row inside own
        rw [Table.eq_of_key linked.jobIds inside member (own.trans (named.trans same.symm))]
        exact going
      have inserted := awaited.insert fun _ => unfinished
      exact attached_awaited (linked.insert fresh) inserted attached
    · rename_i plain
      rw [attached]
      refine awaited.insert ?_
      rintro ⟨start,pending⟩ job inside own
      refine orderly (Bool.eq_false_iff.mpr plain) (commandType.symm.trans start) ?_ ?_ job inside (own.trans named)
      · rw [← status]
        exact pending
      · intro keyed other present same
        rw [← operation keyed]
        refine distinct ?_ other present (same.trans worker.symm)
        rw [operation keyed]
        exact keyed

theorem synced_awaited {state after : State} {command : Command} {now : Nat} (linked : Linked state.db.core)
    (awaited : Awaited state.db.core) (orderly : (deliveryConditions settings).sync state command)
    (synced : Synced state command now after) : Awaited after.db.core := by
  cases synced with
  | silent tables =>
    rw [tables]
    exact awaited
  | again job member named current reporting tables =>
    rw [tables]
    exact awaited
  | moves job status member named allowed moves tables =>
    rw [tables,← named]
    refine awaited.move linked.jobIds member rfl rfl fun ended => ?_
    rw [named]
    exact orderly status moves ended

theorem compensated_awaited {state after : State} {jobId : String} {now : Nat}
    (awaited : Awaited state.db.core) (orderly : (deliveryConditions settings).compensate state jobId)
    (compensated : Compensated state jobId now after) : Awaited after.db.core := by
  cases compensated with
  | none tables =>
    rw [tables]
    exact awaited
  | failed job member named waiting undelivered error tables =>
    rw [tables]
    refine Table.Joined.map awaited ?_ ?_
    · intro command row same
      split at same <;> split at same <;> exact same
    · intro command present row inside same before
      dsimp only
      split
      · rintro ⟨_,pending⟩
        cases pending
      · rename_i survives
        intro waits
        split
        · -- Every waiting start of the failed job is one that compensation cancels.
          rename_i own
          have mine : command.jobId = job.id := same.trans own
          have attempt := orderly job member named waiting command present (mine.trans named) waits
          refine absurd ?_ survives
          have untouched : ¬ (command.status ≠ .queued ∨ command.deliveredAt ≠ none ∨ command.acknowledgedAt ≠ none) :=
            fun touched => undelivered ⟨command,present,mine.trans named,attempt,waits.1,touched⟩
          simp only [not_or,not_not,ne_eq] at untouched
          exact ⟨mine,attempt,waits.1,untouched⟩
        · exact before waits

theorem lost_awaited {core after : Core} {jobId : String} {now : Nat} (linked : Linked core) (awaited : Awaited core)
    (lost : Lost core jobId now after) : Awaited after := by
  cases lost with
  | refused => exact awaited
  | already => exact awaited.same rfl rfl
  | lost job member named allowed error =>
    subst named
    exact awaited.move linked.jobIds member rfl rfl fun ended => by cases ended

theorem beaten_awaited {committed : List Device} {state : State} {workerId : String} {running : RunningJob} {now : Nat}
    {after : Core} (linked : Linked state.db.core) (awaited : Awaited state.db.core)
    (orderly : (deliveryConditions settings).beat committed workerId now state running)
    (beaten : Beaten settings committed state workerId running now after) : Awaited after := by
  cases beaten with
  | idle => exact awaited
  | revoked job entry expired =>
    by_cases allowed : Allowed job.status .failed
    · exact awaited.move linked.jobIds entry.member (if_pos allowed) rfl fun _ => orderly job entry expired allowed
    · exact awaited.same (if_neg allowed) rfl
  | kept => exact awaited
  | resumed job entry renewed runs =>
    by_cases same : job.status = .running
    · exact awaited.same (if_pos same) rfl
    · exact awaited.move linked.jobIds entry.member (if_neg same) rfl fun ended => by cases ended

theorem deliveryConditions_keep : (deliveryConditions settings).Keep settings Awaited where
  created linked awaited _ created := by
    cases created with
    | none => exact awaited
    | added leases freshJob freshAttempt owned _ =>
      intro command present job inside same waits
      rcases List.mem_append.mp inside with old | new
      · exact awaited command present job old same waits
      · rw [List.mem_singleton.mp new]
        rfl
  commanded linked awaited orderly commanded := commanded_awaited linked awaited orderly commanded
  touched linked awaited touched := by
    obtain ⟨jobs,_,_,touch,commands,each⟩ := touched
    intro command present job inside same waits
    rw [jobs] at inside
    rw [commands] at present
    obtain ⟨old,member,rfl⟩ := List.mem_map.mp present
    have kept := each old member
    refine awaited old member job inside (kept.jobId.symm.trans same) ?_
    exact ⟨kept.commandType.symm.trans waits.1,kept.pending waits.2⟩
  synced linked awaited orderly synced := synced_awaited linked awaited orderly synced
  compensated _ awaited orderly compensated := compensated_awaited awaited orderly compensated
  abandoned linked awaited orderly abandoned := by
    cases abandoned with
    | none => exact awaited
    | failed job member named allowed =>
      refine awaited.move linked.jobIds member rfl rfl fun _ => ?_
      rw [named]
      exact orderly ⟨job,member,named,allowed⟩
  transitioned linked awaited orderly member allowed :=
    awaited.move linked.jobIds member rfl rfl fun ended => orderly ⟨_,member,rfl,allowed⟩ ended
  deleted _ awaited _ deleted := by
    cases deleted with
    | none => exact awaited
    | gone =>
      refine Table.Joined.subset awaited ?_ ?_
      · exact fun _ inside => (Table.mem_delete.mp inside).1
      · exact fun _ inside => (Table.mem_delete.mp inside).1
  lost linked awaited lost := lost_awaited linked awaited lost
  beaten linked awaited orderly beaten := beaten_awaited linked awaited orderly beaten
  unfenced linked awaited orderly taken := by
    refine awaited.jobs rfl rfl (fun row => by split <;> rfl) ?_
    intro row inside ended
    split at ended
    · rename_i chosen
      rw [chosen.1]
      exact .inr (orderly taken)
    · exact .inl ended

/-- In every state a run under `deliveryConditions` reaches, no start of a finished job waits,
and no poll hands one out. -/
theorem poll_starts_unfinished_jobs (settings : Settings) (state : State)
    (reached : Reached settings ((deliveryConditions settings).guard settings) state) :
    (∀ job ∈ state.db.jobs, job.status.terminal = true → NoWaitingStart state.db.commands job.id) ∧
    ∀ workerId limit redeliverySeconds now, ∀ command ∈ (pollCommands state workerId limit redeliverySeconds now).1,
      command.commandType = .startTest → ∀ job ∈ state.db.jobs, job.id = command.jobId → job.status.terminal = false := by
  have start : Awaited ({} : State).db.core := fun _ none => by cases none
  obtain ⟨linked,awaited⟩ := deliveryConditions_keep.reached start reached
  constructor
  · intro job member ended command present own waits
    have live := awaited command present job member own waits
    rw [ended] at live
    cases live
  · intro workerId limit redeliverySeconds now command handed start job member named
    obtain ⟨inside,_,queued⟩ := nextCommands_queued handed
    obtain ⟨touch,requeued,touched⟩ := requeue_touched state.db.commands workerId redeliverySeconds now
    rw [requeued] at inside
    obtain ⟨old,present,rfl⟩ := List.mem_map.mp inside
    have kept := touched old
    refine awaited old present job member (kept.jobId.symm.trans named.symm) ⟨kept.commandType.symm.trans start,?_⟩
    refine kept.pending ?_
    rw [queued]
    rfl

theorem poll_starts_unfinished_jobs_completed :
    (∀ job ∈ (Runs.exec (apply {}) {} completedRun).db.jobs, job.status.terminal = true →
      NoWaitingStart (Runs.exec (apply {}) {} completedRun).db.commands job.id) ∧
    ∀ workerId limit redeliverySeconds now,
      ∀ command ∈ (pollCommands (Runs.exec (apply {}) {} completedRun) workerId limit redeliverySeconds now).1,
      command.commandType = .startTest → ∀ job ∈ (Runs.exec (apply {}) {} completedRun).db.jobs,
        job.id = command.jobId → job.status.terminal = false := by
  refine poll_starts_unfinished_jobs {} _ (Runs.Reached.along .start _ ?_)
  refine ⟨trivial,trivial,trivial,?_,trivial,trivial,?_,trivial⟩
  · intro plain
    cases plain
  · intro status moves ended
    decide +kernel

/-- The delivered start of a lost job is still redelivered after the watchdog failed the job. -/
theorem failed_job_is_started : ¬ ∀ state, Reached {} acknowledged state →
    ∀ workerId limit redeliverySeconds now, ∀ command ∈ (pollCommands state workerId limit redeliverySeconds now).1,
      command.commandType = .startTest → ∀ job ∈ state.db.jobs, job.id = command.jobId → job.status.terminal = false := by
  intro always
  have meets : Runs.Along (fun state op => apply {} op state) acknowledged {} (delivery++
      [.markWorkerOffline "w1" 2,.failAbandonedWorkerLostJobs 300 1000]) := by
    decide +kernel
  have kept := always _ (Runs.Reached.along .start _ meets) "w1" 10 120 1001
  revert kept
  decide +kernel

end GmsRemoteTest.Cluster
