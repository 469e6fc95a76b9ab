import GmsRemoteTest.Cluster.Controller

/-! What the acknowledgement of a command other than the start does to a job whose test
may still be running. -/
namespace GmsRemoteTest.Cluster
open DeviceClaims JobStatus

/-- The job goes on with every lease and every physical claim it had. -/
def StillHeld (before after : State) (jobId : String) : Prop :=
  (∃ job ∈ after.db.jobs, job.id = jobId ∧ job.status.terminal = false) ∧
  (∀ lease ∈ before.db.leases, lease.jobId = jobId → lease.status.live = true → lease ∈ after.db.leases) ∧
  ∀ claim ∈ before.claims.rows, claim.sourceId = jobSource jobId → claim.status = .active → claim ∈ after.claims.rows

instance (before after : State) (jobId : String) : Decidable (StillHeld before after jobId) := by
  unfold StillHeld
  infer_instance

def Started (db : Db) (jobId : String) : Prop :=
  ∃ start ∈ db.commands, start.jobId = jobId ∧ start.commandType = .startTest ∧ start.deliveredAt ≠ none ∧
    start.status.terminal = false

instance (db : Db) (jobId : String) : Decidable (Started db jobId) := by
  unfold Started
  infer_instance

/-- The only answer that confirms the end of a test which is not its own start. -/
def Command.confirmsStop (command : Command) : Prop := command.commandType = .stopTest ∧ command.status = .completed

instance (command : Command) : Decidable command.confirmsStop :=
  inferInstanceAs (Decidable (command.commandType = .stopTest ∧ command.status = .completed))

/-- The acknowledgement is for the current attempt and its status is an end the job may move to. -/
def Ends (job : Job) (command : Command) : Prop :=
  command.jobId ≠ "" ∧ (command.attemptId = "" ∨ command.attemptId = job.currentAttemptId) ∧
    ∃ status, command.status.jobStatus = some status ∧ status.terminal = true ∧ Allowed job.status status

theorem reportedStatus_unconfirmed {command : Command} (unconfirmed : ¬ command.confirmsStop) :
    reportedStatus command = command.status.jobStatus := if_neg unconfirmed

theorem AckMoves.of_job {db : Db} (distinct : (db.jobs.map (·.id)).Nodup) {job : Job} (member : job ∈ db.jobs)
    {command : Command} (own : command.jobId = job.id) {status : JobStatus} (moves : AckMoves db command status) :
    reportedStatus command = some status ∧ command.jobId ≠ "" ∧
      (command.attemptId = "" ∨ command.attemptId = job.currentAttemptId) ∧ Allowed job.status status := by
  obtain ⟨reporting,row,present,named,nonempty,current,allowed⟩ := moves
  rw [Table.eq_of_key distinct present member (named.trans own)] at current allowed
  exact ⟨reporting,nonempty,current,allowed⟩

section
variable {state : State} (distinct : (state.db.jobs.map (·.id)).Nodup) {job : Job} (member : job ∈ state.db.jobs)
include distinct member

theorem sync_ends {command : Command} (own : command.jobId = job.id) (unconfirmed : ¬ command.confirmsStop) (ends : Ends job command)
    (now : Nat) : ∀ row ∈ (syncJobFromCommand state command now).db.jobs, row.id = job.id → row.status.terminal = true := by
  obtain ⟨nonempty,current,status,reported,ended,allowed⟩ := ends
  have reporting : reportedStatus command = some status := (reportedStatus_unconfirmed unconfirmed).trans reported
  have moving : AckMoves state.db command status := ⟨reporting,job,member,own.symm,nonempty,current,allowed⟩
  cases syncJobFromCommand_synced state distinct command now with
  | silent _ _ still => exact absurd moving (still status)
  | again _ _ _ _ _ _ _ still => exact absurd moving (still status)
  | moves found target _ _ _ moves tables _ =>
    have same : target = status := by
      have known := moves.1
      rw [reporting] at known
      exact (Option.some.inj known).symm
    subst same
    intro row present named
    have jobs := congrArg Core.jobs tables
    rw [show (syncJobFromCommand state command now).db.jobs = _ from jobs] at present
    obtain ⟨old,inside,rfl⟩ := Table.mem_update.mp present
    split at named
    · rename_i chosen
      rw [if_pos chosen]
      exact ended
    · rename_i other
      exact absurd (named.trans own.symm) other

theorem sync_holds (going : job.status.terminal = false) {command : Command} (own : command.jobId = job.id)
    (unconfirmed : ¬ command.confirmsStop) (goesOn : ¬ Ends job command) (now : Nat) :
    StillHeld state (syncJobFromCommand state command now) job.id := by
  cases syncJobFromCommand_synced state distinct command now with
  | silent tables claims _ =>
    have jobs : (syncJobFromCommand state command now).db.jobs = _ := congrArg Core.jobs tables
    have leases : (syncJobFromCommand state command now).db.leases = _ := congrArg Core.leases tables
    unfold StillHeld
    rw [jobs,leases,claims]
    exact ⟨⟨job,member,rfl,going⟩,fun _ present _ _ => present,fun _ present _ _ => present⟩
  | again _ _ _ _ _ tables claims _ =>
    have jobs : (syncJobFromCommand state command now).db.jobs = _ := congrArg Core.jobs tables
    have leases : (syncJobFromCommand state command now).db.leases = _ := congrArg Core.leases tables
    unfold StillHeld
    rw [jobs,leases,claims]
    exact ⟨⟨job,member,rfl,going⟩,fun _ present _ _ => present,fun _ present _ _ => present⟩
  | moves found status _ _ _ moves tables claims =>
    obtain ⟨reporting,nonempty,current,allowed⟩ := moves.of_job distinct member own
    have open_ : status.terminal = false := by
      by_contra ended
      rw [reportedStatus_unconfirmed unconfirmed] at reporting
      exact goesOn ⟨nonempty,current,status,reporting,Bool.eq_true_of_not_eq_false ended,allowed⟩
    rw [open_] at tables claims
    have jobs : (syncJobFromCommand state command now).db.jobs = _ := congrArg Core.jobs tables
    have leases : (syncJobFromCommand state command now).db.leases = _ := congrArg Core.leases tables
    unfold StillHeld
    rw [jobs,leases,claims]
    refine ⟨⟨moved status command.error now job,?_,rfl,open_⟩,fun _ present _ _ => present,fun _ present _ _ => present⟩
    exact Table.mem_update.mpr ⟨job,member,if_pos own.symm⟩

end

/-- An acknowledgement that confirms no end keeps the job, its leases and its claims exactly
when its status is no end that the job may move to. -/
theorem unconfirmed_ack_keeps_job_iff (state : State) (distinct : (state.db.jobs.map (·.id)).Nodup) (job : Job)
    (member : job ∈ state.db.jobs) (going : job.status.terminal = false) (command : Command)
    (own : command.jobId = job.id) (unconfirmed : ¬ command.confirmsStop) (now : Nat) :
    StillHeld state (syncJobFromCommand state command now) job.id ↔ ¬ Ends job command := by
  constructor
  · rintro ⟨⟨row,present,named,live⟩,_⟩ ends
    rw [sync_ends distinct member own unconfirmed ends now row present named] at live
    cases live
  · intro goesOn
    exact sync_holds distinct member going own unconfirmed goesOn now

def stopRequest (status : CommandStatus) : List Op := delivery++
  [.createCommand {workerId := "w1", commandType := .stopTest, jobId := "job-1", attemptId := "attempt-1", commandUuid := "2"}
    false 2,
    .pollCommands "w1" 10 120 3,
    .ackCommand "w1" "cmd-2" ⟨status,{},""⟩ 4]

def stopAnswer (status : CommandStatus) : Command :=
  { id := "cmd-2", workerId := "w1", commandType := .stopTest, jobId := "job-1", attemptId := "attempt-1", payload := {}
    operationId := "cmd-2", traceId := "trace-", status := status, createdAt := 2, deliveredAt := some 3
    acknowledgedAt := some 4, updatedAt := 4 }

theorem unconfirmed_ack_keeps_job_iff_accepted : (Runs.exec (apply {}) {} (stopRequest .accepted)).db.jobs ≠ [] ∧
    ∀ job ∈ (Runs.exec (apply {}) {} (stopRequest .accepted)).db.jobs,
    StillHeld (Runs.exec (apply {}) {} (stopRequest .accepted))
        (syncJobFromCommand (Runs.exec (apply {}) {} (stopRequest .accepted)) (stopAnswer .accepted) 4) job.id ↔
      ¬ Ends job (stopAnswer .accepted) := by
  have going : ∀ job ∈ (Runs.exec (apply {}) {} (stopRequest .accepted)).db.jobs,
      job.status.terminal = false ∧ (stopAnswer .accepted).jobId = job.id := by
    decide +kernel
  refine ⟨by decide +kernel,fun job member => ?_⟩
  exact unconfirmed_ack_keeps_job_iff _ (by decide +kernel) job member (going job member).1 _ (going job member).2
    (by decide) 4

/-- The Worker could not stop the test: the failed stop fails the job and frees its device. -/
theorem failed_stop_releases_job : ¬ ∀ state, Reached {} acknowledged state → ∀ job ∈ state.db.jobs,
    job.status.terminal = false → Started state.db job.id → ∀ command ∈ state.db.commands, command.jobId = job.id →
    command.commandType ≠ .startTest → ¬ command.confirmsStop → ∀ now,
      StillHeld state (syncJobFromCommand state command now) job.id := by
  intro always
  have meets : Runs.Along (fun state op => apply {} op state) acknowledged {} (stopRequest .failed) := by
    decide +kernel
  have held : ∀ job ∈ (Runs.exec (apply {}) {} (stopRequest .failed)).db.jobs, job.status.terminal = false →
      Started (Runs.exec (apply {}) {} (stopRequest .failed)).db job.id →
      ∀ command ∈ (Runs.exec (apply {}) {} (stopRequest .failed)).db.commands, command.jobId = job.id →
      command.commandType ≠ .startTest → ¬ command.confirmsStop →
      StillHeld (Runs.exec (apply {}) {} (stopRequest .failed))
        (syncJobFromCommand (Runs.exec (apply {}) {} (stopRequest .failed)) command 4) job.id :=
    fun job member going started command present own other unconfirmed =>
      always _ (Runs.Reached.along .start _ meets) job member going started command present own other unconfirmed 4
  revert held
  decide +kernel

end GmsRemoteTest.Cluster
