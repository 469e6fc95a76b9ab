import GmsRemoteTest.Foundation.ClaimFencing
import GmsRemoteTest.Cluster.Lifecycle

/-! The Controller as a state machine over both databases. Every operation is one
atomic step at one clock reading; a run is any sequence of them from the empty
databases. Local locks and other services act on the claim registry alone. -/
namespace GmsRemoteTest.Cluster
open DeviceClaims

inductive Op
  | registerWorker (data : WorkerRegistration) (now : Nat)
  | heartbeat (workerId : String) (data : Heartbeat) (now : Nat)
  | markWorkerOffline (workerId : String) (now : Nat)
  | createJobWithLeases (data : JobCreate) (now : Nat)
  | createCommand (data : CommandCreate) (attachToJob : Bool) (now : Nat)
  | pollCommands (workerId : String) (limit redeliverySeconds now : Nat)
  | ackCommand (workerId commandId : String) (data : CommandAck) (now : Nat)
  | syncJobFromCommand (command : Command) (now : Nat)
  | compensateFailedDispatch (jobId reason attemptId : String) (now : Nat)
  | failAbandonedWorkerLostJobs (minAgeSeconds : Int) (now : Nat)
  | transitionJob (jobId : String) (toStatus : JobStatus) (note : TransitionNote) (now : Nat)
  | deleteJob (jobId : String)
  | reconcileClaims (now : Nat)
  | reserveDevices (request : ReservationRequest) (now : Nat)
  | renewReservation (reservationId : String) (ttlSeconds : Int) (now : Nat)
  | releaseReservation (reservationId : String) (status : ReservationStatus) (now : Nat)
  | acquireDeviceOperationClaim (workerId : String) (devices : List String) (ownerId sourceType sourceId : String)
      (ttlSeconds : Int) (username : String) (now : Nat)
  | registry (op : DeviceClaims.Op)

variable (settings : Settings)

def apply : Op → State → State
  | .registerWorker data now, state => registerWorker state data now
  | .heartbeat workerId data now, state => (heartbeat settings state workerId data now).2
  | .markWorkerOffline workerId now, state => markWorkerOffline state workerId now
  | .createJobWithLeases data now, state => (createJobWithLeases settings state data now).2
  | .createCommand data attachToJob now, state => (createCommand state data attachToJob now).2
  | .pollCommands workerId limit redelivery now, state => (pollCommands state workerId limit redelivery now).2
  | .ackCommand workerId commandId data now, state => (ackCommand state workerId commandId data now).2
  | .syncJobFromCommand command now, state => syncJobFromCommand state command now
  | .compensateFailedDispatch jobId reason attemptId now, state =>
    (compensateFailedDispatch state jobId reason attemptId now).2
  | .failAbandonedWorkerLostJobs minAge now, state => (failAbandonedWorkerLostJobs state minAge now).2
  | .transitionJob jobId toStatus note now, state => (transitionJob state jobId toStatus note now).2
  | .deleteJob jobId, state => (deleteJob state jobId).2
  | .reconcileClaims now, state => (reconcileClaims settings state now).2
  | .reserveDevices request now, state => (reserveDevices state request now).2
  | .renewReservation reservationId ttl now, state => (renewReservation state reservationId ttl now).2
  | .releaseReservation reservationId status now, state => (releaseReservation state reservationId status now).2
  | .acquireDeviceOperationClaim workerId devices ownerId sourceType sourceId ttl username now, state =>
    (acquireDeviceOperationClaim state workerId devices ownerId sourceType sourceId ttl username now).2
  | .registry op, state => {state with claims := DeviceClaims.apply op state.claims}

abbrev Reached (guard : State → Op → Prop) : State → Prop := Runs.Reached (apply settings) guard {}

def acknowledged (state : State) : Op → Prop
  | .syncJobFromCommand command _ => command ∈ state.db.commands
  | _ => True

instance (state : State) : DecidablePred (acknowledged state)
  | .syncJobFromCommand command _ => inferInstanceAs (Decidable (command ∈ state.db.commands))
  | .registerWorker .. | .heartbeat .. | .markWorkerOffline .. | .createJobWithLeases .. | .createCommand ..
  | .pollCommands .. | .ackCommand .. | .compensateFailedDispatch .. | .failAbandonedWorkerLostJobs ..
  | .transitionJob .. | .deleteJob .. | .reconcileClaims .. | .reserveDevices .. | .renewReservation ..
  | .releaseReservation .. | .acquireDeviceOperationClaim .. | .registry .. => inferInstanceAs (Decidable True)

def delivery : List Op :=
  [.registerWorker ⟨"w1",2,""⟩ 0,
    .heartbeat "w1" {devices := [{serial := "s1"}]} 0,
    .createJobWithLeases {workerId := "w1", devices := ["s1"], ownerId := "o", jobUuid := "1", attemptUuid := "1"} 0,
    .createCommand {
      workerId := "w1", commandType := .startTest, jobId := "job-1", attemptId := "attempt-1"
      operationId := "attempt-1:start_test", commandUuid := "1"} true 0,
    .pollCommands "w1" 10 120 1]

def deliveredAck (status : CommandStatus) (now : Nat) : Command :=
  { id := "cmd-1", workerId := "w1", commandType := .startTest, jobId := "job-1", attemptId := "attempt-1"
    payload := {}, operationId := "attempt-1:start_test", traceId := "trace-", status := status, createdAt := 0
    deliveredAt := some 1, acknowledgedAt := some now, updatedAt := now }

def completedRun : List Op :=
  delivery++[.ackCommand "w1" "cmd-1" ⟨.completed,{},""⟩ 2,.syncJobFromCommand (deliveredAck .completed 2) 2]

structure Linked (core : Core) : Prop where
  jobIds : (core.jobs.map (·.id)).Nodup
  attemptIds : (core.attempts.map (·.id)).Nodup
  commandIds : (core.commands.map (·.id)).Nodup
  attemptJob : ∀ attempt ∈ core.attempts, ∃ job ∈ core.jobs, job.id = attempt.jobId ∧ job.currentAttemptId = attempt.id
  jobAttempt : ∀ job ∈ core.jobs, ∃ attempt ∈ core.attempts, attempt.id = job.currentAttemptId ∧ attempt.jobId = job.id
  leaseJob : ∀ lease ∈ core.leases, ∃ job ∈ core.jobs, job.id = lease.jobId ∧ job.currentAttemptId = lease.attemptId

structure SameShape (before after : Core) : Prop where
  jobs : after.jobs.map (fun job => (job.id,job.currentAttemptId)) =
    before.jobs.map (fun job => (job.id,job.currentAttemptId))
  attempts : after.attempts.map (fun attempt => (attempt.id,attempt.jobId)) =
    before.attempts.map (fun attempt => (attempt.id,attempt.jobId))
  leases : after.leases.map (fun lease => (lease.jobId,lease.attemptId)) =
    before.leases.map (fun lease => (lease.jobId,lease.attemptId))
  commands : after.commands.map (·.id) = before.commands.map (·.id)

theorem SameShape.refl (core : Core) : SameShape core core := ⟨rfl,rfl,rfl,rfl⟩

theorem mem_of_map_eq {Row Value : Type} {field : Row → Value} {before after : List Row}
    (same : after.map field = before.map field) {row : Row} (member : row ∈ after) :
    ∃ old ∈ before, field old = field row := by
  have listed : field row ∈ before.map field := by
    rw [← same]
    exact List.mem_map_of_mem member
  exact List.mem_map.mp listed

theorem SameShape.linked {before after : Core} (same : SameShape before after) (linked : Linked before) :
    Linked after := by
  have firsts : ∀ {Row Value Other : Type} {first : Row → Value} {second : Row → Other} {left right : List Row},
      left.map (fun row => (first row,second row)) = right.map (fun row => (first row,second row)) →
      left.map first = right.map first := by
    intro Row Value Other first second left right equal
    have projected := congrArg (List.map Prod.fst) equal
    rw [List.map_map,List.map_map] at projected
    exact projected
  constructor
  · rw [firsts same.jobs]
    exact linked.jobIds
  · rw [firsts same.attempts]
    exact linked.attemptIds
  · rw [same.commands]
    exact linked.commandIds
  · intro attempt member
    obtain ⟨old,present,equal⟩ := mem_of_map_eq same.attempts member
    obtain ⟨job,inside,named,current⟩ := linked.attemptJob old present
    obtain ⟨new,there,matching⟩ := mem_of_map_eq same.jobs.symm inside
    simp only [Prod.mk.injEq] at equal matching
    exact ⟨new,there,by rw [matching.1,named,equal.2],by rw [matching.2,current,equal.1]⟩
  · intro job member
    obtain ⟨old,present,equal⟩ := mem_of_map_eq same.jobs member
    obtain ⟨attempt,inside,named,own⟩ := linked.jobAttempt old present
    obtain ⟨new,there,matching⟩ := mem_of_map_eq same.attempts.symm inside
    simp only [Prod.mk.injEq] at equal matching
    exact ⟨new,there,by rw [matching.1,named,equal.2],by rw [matching.2,own,equal.1]⟩
  · intro lease member
    obtain ⟨old,present,equal⟩ := mem_of_map_eq same.leases member
    obtain ⟨job,inside,named,current⟩ := linked.leaseJob old present
    obtain ⟨new,there,matching⟩ := mem_of_map_eq same.jobs.symm inside
    simp only [Prod.mk.injEq] at equal matching
    exact ⟨new,there,by rw [matching.1,named,equal.1],by rw [matching.2,current,equal.2]⟩

theorem SameShape.trans {first second third : Core} (left : SameShape first second) (right : SameShape second third) :
    SameShape first third :=
  ⟨right.jobs.trans left.jobs,right.attempts.trans left.attempts,right.leases.trans left.leases,
    right.commands.trans left.commands⟩

theorem move_shape (core : Core) (jobId : String) (status : JobStatus) (error : String) (now : Nat) :
    SameShape core (core.move jobId status error now) :=
  ⟨Table.map_update _ fun _ _ => rfl,rfl,rfl,rfl⟩

theorem report_shape (core : Core) (command : Command) (job : Job) (status : JobStatus) (ended : Bool) (now : Nat) :
    SameShape core (core.report command job status ended now) := by
  cases ended with
  | false => exact ⟨rfl,Table.map_update _ fun _ _ => rfl,rfl,rfl⟩
  | true => exact ⟨rfl,Table.map_update _ fun _ _ => rfl,Table.map_update _ fun _ _ => rfl,rfl⟩

theorem synced_shape {state : State} {command : Command} {now : Nat} {after : State}
    (synced : Synced state command now after) : SameShape state.db.core after.db.core := by
  cases synced with
  | silent tables =>
    rw [tables]
    exact .refl _
  | again job member named current reporting tables =>
    rw [tables]
    exact report_shape _ _ _ _ _ _
  | moves job status member named allowed moves tables =>
    rw [tables]
    exact (move_shape _ _ _ _ _).trans (report_shape _ _ _ _ _ _)

theorem dispatch_shape (core : Core) (job : Job) (now : Nat) : SameShape core (core.dispatch job now) :=
  ⟨Table.map_update _ fun _ _ => rfl,Table.map_update _ fun _ _ => rfl,rfl,rfl⟩

theorem attached_shape {core after : Core} {jobId : String} {command : Command} {newlyCreated : Bool} {now : Nat}
    (attached : Attached core jobId command newlyCreated now after) : SameShape core after := by
  cases attached with
  | kept => exact .refl _
  | dispatched => exact dispatch_shape _ _ _

theorem compensate_shape (core : Core) (job : Job) (error : String) (now : Nat) :
    SameShape core (core.compensate job error now) :=
  ⟨Table.map_update _ fun _ _ => rfl,Table.map_update _ fun _ _ => rfl,Table.map_update _ fun _ _ => rfl,
    Table.map_update _ fun _ _ => rfl⟩

theorem abandon_shape (core : Core) (job : Job) (now : Nat) : SameShape core (core.abandon job now) := by
  refine ⟨Table.map_update _ fun _ _ => rfl,?_,Table.map_update _ fun _ _ => rfl,rfl⟩
  unfold Core.abandon
  dsimp only
  split
  · rfl
  · exact Table.map_update _ fun _ _ => rfl

theorem revoke_shape (core : Core) (job : Job) (attemptId : String) (now : Nat) :
    SameShape core (core.revoke job attemptId now) := by
  refine ⟨?_,Table.map_update _ fun _ _ => rfl,Table.map_update _ fun _ _ => rfl,rfl⟩
  unfold Core.revoke
  dsimp only
  split
  · exact (move_shape core job.id .failed fencingError now).jobs
  · rfl

theorem beat_shape (core : Core) (workerId : String) (running : RunningJob) (now : Nat) :
    SameShape core (core.beat workerId running now) :=
  ⟨rfl,Table.map_update _ fun _ _ => rfl,rfl,rfl⟩

theorem resume_shape (core : Core) (job : Job) (workerId : String) (running : RunningJob) (now : Nat) :
    SameShape core (core.resume settings job workerId running now) := by
  refine ⟨?_,Table.map_update _ fun _ _ => rfl,?_,rfl⟩
  · unfold Core.resume
    dsimp only
    split
    · rfl
    · exact (move_shape core job.id .running "" now).jobs
  · have resumed : (resumeLeases settings core.leases workerId running.attemptId now).map
        (fun lease => (lease.jobId,lease.attemptId)) = core.leases.map (fun lease => (lease.jobId,lease.attemptId)) :=
      Table.map_update _ fun _ _ => rfl
    rw [← resumed]
    exact Table.map_update _ fun _ _ => rfl

theorem beaten_shape {committed : List Device} {state : State} {after : Core} {workerId : String} {running : RunningJob}
    {now : Nat} (beaten : Beaten settings committed state workerId running now after) :
    SameShape state.db.core after := by
  cases beaten with
  | idle => exact .refl _
  | revoked => exact revoke_shape _ _ _ _
  | kept => exact beat_shape _ _ _ _
  | resumed => exact resume_shape settings _ _ _ _ _

theorem lost_shape {core after : Core} {jobId : String} {now : Nat} (lost : Lost core jobId now after) :
    SameShape core after := by
  cases lost with
  | refused => exact .refl _
  | already => exact ⟨rfl,rfl,Table.map_update _ fun _ _ => rfl,rfl⟩
  | lost => exact ⟨Table.map_update _ fun _ _ => rfl,rfl,Table.map_update _ fun _ _ => rfl,rfl⟩

theorem abandoned_shape {core after : Core} {jobId : String} {now : Nat} (abandoned : Abandoned core jobId now after) :
    SameShape core after := by
  cases abandoned with
  | none => exact .refl _
  | failed => exact abandon_shape _ _ _

theorem unfenced_shape (core : Core) (jobId : String) (now : Nat) : SameShape core {core with
    jobs := Table.update (fun row => row.id = jobId ∧ row.status.occupied = true) (unfenced now) core.jobs} :=
  ⟨Table.map_update _ fun _ _ => rfl,rfl,rfl,rfl⟩

theorem touched_shape {core after : Core} (touched : CommandsTouched core after) : SameShape core after := by
  obtain ⟨jobs,attempts,leases,touch,same,each⟩ := touched
  refine ⟨by rw [jobs],by rw [attempts],by rw [leases],?_⟩
  rw [same,List.map_map]
  exact List.map_congr_left fun command member => (each command member).id

theorem Created.linked {core after : Core} {data : JobCreate} {now : Nat} (created : Created core data now after)
    (linked : Linked core) : Linked after := by
  cases created with
  | none => exact linked
  | added leases freshJob freshAttempt bound _ =>
    have newest : newJob data now ∈ core.jobs++[newJob data now] := by simp
    constructor
    · rw [List.map_append,List.nodup_append]
      refine ⟨linked.jobIds,by simp,?_⟩
      intro id old other new
      obtain ⟨job,member,rfl⟩ := List.mem_map.mp old
      rw [List.map_singleton,List.mem_singleton] at new
      rw [new]
      exact freshJob job member
    · rw [List.map_append,List.nodup_append]
      refine ⟨linked.attemptIds,by simp,?_⟩
      intro id old other new
      obtain ⟨attempt,member,rfl⟩ := List.mem_map.mp old
      rw [List.map_singleton,List.mem_singleton] at new
      rw [new]
      exact freshAttempt attempt member
    · exact linked.commandIds
    · intro attempt member
      rcases List.mem_append.mp member with old | new
      · obtain ⟨job,present,links⟩ := linked.attemptJob attempt old
        exact ⟨job,List.mem_append_left _ present,links⟩
      · rw [List.mem_singleton.mp new]
        exact ⟨_,newest,rfl,rfl⟩
    · intro job member
      rcases List.mem_append.mp member with old | new
      · obtain ⟨attempt,present,links⟩ := linked.jobAttempt job old
        exact ⟨attempt,List.mem_append_left _ present,links⟩
      · rw [List.mem_singleton.mp new]
        exact ⟨newAttempt data,by simp,rfl,rfl⟩
    · intro lease member
      rcases List.mem_append.mp member with old | new
      · obtain ⟨job,present,links⟩ := linked.leaseJob lease old
        exact ⟨job,List.mem_append_left _ present,links⟩
      · obtain ⟨own,attempt,_⟩ := bound lease new
        exact ⟨_,newest,own.symm,attempt.symm⟩

theorem Linked.same_attempt {core : Core} (linked : Linked core) {first second : Job} (left : first ∈ core.jobs)
    (right : second ∈ core.jobs) (same : first.currentAttemptId = second.currentAttemptId) : first = second := by
  obtain ⟨attempt,member,named,own⟩ := linked.jobAttempt first left
  obtain ⟨other,present,called,belongs⟩ := linked.jobAttempt second right
  have equal : attempt = other :=
    Table.eq_of_key linked.attemptIds member present (by rw [named,called,same])
  exact Table.eq_of_key linked.jobIds left right (by rw [← own,← belongs,equal])

theorem Linked.lease_attempt {core : Core} (linked : Linked core) {lease : Lease} (present : lease ∈ core.leases)
    {job : Job} (member : job ∈ core.jobs) (own : lease.jobId = job.id) : lease.attemptId = job.currentAttemptId := by
  obtain ⟨owner,inside,named,current⟩ := linked.leaseJob lease present
  have equal : owner = job := Table.eq_of_key linked.jobIds inside member (named.trans own)
  rw [← equal,current]

theorem Entry.current {core : Core} {workerId : String} {running : RunningJob} {job : Job}
    (entry : Entry core workerId running job) (linked : Linked core) : job.currentAttemptId = running.attemptId := by
  obtain ⟨attempt,present,named,_,own⟩ := entry.attempt
  obtain ⟨owner,inside,same,current⟩ := linked.attemptJob attempt present
  have equal : owner = job := Table.eq_of_key linked.jobIds inside entry.member (same.trans own)
  rw [← equal,current,named]

theorem Deleted.linked {core after : Core} {jobId : String} (deleted : Deleted core jobId after)
    (linked : Linked core) : Linked after := by
  cases deleted with
  | none => exact linked
  | gone _ _ _ _ =>
    constructor
    · exact linked.jobIds.sublist (List.filter_sublist.map _)
    · exact linked.attemptIds.sublist (List.filter_sublist.map _)
    · exact linked.commandIds.sublist (List.filter_sublist.map _)
    · intro attempt member
      obtain ⟨present,other⟩ := Table.mem_delete.mp member
      obtain ⟨job,inside,named,current⟩ := linked.attemptJob attempt present
      exact ⟨job,Table.mem_delete.mpr ⟨inside,by rw [named]; exact other⟩,named,current⟩
    · intro job member
      obtain ⟨present,other⟩ := Table.mem_delete.mp member
      obtain ⟨attempt,inside,named,own⟩ := linked.jobAttempt job present
      exact ⟨attempt,Table.mem_delete.mpr ⟨inside,by rw [own]; exact other⟩,named,own⟩
    · intro lease member
      obtain ⟨present,other⟩ := Table.mem_delete.mp member
      obtain ⟨job,inside,named,current⟩ := linked.leaseJob lease present
      exact ⟨job,Table.mem_delete.mpr ⟨inside,by rw [named]; exact other⟩,named,current⟩

theorem Linked.insert {core : Core} (linked : Linked core) {command : Command}
    (fresh : ∀ other ∈ core.commands, other.id ≠ command.id) :
    Linked {core with commands := core.commands++[command]} := by
  refine ⟨linked.jobIds,linked.attemptIds,?_,linked.attemptJob,linked.jobAttempt,linked.leaseJob⟩
  rw [List.map_append,List.nodup_append]
  refine ⟨linked.commandIds,by simp,?_⟩
  intro id old other new
  obtain ⟨row,member,rfl⟩ := List.mem_map.mp old
  rw [List.map_singleton,List.mem_singleton] at new
  rw [new]
  exact fresh row member

theorem Commanded.linked {core after : Core} {data : CommandCreate} {attachToJob : Bool} {now : Nat}
    (commanded : Commanded core data attachToJob now after) (linked : Linked core) : Linked after := by
  cases commanded with
  | none => exact linked
  | reused command member worker operation after attached => exact (attached_shape attached.2).linked linked
  | inserted command commandType job attempt worker operation status fresh distinct after attached =>
    have inserted := linked.insert fresh
    split at attached
    · exact (attached_shape attached).linked inserted
    · rw [attached]
      exact inserted

structure Conditions where
  create : JobCreate → Prop := fun _ => True
  command : State → CommandCreate → Bool → Prop := fun _ _ _ => True
  sync : State → Command → Prop := fun _ _ => True
  transition : State → String → JobStatus → Prop := fun _ _ _ => True
  compensate : State → String → Prop := fun _ _ => True
  abandon : State → String → Prop := fun _ _ => True
  beat : List Device → String → Nat → State → RunningJob → Prop := fun _ _ _ _ _ => True
  unfence : Db → Nat → Pass → Job → Prop := fun _ _ _ _ => True
  delete : String → Prop := fun _ => True

/-- A step of the Controller meets the conditions in the state before it; a loop
meets them at every turn. -/
def Conditions.guard (conditions : Conditions) (state : State) : Op → Prop
  | .createJobWithLeases data _ => conditions.create data
  | .createCommand data attachToJob _ => conditions.command state data attachToJob
  | .syncJobFromCommand command _ => conditions.sync state command
  | .transitionJob jobId toStatus _ _ => conditions.transition state jobId toStatus
  | .compensateFailedDispatch jobId _ _ _ => conditions.compensate state jobId
  | .failAbandonedWorkerLostJobs minAge now => AbandonsMeet now conditions.abandon state (abandonable state minAge now)
  | .heartbeat workerId data now =>
    BeatsMeet settings state workerId data now (conditions.beat state.db.devices workerId now)
  | .reconcileClaims now => PassMeets settings state now (conditions.unfence state.db now)
  | .deleteJob jobId => conditions.delete jobId
  | _ => True

structure Conditions.Keep (conditions : Conditions) (Inv : Core → Prop) : Prop where
  created : ∀ {core after : Core} {data now}, Linked core → Inv core → conditions.create data →
    Created core data now after → Inv after
  commanded : ∀ {state : State} {data attachToJob now after}, Linked state.db.core → Inv state.db.core →
    conditions.command state data attachToJob → Commanded state.db.core data attachToJob now after → Inv after
  touched : ∀ {core after : Core}, Linked core → Inv core → CommandsTouched core after → Inv after
  synced : ∀ {state : State} {command now after}, Linked state.db.core → Inv state.db.core →
    conditions.sync state command → Synced state command now after → Inv after.db.core
  compensated : ∀ {state : State} {jobId now after}, Linked state.db.core → Inv state.db.core →
    conditions.compensate state jobId → Compensated state jobId now after → Inv after.db.core
  abandoned : ∀ {state : State} {jobId now after}, Linked state.db.core → Inv state.db.core →
    conditions.abandon state jobId → Abandoned state.db.core jobId now after → Inv after
  transitioned : ∀ {state : State} {job : Job} {status error now}, Linked state.db.core → Inv state.db.core →
    conditions.transition state job.id status → job ∈ state.db.jobs → JobStatus.Allowed job.status status →
    Inv (state.db.core.move job.id status error now)
  deleted : ∀ {core after : Core} {jobId}, Linked core → Inv core → conditions.delete jobId →
    Deleted core jobId after → Inv after
  lost : ∀ {core after : Core} {jobId now}, Linked core → Inv core → Lost core jobId now after → Inv after
  beaten : ∀ {committed workerId now} {state : State} {running after}, Linked state.db.core → Inv state.db.core →
    conditions.beat committed workerId now state running →
    Beaten settings committed state workerId running now after → Inv after
  unfenced : ∀ {committed now} {pass : Pass} {job : Job}, Linked pass.db.core → Inv pass.db.core →
    conditions.unfence committed now pass job → Unfenceable settings committed now pass job →
    Inv {pass.db.core with
      jobs := Table.update (fun row => row.id = job.id ∧ row.status.occupied = true) (unfenced now) pass.db.jobs}

variable {settings}

theorem Conditions.Keep.apply {conditions : Conditions} {Inv : Core → Prop} (keep : conditions.Keep settings Inv)
    (op : Op) (state : State) (linked : Linked state.db.core) (holds : Inv state.db.core)
    (allowed : conditions.guard settings state op) :
    Linked (apply settings op state).db.core ∧ Inv (apply settings op state).db.core := by
  have unchanged : ∀ {after : State}, after.db.core = state.db.core → Linked after.db.core ∧ Inv after.db.core := by
    intro after same
    rw [same]
    exact ⟨linked,holds⟩
  cases op with
  | registerWorker data now => exact ⟨linked,holds⟩
  | heartbeat workerId data now =>
    refine heartbeat_invariant settings state workerId data now (fun core => Linked core ∧ Inv core) ?_
      ⟨linked,holds⟩ allowed
    intro current running held meets
    have beaten := beatJob_beaten settings state.db.devices workerId now current held.1.jobIds running
    exact ⟨(beaten_shape settings beaten).linked held.1,keep.beaten held.1 held.2 meets beaten⟩
  | markWorkerOffline workerId now =>
    refine markWorkerOffline_invariant state workerId now (fun core => Linked core ∧ Inv core) ?_ ⟨linked,holds⟩
    intro db jobId held
    have lost := loseJob_lost workerId now db held.1.jobIds jobId
    exact ⟨(lost_shape lost).linked held.1,keep.lost held.1 held.2 lost⟩
  | createJobWithLeases data now =>
    have created := createJobWithLeases_created settings state data now
    exact ⟨created.linked linked,keep.created linked holds allowed created⟩
  | createCommand data attachToJob now =>
    have commanded := createCommand_commanded state linked.jobIds data attachToJob now
    exact ⟨commanded.linked linked,keep.commanded linked holds allowed commanded⟩
  | pollCommands workerId limit redelivery now =>
    have touched := pollCommands_touched state linked.commandIds workerId limit redelivery now
    exact ⟨(touched_shape touched).linked linked,keep.touched linked holds touched⟩
  | ackCommand workerId commandId data now =>
    have touched := ackCommand_touched state linked.commandIds workerId commandId data now
    exact ⟨(touched_shape touched).linked linked,keep.touched linked holds touched⟩
  | syncJobFromCommand command now =>
    have synced := syncJobFromCommand_synced state linked.jobIds command now
    exact ⟨(synced_shape synced).linked linked,keep.synced linked holds allowed synced⟩
  | compensateFailedDispatch jobId reason attemptId now =>
    have compensated := compensateFailedDispatch_compensated state linked.jobIds jobId reason attemptId now
    refine ⟨?_,keep.compensated linked holds allowed compensated⟩
    change Linked (compensateFailedDispatch state jobId reason attemptId now).2.db.core
    cases compensated with
    | none tables =>
      rw [tables]
      exact linked
    | failed job member named waiting undelivered error tables =>
      rw [tables]
      exact (compensate_shape _ _ _ _).linked linked
  | failAbandonedWorkerLostJobs minAge now =>
    refine failAbandoned_invariant state minAge now (fun core => Linked core ∧ Inv core) ?_ ⟨linked,holds⟩ allowed
    intro current jobId held meets
    have abandoned := abandonJob_abandoned current held.1.jobIds jobId now
    exact ⟨(abandoned_shape abandoned).linked held.1,keep.abandoned held.1 held.2 meets abandoned⟩
  | transitionJob jobId toStatus note now =>
    change Linked (transitionJob state jobId toStatus note now).2.db.core ∧
      Inv (transitionJob state jobId toStatus note now).2.db.core
    rcases transitionJob_cases state linked.jobIds jobId toStatus note now with same | ⟨⟨job,member,rfl,edge⟩,same⟩
    · exact unchanged same
    · rw [same]
      exact ⟨(move_shape _ _ _ _ _).linked linked,keep.transitioned linked holds allowed member edge⟩
  | deleteJob jobId =>
    have deleted := deleteJob_deleted state jobId
    exact ⟨deleted.linked linked,keep.deleted linked holds allowed deleted⟩
  | reconcileClaims now =>
    refine reconcileClaims_invariant settings state now (fun core => Linked core ∧ Inv core) ?_ ⟨linked,holds⟩ allowed
    intro pass job held meets taken
    exact ⟨(unfenced_shape _ _ _).linked held.1,keep.unfenced held.1 held.2 meets taken⟩
  | reserveDevices request now => exact unchanged (reserveDevices_core state request now)
  | renewReservation reservationId ttl now => exact unchanged (renewReservation_core state reservationId ttl now)
  | releaseReservation reservationId status now =>
    exact unchanged (releaseReservation_core state reservationId status now)
  | acquireDeviceOperationClaim workerId devices ownerId sourceType sourceId ttl username now =>
    exact unchanged (congrArg Db.core
      (acquireDeviceOperationClaim_core state workerId devices ownerId sourceType sourceId ttl username now))
  | registry op => exact ⟨linked,holds⟩

theorem empty_linked : Linked ({} : State).db.core := by
  constructor <;> simp [Db.core]

theorem Conditions.Keep.reached {conditions : Conditions} {Inv : Core → Prop} (keep : conditions.Keep settings Inv)
    (initially : Inv ({} : State).db.core) {state : State} (reached : Reached settings (conditions.guard settings) state) :
    Linked state.db.core ∧ Inv state.db.core := by
  refine Runs.Reached.invariant (fun state : State => Linked state.db.core ∧ Inv state.db.core)
    ⟨empty_linked,initially⟩ ?_ reached
  intro state op held allowed
  exact keep.apply op state held.1 held.2 allowed

theorem unconditional (op : Op) (state : State) : ({} : Conditions).guard settings state op := by
  cases op with
  | heartbeat workerId data now => exact Runs.Meets.all (fun _ _ => trivial) _ _
  | failAbandonedWorkerLostJobs minAge now => exact Runs.Along.all (fun _ _ => trivial) _ _
  | reconcileClaims now => exact fun _ _ => Runs.Meets.all (fun _ _ => trivial) _ _
  | _ => trivial

theorem unconditional_keep : ({} : Conditions).Keep settings fun _ => True := by
  constructor <;> intros <;> trivial

theorem apply_linked (op : Op) {state : State} (linked : Linked state.db.core) : Linked (apply settings op state).db.core :=
  (unconditional_keep.apply op state linked trivial (unconditional op state)).1

theorem tables_linked {guard : State → Op → Prop} {state : State} (reached : Reached settings guard state) : Linked state.db.core :=
  reached.invariant (fun state : State => Linked state.db.core) empty_linked fun _ op linked _ => apply_linked op linked

/-- In every run of the Controller the ids are unique, a job has one attempt and a lease is of that attempt. -/
theorem run_linked (settings : Settings) (ops : List Op) : Linked (Runs.exec (apply settings) {} ops).db.core :=
  @Runs.exec_invariant _ _ _ (fun state : State => Linked state.db.core) (fun _ op linked => apply_linked op linked) {} empty_linked ops

end GmsRemoteTest.Cluster
