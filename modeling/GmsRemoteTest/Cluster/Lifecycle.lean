import GmsRemoteTest.Cluster.Jobs
import GmsRemoteTest.Cluster.Reconciliation

/-! What each repository operation can do to jobs, attempts, leases and commands.
Every invariant of the lifecycle is derived from these case lemmas; operations on
reservations, Workers and claims leave the four tables alone. -/
namespace GmsRemoteTest.Cluster
open DeviceClaims JobStatus

structure Core where
  jobs : List Job
  attempts : List Attempt
  leases : List Lease
  commands : List Command

def Db.core (db : Db) : Core := ⟨db.jobs,db.attempts,db.leases,db.commands⟩

@[simp] theorem core_append (db : Db) (event : TimelineEvent) : (db.append event).core = db.core := rfl

@[simp] theorem core_jobs (db : Db) : db.core.jobs = db.jobs := rfl
@[simp] theorem core_leases (db : Db) : db.core.leases = db.leases := rfl

theorem expireDeviceReservations_core (state : State) (now : Nat) :
    (expireDeviceReservations state now).db.core = state.db.core := by
  unfold expireDeviceReservations
  dsimp only
  split <;> rfl

theorem beforeBeats_core (state : State) (workerId : String) (data : Heartbeat) (now : Nat) :
    (beforeBeats state workerId data now).db.core = state.db.core := by
  unfold beforeBeats
  exact expireDeviceReservations_core _ now

theorem insertReserved_core {request : ReservationRequest} {reservationId : String} {now : Nat} {db next : Db}
    {device : Device} (done : insertReserved request reservationId now db device = .ok next) : next.core = db.core := by
  unfold insertReserved insertReservation at done
  dsimp only at done
  split at done
  · cases done
  split at done
  · cases done
  · cases done
    rfl

theorem reserveDevices_core (state : State) (request : ReservationRequest) (now : Nat) :
    (reserveDevices state request now).2.db.core = state.db.core := by
  have expired := expireDeviceReservations_core state now
  unfold reserveDevices
  dsimp only
  split
  · rfl
  split
  · split
    · split
      · rfl
      · exact expired
    · rfl
  · split
    · rfl
    · split
      · rfl
      · split
        · rfl
        · rename_i inserted
          exact (Runs.foldlM_invariant (fun db : Db => db.core = (expireDeviceReservations state now).db.core)
            (fun _ _ _ same done => (insertReserved_core done).trans same) _ rfl inserted).trans expired

theorem renewReservation_core (state : State) (reservationId : String) (ttlSeconds : Int) (now : Nat) :
    (renewReservation state reservationId ttlSeconds now).2.db.core = state.db.core := by
  have expired := expireDeviceReservations_core state now
  unfold renewReservation
  dsimp only
  split
  · exact expired
  · split
    · rfl
    · split <;> exact expired

theorem releaseReservation_core (state : State) (reservationId : String) (status : ReservationStatus) (now : Nat) :
    (releaseReservation state reservationId status now).2.db.core = state.db.core := by
  unfold releaseReservation
  dsimp only
  split
  · rfl
  · split <;> rfl

theorem acquireDeviceOperationClaim_core (state : State) (workerId : String) (devices : List String)
    (ownerId sourceType sourceId : String) (ttlSeconds : Int) (username : String) (now : Nat) :
    (acquireDeviceOperationClaim state workerId devices ownerId sourceType sourceId ttlSeconds username now).2.db =
      state.db := by
  unfold acquireDeviceOperationClaim
  dsimp only
  split
  · rfl
  · split <;> rfl

def Core.move (core : Core) (jobId : String) (status : JobStatus) (error : String) (now : Nat) : Core :=
  {core with jobs := Table.update (fun job => job.id = jobId) (moved status error now) core.jobs}

theorem transitionJob_cases (state : State) (distinct : (state.db.jobs.map (·.id)).Nodup) (jobId : String)
    (status : JobStatus) (note : TransitionNote) (now : Nat) :
    (transitionJob state jobId status note now).2.db.core = state.db.core ∨
    ((∃ job ∈ state.db.jobs, job.id = jobId ∧ Allowed job.status status) ∧
      (transitionJob state jobId status note now).2.db.core = state.db.core.move jobId status note.error now) := by
  unfold transitionJob
  dsimp only
  rcases transitionJobConn_cases distinct jobId status
    {note with message := Text.orElse note.message ("Cluster Job entered " ++ status.text)} now with
    ⟨same,_⟩ | ⟨_,_,_,_,_,same⟩ | ⟨job,member,named,allowed,event,same⟩
  · rw [same]
    exact .inl rfl
  · rw [same]
    exact .inl rfl
  · rw [same]
    exact .inr ⟨⟨job,member,named,allowed⟩,rfl⟩

theorem findJob_mem {db : Db} {id : String} {job : Job} (found : findJob db id = some job) :
    job ∈ db.jobs ∧ job.id = id := by
  have named := Table.fetch_selects found
  exact ⟨Table.fetch_mem found,named⟩

def AckMoves (db : Db) (command : Command) (status : JobStatus) : Prop :=
  reportedStatus command = some status ∧ ∃ job ∈ db.jobs, job.id = command.jobId ∧ command.jobId ≠ "" ∧
    (command.attemptId = "" ∨ command.attemptId = job.currentAttemptId) ∧ Allowed job.status status

def Core.report (core : Core) (command : Command) (job : Job) (status : JobStatus) (ended : Bool) (now : Nat) : Core :=
  {core with
    attempts := Table.update (fun attempt => attempt.id = job.currentAttemptId) (reported command status now) core.attempts
    leases := if ended then Table.update (fun lease => lease.jobId = command.jobId ∧ lease.status = .active)
      (closedLease .released now) core.leases else core.leases}

theorem syncAttempt_core (db : Db) (job : Job) (command : Command) (status : JobStatus) (ended : Bool) (now : Nat) :
    (syncAttempt db job command status ended now).core = db.core.report command job status ended now := by
  cases ended <;> rfl

inductive Synced (state : State) (command : Command) (now : Nat) (after : State) : Prop
  | silent (tables : after.db.core = state.db.core) (claims : after.claims = state.claims)
      (still : ∀ status, ¬ AckMoves state.db command status) : Synced state command now after
  | again (job : Job) (member : job ∈ state.db.jobs) (named : job.id = command.jobId)
      (current : command.attemptId = "" ∨ command.attemptId = job.currentAttemptId)
      (reporting : reportedStatus command = some job.status)
      (tables : after.db.core = state.db.core.report command job job.status false now)
      (claims : after.claims = state.claims)
      (still : ∀ status, ¬ AckMoves state.db command status) : Synced state command now after
  | moves (job : Job) (status : JobStatus) (member : job ∈ state.db.jobs) (named : job.id = command.jobId)
      (allowed : Allowed job.status status) (moves : AckMoves state.db command status)
      (tables : after.db.core = (state.db.core.move command.jobId status command.error now).report command job status
        status.terminal now)
      (claims : after.claims = if status.terminal then (release state.claims (jobSource command.jobId)
        (if status = .cancelled then .cancelled else .released) [] now).2 else state.claims) :
      Synced state command now after

theorem syncJobFromCommand_synced (state : State) (distinct : (state.db.jobs.map (·.id)).Nodup) (command : Command)
    (now : Nat) : Synced state command now (syncJobFromCommand state command now) := by
  unfold syncJobFromCommand
  cases reporting : reportedStatus command with
  | none =>
    refine .silent rfl rfl ?_
    rintro status ⟨known,_⟩
    rw [reporting] at known
    cases known
  | some status =>
    -- Every later `AckMoves` is about this status and the one job found.
    dsimp only
    split
    · rename_i empty
      refine .silent rfl rfl ?_
      rintro other ⟨_,job,_,_,nonempty,_⟩
      exact nonempty empty
    split
    · rename_i nonempty missing
      refine .silent rfl rfl ?_
      rintro other ⟨_,job,member,named,_⟩
      exact Table.fetch_none.mp missing job member named
    · rename_i nonempty _ job found
      obtain ⟨member,named⟩ := findJob_mem found
      have only : ∀ other ∈ state.db.jobs, other.id = command.jobId → other = job :=
        fun other present same => Table.eq_of_fetch distinct found present same
      split
      · rename_i stale
        refine .silent rfl rfl ?_
        rintro other ⟨_,row,present,same,_,fresh,_⟩
        rw [only row present same] at fresh
        rcases fresh with blank | current
        · exact stale.1 blank
        · exact stale.2 current
      · rename_i fresh
        have current : command.attemptId = "" ∨ command.attemptId = job.currentAttemptId := by
          by_contra neither
          exact fresh ⟨fun blank => neither (.inl blank),fun same => neither (.inr same)⟩
        have still : ¬ Allowed job.status status → ∀ other, ¬ AckMoves state.db command other := by
          rintro refused other ⟨known,row,present,same,_,_,allowed⟩
          rw [reporting] at known
          cases known
          rw [only row present same] at allowed
          exact refused allowed
        rcases transitionJobConn_cases distinct command.jobId status (ackNote command status) now with
          ⟨same,equal⟩ | ⟨row,present,matching,_,refused,same⟩ | ⟨row,present,matching,allowed,event,same⟩
        · have unchanged : job.status = status := equal job member named
          subst unchanged
          rw [same]
          exact .again job member named current reporting rfl rfl (still fun allowed => allowed.ne rfl)
        · rw [only row present matching] at refused
          rw [same]
          exact .silent rfl rfl (still refused)
        · rw [only row present matching] at allowed
          rw [same]
          refine .moves job status member named allowed ⟨reporting,job,member,named,nonempty,current,allowed⟩ ?_ (by simp)
          exact syncAttempt_core _ job command status (true && status.terminal) now

def Core.dispatch (core : Core) (job : Job) (now : Nat) : Core :=
  {core.move job.id .dispatching "" now with
    attempts := Table.update (fun attempt => attempt.id = job.currentAttemptId ∧ attempt.status = .assigned)
      (fun attempt => {attempt with status := .dispatching}) core.attempts}

inductive Attached (core : Core) (jobId : String) (command : Command) (newlyCreated : Bool) (now : Nat) : Core → Prop
  | kept (job : Job) (member : job ∈ core.jobs) (named : job.id = jobId) (own : command.jobId = jobId)
      (current : command.attemptId = "" ∨ command.attemptId = job.currentAttemptId)
      (elsewhere : job.status ≠ .assigned)
      (first : newlyCreated = true → job.status = .dispatching ∧ ∀ other ∈ core.commands, other.jobId = jobId →
        other.attemptId = job.currentAttemptId → other.commandType = .startTest → other.id = command.id) :
      Attached core jobId command newlyCreated now core
  | dispatched (job : Job) (member : job ∈ core.jobs) (named : job.id = jobId) (own : command.jobId = jobId)
      (current : command.attemptId = "" ∨ command.attemptId = job.currentAttemptId)
      (assigned : job.status = .assigned) : Attached core jobId command newlyCreated now (core.dispatch job now)

theorem dispatchAttached_core {db after : Db} (distinct : (db.jobs.map (·.id)).Nodup) {job : Job}
    (member : job ∈ db.jobs) (assigned : job.status = .assigned) {command : Command} {now : Nat}
    (done : dispatchAttached db job command now = .ok after) : after.core = db.core.dispatch job now := by
  unfold dispatchAttached at done
  rcases transitionJobConn_cases distinct job.id .dispatching (attachNote command) now with
    ⟨_,equal⟩ | ⟨_,_,_,_,_,same⟩ | ⟨_,_,_,_,event,same⟩
  · have wrong := equal job member rfl
    rw [assigned] at wrong
    cases wrong
  · rw [same] at done
    cases done
  · rw [same] at done
    cases done
    rfl

theorem attachCommandToJobConn_attached {db after : Db} (distinct : (db.jobs.map (·.id)).Nodup) {jobId : String}
    {command : Command} {newlyCreated : Bool} {now : Nat}
    (done : attachCommandToJobConn db jobId command newlyCreated now = .ok after) :
    Attached db.core jobId command newlyCreated now after.core := by
  unfold attachCommandToJobConn at done
  split at done
  · cases done
  · rename_i job found
    obtain ⟨member,named⟩ := findJob_mem found
    split at done
    · cases done
    · rename_i matching
      simp only [not_or,not_and,not_not,ne_eq] at matching
      obtain ⟨own,_,attempt⟩ := matching
      have current : command.attemptId = "" ∨ command.attemptId = job.currentAttemptId := by
        by_cases blank : command.attemptId = ""
        · exact .inl blank
        · exact .inr (attempt blank)
      split at done
      · rename_i elsewhere
        split at done
        · cases done
        · rename_i resumable
          cases done
          refine .kept job member named own current elsewhere ?_
          intro new
          have waiting : job.status = .dispatching ∧
              attemptHasNoStartCommand db jobId job.currentAttemptId command.id := by
            by_contra refused
            exact resumable ⟨new,refused⟩
          refine ⟨waiting.1,?_⟩
          intro other present same attempted start
          by_contra different
          exact waiting.2 ⟨other,present,same,attempted,start,.inr different⟩
      · rename_i assigned
        rw [not_not] at assigned
        rw [dispatchAttached_core distinct member assigned done]
        exact .dispatched job member named own current assigned

/-- What `create_command` did. -/
inductive Commanded (core : Core) (data : CommandCreate) (attachToJob : Bool) (now : Nat) : Core → Prop
  | none : Commanded core data attachToJob now core
  | reused (command : Command) (member : command ∈ core.commands) (worker : command.workerId = data.workerId)
      (operation : command.operationId = data.operationId) (after : Core)
      (attached : attachToJob = true ∧ Attached core data.jobId command false now after) :
      Commanded core data attachToJob now after
  | inserted (command : Command) (commandType : command.commandType = data.commandType)
      (job : command.jobId = data.jobId) (attempt : command.attemptId = data.attemptId)
      (worker : command.workerId = data.workerId)
      (operation : data.operationId ≠ "" → command.operationId = data.operationId)
      (status : command.status = data.initialStatus) (fresh : ∀ other ∈ core.commands, other.id ≠ command.id)
      (distinct : command.operationId ≠ "" → ∀ other ∈ core.commands, other.workerId = command.workerId →
        other.operationId ≠ command.operationId) (after : Core)
      (attached : if attachToJob then Attached {core with commands := core.commands++[command]} data.jobId command true
        now after else after = {core with commands := core.commands++[command]}) :
      Commanded core data attachToJob now after

theorem insertCommand_ok {db after : Db} {command : Command} (done : insertCommand db command = .ok after) :
    after = {db with commands := db.commands++[command]} ∧ (∀ other ∈ db.commands, other.id ≠ command.id) ∧
      (command.operationId ≠ "" → ∀ other ∈ db.commands, other.workerId = command.workerId →
        other.operationId ≠ command.operationId) := by
  unfold insertCommand at done
  split at done
  · cases done
  · rename_i vacant
    split at done
    · cases done
    split at done
    · cases done
    · rename_i single
      cases done
      refine ⟨rfl,?_,?_⟩
      · intro other present same
        have taken : command.id ∈ db.commands.map (·.id) := List.mem_map.mpr ⟨other,present,same⟩
        simp only [unused,decide_not] at vacant
        simp [taken] at vacant
      · intro nonempty other present worker operation
        exact single ⟨other,present,worker,operation,nonempty⟩

theorem map_eq_ok {Error Value Result : Type} {function : Value → Result} {value : Except Error Value} {result : Result}
    (done : value.map function = .ok result) : ∃ inner, value = .ok inner ∧ function inner = result := by
  cases value with
  | error error => cases done
  | ok inner =>
    cases done
    exact ⟨inner,rfl,rfl⟩

theorem reuseCommand_attached {db : Db} (distinct : (db.jobs.map (·.id)).Nodup) {command : Command}
    {data : CommandCreate} {attachToJob : Bool} {now : Nat} {result : Command × Db}
    (done : reuseCommand db command data attachToJob now = .ok result) :
    result.2.core = db.core ∨ (attachToJob = true ∧ Attached db.core data.jobId command false now result.2.core) := by
  unfold reuseCommand at done
  dsimp only at done
  split at done
  · cases done
  split at done
  · rename_i attach
    obtain ⟨after,attached,rfl⟩ := map_eq_ok done
    exact .inr ⟨attach,attachCommandToJobConn_attached distinct attached⟩
  · cases done
    exact .inl rfl

theorem persistCommand_inserted {db : Db} (distinct : (db.jobs.map (·.id)).Nodup) {data : CommandCreate}
    {attachToJob : Bool} {now : Nat} {result : Command × Db}
    (done : persistCommand db data attachToJob now = .ok result) :
    Commanded db.core data attachToJob now result.2.core := by
  unfold persistCommand at done
  dsimp only at done
  split at done
  · cases done
  · rename_i inserted found
    obtain ⟨rfl,fresh,single⟩ := insertCommand_ok found
    refine .inserted (newCommand db data now) rfl rfl rfl rfl ?_ rfl fresh single _ ?_
    · intro nonempty
      simp [newCommand,Text.orElse,nonempty]
    · split at done
      · rename_i attach
        obtain ⟨after,attached,rfl⟩ := map_eq_ok done
        rw [if_pos attach]
        refine attachCommandToJobConn_attached ?_ attached
        exact distinct
      · rename_i plain
        cases done
        rw [if_neg plain]
        rfl

theorem createCommand_commanded (state : State) (distinct : (state.db.jobs.map (·.id)).Nodup) (data : CommandCreate)
    (attachToJob : Bool) (now : Nat) :
    Commanded state.db.core data attachToJob now (createCommand state data attachToJob now).2.db.core := by
  unfold createCommand
  split
  · exact .none
  · rename_i command db done
    unfold createCommandTx at done
    dsimp only at done
    split at done
    · rename_i existing found
      split at found
      · cases found
      · have selected := Table.fetch_selects found
        rcases reuseCommand_attached distinct done with same | attached
        · change Commanded _ _ _ _ db.core
          rw [show db.core = state.db.core from same]
          exact .none
        · exact .reused existing (Table.fetch_mem found) selected.1 selected.2 _ attached
    · split at done
      · cases done
      · exact persistCommand_inserted distinct done

def Core.compensate (core : Core) (job : Job) (error : String) (now : Nat) : Core :=
  ⟨(core.move job.id .failed error now).jobs,
    Table.update (fun attempt => attempt.id = job.currentAttemptId)
      (fun attempt => {attempt with status := .failed, finishedAt := some now, error := error}) core.attempts,
    Table.update (fun lease => lease.jobId = job.id ∧ lease.status = .active) (closedLease .released now) core.leases,
    Table.update (fun command => command.jobId = job.id ∧ command.attemptId = job.currentAttemptId ∧
      command.commandType = .startTest ∧ command.status = .queued ∧ command.deliveredAt = none ∧
      command.acknowledgedAt = none)
      (fun command => {command with status := .cancelled, error := error, updatedAt := now}) core.commands⟩

theorem compensated_core {db after : Db} (distinct : (db.jobs.map (·.id)).Nodup) {job : Job} (member : job ∈ db.jobs)
    (live : job.status ≠ .failed) {error : String} {now : Nat} (done : compensated db job error now = .ok after) :
    after.core = db.core.compensate job error now := by
  unfold compensated at done
  rcases transitionJobConn_cases distinct job.id .failed (compensateNote error) now with
    ⟨_,equal⟩ | ⟨_,_,_,_,_,same⟩ | ⟨_,_,_,_,event,same⟩
  · exact absurd (equal job member rfl) live
  · rw [same] at done
    cases done
  · rw [same] at done
    cases done
    rfl

inductive Compensated (state : State) (jobId : String) (now : Nat) (after : State) : Prop
  | none (tables : after.db.core = state.db.core) (claims : after.claims = state.claims) :
      Compensated state jobId now after
  | failed (job : Job) (member : job ∈ state.db.jobs) (named : job.id = jobId)
      (waiting : job.status = .assigned ∨ job.status = .dispatching)
      (undelivered : ¬ deliveredStart state.db jobId job.currentAttemptId) (error : String)
      (tables : after.db.core = state.db.core.compensate job error now)
      (claims : after.claims = (release state.claims (jobSource jobId) .failed [] now).2) :
      Compensated state jobId now after

theorem compensateFailedDispatch_compensated (state : State) (distinct : (state.db.jobs.map (·.id)).Nodup)
    (jobId reason attemptId : String) (now : Nat) :
    Compensated state jobId now (compensateFailedDispatch state jobId reason attemptId now).2 := by
  unfold compensateFailedDispatch
  split
  · exact .none rfl rfl
  · rename_i job found
    obtain ⟨member,named⟩ := findJob_mem found
    split
    · exact .none rfl rfl
    · rename_i eligible
      split
      · exact .none rfl rfl
      · rename_i undelivered
        split
        · exact .none rfl rfl
        · rename_i after done
          have waiting : job.status = .assigned ∨ job.status = .dispatching := by
            by_contra neither
            exact eligible (.inl neither)
          have live : job.status ≠ .failed := by
            rcases waiting with same | same <;> simp [same]
          exact .failed job member named waiting undelivered _ (compensated_core distinct member live done) rfl

def Core.abandon (core : Core) (job : Job) (now : Nat) : Core :=
  {core.move job.id .failed abandonedError now with
    attempts := if job.currentAttemptId = "" then core.attempts
      else Table.update (fun attempt => attempt.id = job.currentAttemptId ∧ attempt.status.terminal = false)
        (fun attempt => {attempt with status := .failed, finishedAt := some now, error := abandonedError}) core.attempts
    leases := Table.update (fun lease => lease.jobId = job.id ∧ lease.status.live = true)
      (closedLease .released now) core.leases}

inductive Abandoned (core : Core) (jobId : String) (now : Nat) : Core → Prop
  | none : Abandoned core jobId now core
  | failed (job : Job) (member : job ∈ core.jobs) (named : job.id = jobId) (allowed : Allowed job.status .failed) :
      Abandoned core jobId now (core.abandon job now)

theorem fetch_moved {jobs : List Job} (distinct : (jobs.map (·.id)).Nodup) {job : Job} (member : job ∈ jobs)
    (status : JobStatus) (error : String) (now : Nat) :
    (Table.fetch (fun row => row.id = job.id) (Table.update (fun row => row.id = job.id) (moved status error now) jobs)).map
      (·.currentAttemptId) = some job.currentAttemptId := by
  have same : (Table.update (fun row => row.id = job.id) (moved status error now) jobs).map (·.id) = jobs.map (·.id) :=
    Table.map_update (fun row : Job => row.id) (fun _ _ => rfl)
  have present : moved status error now job ∈ Table.update (fun row => row.id = job.id) (moved status error now) jobs :=
    Table.mem_update.mpr ⟨job,member,by simp⟩
  have named : (moved status error now job).id = job.id := rfl
  obtain ⟨found,fetched⟩ := Table.fetch_isSome (fun row : Job => row.id = job.id) present named
  rw [fetched,← Table.eq_of_fetch (by rw [same]; exact distinct) fetched present named]
  rfl

theorem abandonJob_abandoned (state : State) (distinct : (state.db.jobs.map (·.id)).Nodup) (jobId : String) (now : Nat) :
    Abandoned state.db.core jobId now (abandonJob state jobId now).2.db.core := by
  unfold abandonJob
  rcases transitionJobConn_cases distinct jobId .failed abandonNote now with
    ⟨same,_⟩ | ⟨_,_,_,_,_,same⟩ | ⟨job,member,named,allowed,event,same⟩
  · rw [same]
    exact .none
  · rw [same]
    exact .none
  · subst named
    rw [same]
    have current := fetch_moved distinct member .failed abandonNote.error now
    have failed : Abandoned state.db.core job.id now (state.db.core.abandon job now) := .failed job member rfl allowed
    refine cast ?_ failed
    simp only [Db.core,Core.abandon,Core.move,current,Option.getD_some]
    rfl

def Core.revoke (core : Core) (job : Job) (attemptId : String) (now : Nat) : Core :=
  ⟨if Allowed job.status .failed then (core.move job.id .failed fencingError now).jobs else core.jobs,
    Table.update (fun attempt => attempt.id = attemptId)
      (fun attempt => {attempt with status := .failed, finishedAt := some now, error := fencingError}) core.attempts,
    Table.update (fun lease => lease.attemptId = attemptId ∧ lease.status.live = true) (closedLease .revoked now) core.leases,
    core.commands⟩

/-- The attempt of a heartbeat entry runs; nothing else follows when its job cannot run. -/
def Core.beat (core : Core) (workerId : String) (running : RunningJob) (now : Nat) : Core :=
  {core with attempts := beatAttempts core.attempts workerId running now}

def Core.resume (core : Core) (settings : Settings) (job : Job) (workerId : String) (running : RunningJob)
    (now : Nat) : Core :=
  ⟨if job.status = .running then core.jobs else (core.move job.id .running "" now).jobs,
    (core.beat workerId running now).attempts,
    Table.update (fun lease => lease.attemptId = running.attemptId ∧ lease.status = .active)
      (fun lease => {lease with heartbeatAt := now, expiresAt := now + settings.claimLeaseTtlSeconds})
      (resumeLeases settings core.leases workerId running.attemptId now),
    core.commands⟩

/-- The job of a heartbeat entry, through an attempt of the reporting Worker. -/
structure Entry (core : Core) (workerId : String) (running : RunningJob) (job : Job) : Prop where
  internal : running.external = false
  member : job ∈ core.jobs
  attempt : ∃ attempt ∈ core.attempts, attempt.id = running.attemptId ∧ attempt.workerId = workerId ∧
    attempt.jobId = job.id

theorem entryJob_entry {db : Db} {workerId : String} {running : RunningJob} {job : Job}
    (internal : running.external = false) (found : entryJob db workerId running.attemptId = some job) :
    Entry db.core workerId running job := by
  unfold entryJob at found
  obtain ⟨attempt,fetched,joined⟩ := Option.bind_eq_some_iff.mp found
  obtain ⟨member,named⟩ := findJob_mem joined
  have selected := Table.fetch_selects fetched
  exact ⟨internal,member,attempt,Table.fetch_mem fetched,selected.1,selected.2,named.symm⟩

def Unrenewable (settings : Settings) (committed : List Device) (state : State) (job : Job) (attemptId : String)
    (now : Nat) : Prop :=
  (renewJobDeviceClaim settings committed state.claims job.id job.ownerId (liveDevices state.db.leases attemptId) now).1 =
    false

inductive Beaten (settings : Settings) (committed : List Device) (state : State) (workerId : String)
    (running : RunningJob) (now : Nat) : Core → Prop
  | idle : Beaten settings committed state workerId running now state.db.core
  | revoked (job : Job) (entry : Entry state.db.core workerId running job)
      (expired : Unrenewable settings committed state job running.attemptId now) :
      Beaten settings committed state workerId running now (state.db.core.revoke job running.attemptId now)
  | kept (job : Job) (entry : Entry state.db.core workerId running job)
      (renewed : ¬ Unrenewable settings committed state job running.attemptId now)
      (elsewhere : job.status ≠ .running) (refused : ¬ Allowed job.status .running) :
      Beaten settings committed state workerId running now (state.db.core.beat workerId running now)
  | resumed (job : Job) (entry : Entry state.db.core workerId running job)
      (renewed : ¬ Unrenewable settings committed state job running.attemptId now)
      (runs : job.status = .running ∨ Allowed job.status .running) :
      Beaten settings committed state workerId running now (state.db.core.resume settings job workerId running now)

theorem revokeAttempt_core (state : State) (distinct : (state.db.jobs.map (·.id)).Nodup) (job : Job)
    (member : job ∈ state.db.jobs) (workerId attemptId : String) (now : Nat) :
    (revokeAttempt state job workerId attemptId now).db.core = state.db.core.revoke job attemptId now := by
  unfold revokeAttempt
  rcases transitionJobConn_cases distinct job.id .failed (fencingNote workerId) now with
    ⟨same,equal⟩ | ⟨row,present,named,_,refused,same⟩ | ⟨row,present,named,allowed,event,same⟩
  · have refused : ¬ Allowed job.status .failed := by
      rw [equal job member rfl]
      decide
    rw [same]
    simp only [Core.revoke,if_neg refused]
    rfl
  · rw [Table.eq_of_key distinct present member named] at refused
    rw [same]
    simp only [Core.revoke,if_neg refused]
    rfl
  · rw [Table.eq_of_key distinct present member named] at allowed
    rw [same]
    simp only [Core.revoke,if_pos allowed]
    rfl

theorem resumeAttempt_beaten {settings : Settings} {committed : List Device} {state : State} {after : Db}
    (distinct : (state.db.jobs.map (·.id)).Nodup) {job : Job} {workerId : String} {running : RunningJob} {now : Nat}
    (entry : Entry state.db.core workerId running job)
    (renewed : ¬ Unrenewable settings committed state job running.attemptId now)
    (done : resumeAttempt settings state.db job workerId running now = .ok after) :
    Beaten settings committed state workerId running now after.core := by
  unfold resumeAttempt at done
  dsimp only at done
  have member := entry.member
  rcases @transitionJobConn_cases {state.db with attempts := beatAttempts state.db.attempts workerId running now} distinct
    job.id .running (resumeNote workerId) now with
    ⟨same,equal⟩ | ⟨row,present,named,different,refused,same⟩ | ⟨row,present,named,allowed,event,same⟩
  · have runs : job.status = .running := equal job member rfl
    have resumed : Beaten settings committed state workerId running now _ := .resumed job entry renewed (.inl runs)
    rw [same] at done
    dsimp only at done
    split at done
    · cases done
    · cases done
      simp only [Core.resume,if_pos runs] at resumed
      exact resumed
  · rw [Table.eq_of_key distinct present member named] at different refused
    rw [same] at done
    cases done
    exact .kept job entry renewed different refused
  · rw [Table.eq_of_key distinct present member named] at allowed
    have resumed : Beaten settings committed state workerId running now _ := .resumed job entry renewed (.inr allowed)
    rw [same] at done
    dsimp only at done
    split at done
    · cases done
    · cases done
      simp only [Core.resume,if_neg allowed.ne] at resumed
      exact resumed

theorem beatJob_beaten (settings : Settings) (committed : List Device) (workerId : String) (now : Nat) (state : State)
    (distinct : (state.db.jobs.map (·.id)).Nodup) (running : RunningJob) :
    Beaten settings committed state workerId running now
      (beatJob settings committed workerId now state running).2.db.core := by
  unfold beatJob
  split
  · exact .idle
  rename_i internal
  split
  · exact .idle
  · rename_i job found
    have entry := entryJob_entry (Bool.eq_false_iff.mpr internal) found
    dsimp only
    split
    · rename_i renewed
      split
      · exact .idle
      · rename_i db done
        exact resumeAttempt_beaten distinct entry (fun expired => Bool.false_ne_true (expired.symm.trans renewed)) done
    · rename_i expired
      rw [Bool.not_eq_true] at expired
      have revoked : Beaten settings committed state workerId running now _ := .revoked job entry expired
      rw [← revokeAttempt_core {state with claims := _} distinct job entry.member workerId] at revoked
      exact revoked

/-- One turn of the offline loop: the leases are orphaned unless the job refuses. -/
inductive Lost (core : Core) (jobId : String) (now : Nat) : Core → Prop
  | refused : Lost core jobId now core
  | already (lost : ∀ job ∈ core.jobs, job.id = jobId → job.status = .workerLost) :
      Lost core jobId now {core with leases := orphanLeases core.leases jobId}
  | lost (job : Job) (member : job ∈ core.jobs) (named : job.id = jobId) (allowed : Allowed job.status .workerLost)
      (error : String) :
      Lost core jobId now {core.move jobId .workerLost error now with leases := orphanLeases core.leases jobId}

theorem loseJob_lost (workerId : String) (now : Nat) (db : Db) (distinct : (db.jobs.map (·.id)).Nodup) (jobId : String) :
    Lost db.core jobId now (loseJob workerId now db jobId).core := by
  unfold loseJob
  rcases transitionJobConn_cases distinct jobId .workerLost (offlineNote workerId) now with
    ⟨same,equal⟩ | ⟨_,_,_,_,_,same⟩ | ⟨job,member,named,allowed,event,same⟩
  · rw [same]
    exact .already equal
  · rw [same]
    exact .refused
  · rw [same]
    exact .lost job member named allowed _

def Unfenceable (settings : Settings) (committed : Db) (now : Nat) (pass : Pass) (job : Job) : Prop :=
  let read := sourceClaims pass (jobSource job.id) now
  ¬ (read.1 ≠ [] ∨ leasedDevices read.2.db.leases job.id = []) ∧
    ∃ held, (refence settings committed read.2 job now).1 = .ok ⟨false,held⟩

def PassMeets (settings : Settings) (state : State) (now : Nat) (ok : Pass → Job → Prop) : Prop :=
  ∀ finished, (reservationPhase state now).1 = .ok finished →
    Runs.Meets (reconcileActive settings state.db now) ok (terminalPhase now (reservationPhase state now).2)
      (Table.select (fun job => job.status.occupied = true) (terminalPhase now (reservationPhase state now).2).db.jobs)

theorem reconcileReservation_db (committed : Db) (now : Nat) (pass : Pass) (row : ReservationKey) :
    (reconcileReservation committed now pass row).2.db = pass.db := by
  unfold reconcileReservation
  dsimp only
  split
  · split <;> rfl
  · split <;> rfl

theorem reservationPhase_db (state : State) (now : Nat) : (reservationPhase state now).2.db = (startPass state now).db := by
  refine Runs.loop_invariant (fun pass : Pass => pass.db = (startPass state now).db) ?_ _ rfl
    (Runs.Meets.all (fun _ _ => trivial) _ _)
  intro pass row same _
  rw [reconcileReservation_db]
  exact same

theorem reservationPhase_core (state : State) (now : Nat) : (reservationPhase state now).2.db.core = state.db.core := by
  rw [reservationPhase_db]
  exact expireDeviceReservations_core state now

theorem terminalPhase_db (now : Nat) (pass : Pass) : (terminalPhase now pass).db = pass.db := by
  unfold terminalPhase
  generalize (Table.select (fun job => job.status.terminal = true) pass.db.jobs).map (·.id) = jobIds
  induction jobIds generalizing pass with
  | nil => rfl
  | cons jobId jobIds ih =>
    rw [List.foldl_cons,ih]
    unfold reconcileFinished
    dsimp only
    split <;> rfl

theorem reconcileActive_cases (settings : Settings) (committed : Db) (now : Nat) (pass : Pass) (job : Job) :
    (reconcileActive settings committed now pass job).2.db = pass.db ∨
    (Unfenceable settings committed now pass job ∧ (reconcileActive settings committed now pass job).2.db =
      {pass.db with
        jobs := Table.update (fun row => row.id = job.id ∧ row.status.occupied = true) (unfenced now) pass.db.jobs}) := by
  unfold reconcileActive
  dsimp only
  split
  · exact .inl rfl
  · rename_i bare
    split
    · exact .inl rfl
    · rename_i acquisition found
      split
      · exact .inl rfl
      · rename_i taken
        refine .inr ⟨⟨bare,acquisition.records,?_⟩,rfl⟩
        rw [found]
        simp only [Bool.not_eq_true] at taken
        rw [← taken]

theorem reconcileClaims_invariant (settings : Settings) (state : State) (now : Nat) {ok : Pass → Job → Prop}
    (Inv : Core → Prop)
    (kept : ∀ pass job, Inv pass.db.core → ok pass job → Unfenceable settings state.db now pass job →
      Inv {pass.db.core with
        jobs := Table.update (fun row => row.id = job.id ∧ row.status.occupied = true) (unfenced now) pass.db.jobs})
    (holds : Inv state.db.core) (meets : PassMeets settings state now ok) :
    Inv (reconcileClaims settings state now).2.db.core := by
  have first := reservationPhase_core state now
  unfold PassMeets at meets
  unfold reconcileClaims activePhase
  generalize reservationPhase state now = reserved at first meets ⊢
  obtain ⟨result,pass⟩ := reserved
  cases result with
  | error error => exact holds
  | ok finished =>
    dsimp only at first meets ⊢
    have second : Inv (terminalPhase now pass).db.core := by
      rw [terminalPhase_db,first]
      exact holds
    have third := Runs.loop_invariant (fun pass : Pass => Inv pass.db.core) (fun pass job same allowed => by
      rcases reconcileActive_cases settings state.db now pass job with alone | ⟨taken,failed⟩
      · rw [alone]
        exact same
      · rw [failed]
        exact kept pass job same allowed taken) _ second (meets finished rfl)
    split
    · exact holds
    · rename_i done found
      rw [found] at third
      exact third

def BeatsMeet (settings : Settings) (state : State) (workerId : String) (data : Heartbeat) (now : Nat)
    (ok : State → RunningJob → Prop) : Prop :=
  Runs.Meets (beatJob settings state.db.devices workerId now) ok (beforeBeats state workerId data now) data.runningJobs

theorem heartbeat_invariant (settings : Settings) (state : State) (workerId : String) (data : Heartbeat) (now : Nat)
    {ok : State → RunningJob → Prop} (Inv : Core → Prop)
    (kept : ∀ current running, Inv current.db.core → ok current running →
      Inv (beatJob settings state.db.devices workerId now current running).2.db.core)
    (holds : Inv state.db.core) (meets : BeatsMeet settings state workerId data now ok) :
    Inv (heartbeat settings state workerId data now).2.db.core := by
  have ready : Inv (beforeBeats state workerId data now).db.core := by
    rw [beforeBeats_core]
    exact holds
  have beaten := Runs.loop_invariant (fun current : State => Inv current.db.core) kept _ ready meets
  unfold heartbeat
  split
  · exact holds
  split
  · exact holds
  dsimp only
  split
  · exact holds
  split
  · exact holds
  · rename_i done found
    rw [found] at beaten
    exact beaten

theorem markWorkerOffline_invariant (state : State) (workerId : String) (now : Nat) (Inv : Core → Prop)
    (kept : ∀ db jobId, Inv db.core → Inv (loseJob workerId now db jobId).core)
    (holds : Inv state.db.core) : Inv (markWorkerOffline state workerId now).db.core := by
  have turns : ∀ (jobIds : List String) (db : Db), Inv db.core → Inv (jobIds.foldl (loseJob workerId now) db).core := by
    intro jobIds
    induction jobIds with
    | nil => exact fun _ start => start
    | cons jobId jobIds ih => exact fun db start => ih _ (kept db jobId start)
  unfold markWorkerOffline
  rw [core_append]
  exact turns _ _ holds

def AbandonsMeet (now : Nat) (ok : State → String → Prop) : State → List String → Prop :=
  Runs.Along (fun state jobId => (abandonJob state jobId now).2) ok

theorem abandonLoop_invariant (now : Nat) {ok : State → String → Prop} (Inv : Core → Prop)
    (kept : ∀ state jobId, Inv state.db.core → ok state jobId → Inv (abandonJob state jobId now).2.db.core)
    (jobIds : List String) (state : State) (holds : Inv state.db.core) (meets : AbandonsMeet now ok state jobIds) :
    Inv (abandonLoop now state jobIds).2.db.core := by
  induction jobIds generalizing state with
  | nil => exact holds
  | cons jobId jobIds ih => exact ih _ (kept state jobId holds meets.1) meets.2

def abandonable (state : State) (minAgeSeconds : Int) (now : Nat) : List String :=
  (Table.select (fun job => job.status = .workerLost ∧
    job.lastTransitionAt.any (fun changed => (changed : Int) ≤ now - minAgeSeconds) = true) state.db.jobs).map (·.id)

theorem failAbandoned_invariant (state : State) (minAgeSeconds : Int) (now : Nat) {ok : State → String → Prop}
    (Inv : Core → Prop)
    (kept : ∀ state jobId, Inv state.db.core → ok state jobId → Inv (abandonJob state jobId now).2.db.core)
    (holds : Inv state.db.core) (meets : AbandonsMeet now ok state (abandonable state minAgeSeconds now)) :
    Inv (failAbandonedWorkerLostJobs state minAgeSeconds now).2.db.core := by
  unfold failAbandonedWorkerLostJobs
  split
  · exact holds
  · exact abandonLoop_invariant now Inv kept _ state holds meets

inductive Created (core : Core) (data : JobCreate) (now : Nat) : Core → Prop
  | none : Created core data now core
  | added (leases : List Lease) (freshJob : ∀ job ∈ core.jobs, job.id ≠ data.jobId)
      (freshAttempt : ∀ attempt ∈ core.attempts, attempt.id ≠ data.attemptId)
      (bound : ∀ lease ∈ leases, lease.jobId = data.jobId ∧ lease.attemptId = data.attemptId ∧ lease.status = .active)
      (alone : ∀ job ∈ core.jobs, job.assignedWorkerId = data.workerId → job.status.occupied = true →
        job.request.exclusiveHost = false ∧ data.exclusiveHost = false) :
      Created core data now ⟨core.jobs++[newJob data now],core.attempts++[newAttempt data],core.leases++leases,
        core.commands⟩

theorem unused_iff {Row Value : Type} [DecidableEq Value] {field : Row → Value} {rows : List Row} {value : Value} :
    unused field rows value = true ↔ ∀ row ∈ rows, field row ≠ value := by
  simp [unused]

section
variable {settings : Settings} {data : JobCreate} {records : List Claim} {reservedDevices : List String} {now : Nat} {db after : Db}

theorem leaseDevice_core {rawId : String}
    (done : leaseDevice settings data records reservedDevices now db rawId = .ok after) :
    ∃ lease : Lease, lease.jobId = data.jobId ∧ lease.attemptId = data.attemptId ∧ lease.status = .active ∧
      after.core = {db.core with leases := db.leases++[lease]} := by
  unfold leaseDevice at done
  dsimp only at done
  split at done
  · cases done
  split at done
  · cases done
  split at done
  · cases done
  split at done
  · cases done
  split at done
  · cases done
  · cases done
    exact ⟨_,rfl,rfl,rfl,rfl⟩

theorem leaseLoop_core {rawIds : List String}
    (done : rawIds.foldlM (leaseDevice settings data records reservedDevices now) db = .ok after) :
    ∃ leases : List Lease, (∀ lease ∈ leases, lease.jobId = data.jobId ∧ lease.attemptId = data.attemptId ∧
      lease.status = .active) ∧ after.core = {db.core with leases := db.leases++leases} := by
  refine Runs.foldlM_invariant (fun current : Db => ∃ leases : List Lease, (∀ lease ∈ leases,
    lease.jobId = data.jobId ∧ lease.attemptId = data.attemptId ∧ lease.status = .active) ∧
    current.core = {db.core with leases := db.leases++leases}) ?_ rawIds ⟨[],by simp,by simp [Db.core]⟩ done
  rintro current rawId next ⟨leases,bound,same⟩ turn
  obtain ⟨lease,job,attempt,active,added⟩ := leaseDevice_core turn
  refine ⟨leases++[lease],?_,?_⟩
  · intro one member
    rcases List.mem_append.mp member with old | new
    · exact bound one old
    · rw [List.mem_singleton.mp new]
      exact ⟨job,attempt,active⟩
  · have earlier := congrArg Core.leases same
    simp only [core_leases] at earlier
    rw [added,same,earlier,List.append_assoc]

end

theorem admitJob_alone {settings : Settings} {db : Db} {data : JobCreate} (admitted : admitJob settings db data = .ok ())
    {job : Job} (member : job ∈ db.jobs) (worker : job.assignedWorkerId = data.workerId)
    (busy : job.status.occupied = true) : job.request.exclusiveHost = false ∧ data.exclusiveHost = false := by
  unfold admitJob at admitted
  split at admitted
  · cases admitted
  dsimp only at admitted
  split at admitted
  · cases admitted
  split at admitted
  · cases admitted
  split at admitted
  · cases admitted
  · rename_i free
    have listed : job ∈ Table.select (fun job => job.assignedWorkerId = data.workerId ∧ job.status.occupied = true)
        db.jobs := Table.mem_select.mpr ⟨member,worker,busy⟩
    rw [not_or,not_and,not_or] at free
    constructor
    · by_contra exclusive
      exact free.1 ⟨job,listed,by simpa using exclusive⟩
    · by_contra exclusive
      exact (free.2 (by simpa using exclusive)).1 (List.ne_nil_of_mem listed)

section
variable {settings : Settings} {db after : Db} {data : JobCreate} {records : List Claim} {now : Nat}
  (done : insertJobWithLeases settings db data records now = .ok after)
include done

theorem insertJobWithLeases_added :
    (∀ job ∈ db.jobs, job.id ≠ data.jobId) ∧ after.jobs = db.jobs++[newJob data now] ∧ Created db.core data now after.core := by
  unfold insertJobWithLeases at done
  simp only [bind,Except.bind,pure,Except.pure] at done
  split at done
  · cases done
  rename_i admitted
  split at done
  · cases done
  split at done
  · cases done
  · rename_i inserted found
    split at done
    · cases done
    · rename_i leasedDb loop
      cases done
      unfold insertJob at found
      split at found
      · cases found
      · rename_i freshJob
        split at found
        · cases found
        split at found
        · cases found
        · rename_i freshAttempt
          cases found
          obtain ⟨leases,bound,same⟩ := leaseLoop_core loop
          rw [not_not,unused_iff] at freshJob freshAttempt
          have created : Created db.core data now _ := .added leases freshJob freshAttempt bound
            fun job member worker busy => admitJob_alone admitted member worker busy
          refine ⟨freshJob,congrArg Core.jobs same,?_⟩
          rw [core_append]
          change Created db.core data now leasedDb.core
          rw [same]
          exact created

theorem insertJobWithLeases_created :
    Created db.core data now after.core := (insertJobWithLeases_added done).2.2

end

theorem createJobMetadata_created (settings : Settings) (state : State) (data : JobCreate) (records : List Claim)
    (now : Nat) : Created state.db.core data now (createJobMetadata settings state data records now).2.db.core := by
  have expired := expireDeviceReservations_core state now
  unfold createJobMetadata
  dsimp only
  split
  · exact .none
  · rename_i db done
    have created := insertJobWithLeases_created done
    rw [expired] at created
    exact created

theorem createJobWithLeases_created (settings : Settings) (state : State) (data : JobCreate) (now : Nat) :
    Created state.db.core data now (createJobWithLeases settings state data now).2.db.core := by
  unfold createJobWithLeases
  split
  · exact .none
  · rename_i claims registry _
    have created := createJobMetadata_created settings {state with claims := registry} data claims.records now
    split <;> rename_i found <;> rw [found] at created <;> exact created

inductive Deleted (core : Core) (jobId : String) : Core → Prop
  | none : Deleted core jobId core
  | gone (job : Job) (member : job ∈ core.jobs) (named : job.id = jobId) (terminal : job.status.terminal = true) :
      Deleted core jobId ⟨Table.delete (fun job => job.id = jobId) core.jobs,
        Table.delete (fun attempt => attempt.jobId = jobId) core.attempts,
        Table.delete (fun lease => lease.jobId = jobId) core.leases,
        Table.delete (fun command => command.jobId = jobId) core.commands⟩

theorem deleteJob_deleted (state : State) (jobId : String) :
    Deleted state.db.core jobId (deleteJob state jobId).2.db.core := by
  unfold deleteJob
  split
  · exact .none
  · rename_i job found
    obtain ⟨member,named⟩ := findJob_mem found
    split
    · exact .none
    · rename_i terminal
      exact .gone job member named (by simpa using terminal)

def CommandStatus.pending : CommandStatus → Bool
  | .queued | .delivered => true
  | _ => false

structure Touched (before after : Command) : Prop where
  id : after.id = before.id
  workerId : after.workerId = before.workerId
  commandType : after.commandType = before.commandType
  jobId : after.jobId = before.jobId
  attemptId : after.attemptId = before.attemptId
  operationId : after.operationId = before.operationId
  pending : after.status.pending = true → before.status.pending = true

theorem Touched.refl (command : Command) : Touched command command := ⟨rfl,rfl,rfl,rfl,rfl,rfl,fun waits => waits⟩

structure CommandsTouched (before after : Core) : Prop where
  jobs : after.jobs = before.jobs
  attempts : after.attempts = before.attempts
  leases : after.leases = before.leases
  commands : ∃ touch : Command → Command, after.commands = before.commands.map touch ∧
    ∀ command ∈ before.commands, Touched command (touch command)

theorem CommandsTouched.refl (core : Core) : CommandsTouched core core :=
  ⟨rfl,rfl,rfl,fun command => command,by simp,fun command _ => .refl command⟩

theorem Touched.trans {first second third : Command} (left : Touched first second) (right : Touched second third) :
    Touched first third :=
  ⟨right.id.trans left.id,right.workerId.trans left.workerId,right.commandType.trans left.commandType,
    right.jobId.trans left.jobId,right.attemptId.trans left.attemptId,right.operationId.trans left.operationId,
    fun waits => left.pending (right.pending waits)⟩

theorem pending_of_rank {current incoming : CommandStatus} (rank : current.rank ≤ incoming.rank)
    (waits : incoming.pending = true) : current.pending = true := by
  revert rank waits
  cases current <;> cases incoming <;> decide

theorem ackCommand_touched (state : State) (distinct : (state.db.commands.map (·.id)).Nodup) (workerId commandId : String)
    (data : CommandAck) (now : Nat) :
    CommandsTouched state.db.core (ackCommand state workerId commandId data now).2.db.core := by
  unfold ackCommand
  split
  · exact .refl _
  · rename_i current found
    split
    · exact .refl _
    · rename_i newer
      refine ⟨rfl,rfl,rfl,_,rfl,?_⟩
      intro command member
      dsimp only
      split
      · rename_i chosen
        refine ⟨rfl,rfl,rfl,rfl,rfl,rfl,?_⟩
        intro waits
        have selected := Table.fetch_selects found
        have equal : command = current :=
          Table.eq_of_key distinct member (Table.fetch_mem found) (chosen.1.trans selected.1.symm)
        rw [equal]
        simp only [not_or,not_lt] at newer
        exact pending_of_rank newer.2 waits
      · exact .refl command

theorem deliver_touched {commands chosen : List Command} (distinct : (commands.map (·.id)).Nodup)
    (queued : ∀ row ∈ chosen, row ∈ commands ∧ row.status = .queued) (now : Nat) {command : Command}
    (member : command ∈ commands) :
    Touched command (if command.id ∈ chosen.map (·.id) then
      {command with status := .delivered, deliveredAt := some now, updatedAt := now} else command) := by
  split
  · rename_i named
    obtain ⟨row,present,same⟩ := List.mem_map.mp named
    obtain ⟨inside,waiting⟩ := queued row present
    have equal : command = row := Table.eq_of_key distinct member inside same.symm
    refine ⟨rfl,rfl,rfl,rfl,rfl,rfl,fun _ => ?_⟩
    rw [equal,waiting]
    rfl
  · exact .refl command

theorem requeue_touched (commands : List Command) (workerId : String) (redeliverySeconds now : Nat) :
    ∃ touch : Command → Command, requeue commands workerId redeliverySeconds now = commands.map touch ∧
      ∀ command, Touched command (touch command) := by
  refine ⟨_,rfl,?_⟩
  intro command
  dsimp only
  split
  · rename_i chosen
    refine ⟨rfl,rfl,rfl,rfl,rfl,rfl,fun _ => ?_⟩
    rw [chosen.2.1]
    rfl
  · exact .refl command

theorem nextCommands_queued {commands : List Command} {workerId : String} {limit : Nat} {command : Command}
    (member : command ∈ nextCommands commands workerId limit) :
    command ∈ commands ∧ command.workerId = workerId ∧ command.status = .queued := by
  have sorted := List.mem_of_mem_take member
  rw [List.mem_insertionSort] at sorted
  exact Table.mem_select.mp sorted

theorem pollCommands_touched (state : State) (distinct : (state.db.commands.map (·.id)).Nodup) (workerId : String)
    (limit redeliverySeconds now : Nat) :
    CommandsTouched state.db.core (pollCommands state workerId limit redeliverySeconds now).2.db.core := by
  obtain ⟨touch,same,touched⟩ := requeue_touched state.db.commands workerId redeliverySeconds now
  have ids : ((requeue state.db.commands workerId redeliverySeconds now).map (·.id)).Nodup := by
    have equal : (fun command => (touch command).id) = fun command => command.id := by
      funext command
      exact (touched command).id
    rw [same,List.map_map]
    change (state.db.commands.map fun command => (touch command).id).Nodup
    rw [equal]
    exact distinct
  refine ⟨rfl,rfl,rfl,fun command => if (touch command).id ∈
    (nextCommands (requeue state.db.commands workerId redeliverySeconds now) workerId limit).map (·.id) then
    {touch command with status := .delivered, deliveredAt := some now, updatedAt := now} else touch command,?_,?_⟩
  · change Table.update _ _ (requeue state.db.commands workerId redeliverySeconds now) = _
    unfold Table.update
    conv_lhs => rw [same]
    rw [List.map_map,same]
    rfl
  · intro command member
    have inside : touch command ∈ requeue state.db.commands workerId redeliverySeconds now := by
      rw [same]
      exact List.mem_map_of_mem member
    exact (touched command).trans (deliver_touched ids
      (fun row chosen => ⟨(nextCommands_queued chosen).1,(nextCommands_queued chosen).2.2⟩) now inside)

end GmsRemoteTest.Cluster
