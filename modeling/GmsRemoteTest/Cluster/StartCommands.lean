import GmsRemoteTest.Cluster.Records

/-! One start command for an attempt. A start names the attempt in its operation id and is attached to
the job in the transaction that inserts it, and the operation ids of a Worker are distinct. -/
namespace GmsRemoteTest.Cluster
open DeviceClaims Text JobStatus

def Command.link (command : Command) : String × String × CommandType × String × String × String :=
  (command.id,command.workerId,command.commandType,command.jobId,command.attemptId,command.operationId)

def Job.link (job : Job) : String × String × String := (job.id,job.currentAttemptId,job.assignedWorkerId)

structure SameLinks (before after : Core) : Prop where
  jobs : after.jobs.map Job.link = before.jobs.map Job.link
  commands : after.commands.map Command.link = before.commands.map Command.link
  assigned : ∀ row ∈ after.jobs, row.status = .assigned → ∃ job ∈ before.jobs, job.id = row.id ∧ job.status = .assigned

def Command.startedJob (command : Command) (job : Job) : Prop :=
  job.id = command.jobId ∧ job.currentAttemptId = command.attemptId ∧ job.assignedWorkerId = command.workerId ∧ job.status ≠ .assigned

structure StartsAttached (core : Core) : Prop where
  attempts : ∀ job ∈ core.jobs, job.currentAttemptId ≠ ""
  operations : ∀ first ∈ core.commands, ∀ second ∈ core.commands, first.workerId = second.workerId →
    first.operationId = second.operationId → first.operationId ≠ "" → first.id = second.id
  starts : ∀ command ∈ core.commands, command.commandType = .startTest → command.operationId = command.attemptId ++ ":start_test" ∧
    ∃ job ∈ core.jobs, command.startedJob job

theorem StartsAttached.one {core : Core} (started : StartsAttached core) (linked : Linked core) {first second : Command} (left : first ∈ core.commands)
    (right : second ∈ core.commands) (start : first.commandType = .startTest) (also : second.commandType = .startTest)
    (same : first.attemptId = second.attemptId) : first = second := by
  obtain ⟨operation,job,member,_,current,worker,_⟩ := started.starts first left start
  obtain ⟨other,row,present,_,running,site,_⟩ := started.starts second right also
  obtain ⟨attempt,there,named,own⟩ := linked.jobAttempt job member
  obtain ⟨again,here,called,owned⟩ := linked.jobAttempt row present
  have attempts : attempt = again :=
    Table.eq_of_key linked.attemptIds there here (by rw [named,called,current,running,same])
  have jobs : job = row := Table.eq_of_key linked.jobIds member present (by rw [← own,← owned,attempts])
  have ids : first.id = second.id := by
    refine started.operations first left second right ?_ ?_ ?_
    · rw [← worker,← site,jobs]
    · rw [operation,other,same]
    · rw [operation]
      intro empty
      have letters := congrArg String.toList empty
      rw [String.toList_append] at letters
      simp at letters
  exact Table.eq_of_key linked.commandIds left right ids

namespace SameLinks

theorem refl (core : Core) : SameLinks core core := ⟨rfl,rfl,fun row member assigned => ⟨row,member,rfl,assigned⟩⟩

theorem ids {before after : Core} (same : SameLinks before after) : after.jobs.map (·.id) = before.jobs.map (·.id) := by
  have projected := congrArg (List.map Prod.fst) same.jobs
  rw [List.map_map,List.map_map] at projected
  exact projected

theorem kept {before after : Core} (jobs : after.jobs = before.jobs)
    (commands : after.commands.map Command.link = before.commands.map Command.link) : SameLinks before after := by
  refine ⟨by rw [jobs],commands,?_⟩
  rw [jobs]
  exact (refl before).assigned

theorem updated {before after : Core} {selects : Job → Prop} [DecidablePred selects] {set : Job → Job}
    (jobs : after.jobs = Table.update selects set before.jobs) (link : ∀ job, (set job).link = job.link)
    (left : ∀ job, (set job).status ≠ .assigned) (commands : after.commands.map Command.link = before.commands.map Command.link) :
    SameLinks before after := by
  refine ⟨?_,commands,?_⟩
  · rw [jobs]
    exact Table.map_update _ fun job _ => link job
  · intro row member assigned
    rw [jobs] at member
    obtain ⟨old,present,rfl⟩ := Table.mem_update.mp member
    split at assigned
    · exact absurd assigned (left old)
    · rename_i unselected
      rw [if_neg unselected]
      exact ⟨old,present,rfl,assigned⟩

theorem started {before after : Core} (same : SameLinks before after) (linked : Linked before) (started : StartsAttached before) : StartsAttached after := by
  have commands : ∀ command ∈ after.commands, ∃ old ∈ before.commands, old.link = command.link :=
    fun command member => mem_of_map_eq same.commands member
  refine ⟨?_,?_,?_⟩
  · intro job member
    obtain ⟨old,present,equal⟩ := mem_of_map_eq same.jobs member
    simp only [Job.link,Prod.mk.injEq] at equal
    rw [← equal.2.1]
    exact started.attempts old present
  · intro first left second right
    obtain ⟨one,there,equal⟩ := commands first left
    obtain ⟨two,here,alike⟩ := commands second right
    simp only [Command.link,Prod.mk.injEq] at equal alike
    rw [← equal.1,← equal.2.1,← equal.2.2.2.2.2,← alike.1,← alike.2.1,← alike.2.2.2.2.2]
    exact started.operations one there two here
  · intro command member start
    obtain ⟨old,present,equal⟩ := commands command member
    simp only [Command.link,Prod.mk.injEq] at equal
    obtain ⟨operation,job,inside,named,current,worker,left⟩ := started.starts old present (equal.2.2.1.trans start)
    obtain ⟨row,there,alike⟩ := mem_of_map_eq same.jobs.symm inside
    simp only [Job.link,Prod.mk.injEq] at alike
    refine ⟨by rw [← equal.2.2.2.2.2,← equal.2.2.2.2.1,operation],row,there,?_,?_,?_,?_⟩
    · rw [alike.1,named,equal.2.2.2.1]
    · rw [alike.2.1,current,equal.2.2.2.2.1]
    · rw [alike.2.2,worker,equal.2.1]
    · intro assigned
      obtain ⟨waiting,earlier,called,status⟩ := same.assigned row there assigned
      rw [Table.eq_of_key linked.jobIds earlier inside (called.trans alike.1)] at status
      exact left status

end SameLinks

section
variable {core after : Core}

theorem moved_links {jobId : String} {status : JobStatus} {error : String} {now : Nat} (left : status ≠ .assigned)
    (jobs : after.jobs = (core.move jobId status error now).jobs) (commands : after.commands.map Command.link = core.commands.map Command.link) :
    SameLinks core after := .updated jobs (fun _ => rfl) (fun _ => left) commands

theorem JobStatus.Allowed.left {source target : JobStatus} (allowed : Allowed source target) : target ≠ .assigned := by
  rintro rfl
  revert allowed
  cases source <;> decide

theorem attached_links {jobId : String} {command : Command} {newlyCreated : Bool} {now : Nat}
    (attached : Attached core jobId command newlyCreated now after) : SameLinks core after := by
  cases attached with
  | kept => exact .refl _
  | dispatched job => exact moved_links (by decide) rfl rfl

theorem commanded_ids {data : CommandCreate} {attachToJob : Bool} {now : Nat} (commanded : Commanded core data attachToJob now after) :
    after.jobs.map (·.id) = core.jobs.map (·.id) := by
  cases commanded with
  | none => rfl
  | reused command member worker operation after attached => exact (attached_links attached.2).ids
  | inserted command kind job attempt worker operation status fresh distinct after attached =>
    split at attached
    · exact (attached_links attached).ids
    · rw [attached]

theorem synced_links {state synced : State} {command : Command} {now : Nat} (done : Synced state command now synced) :
    SameLinks state.db.core synced.db.core := by
  cases done with
  | silent tables =>
    rw [tables]
    exact .refl _
  | again job member named current reporting tables =>
    rw [tables]
    exact .kept rfl rfl
  | moves job status member named allowed moves tables =>
    rw [tables]
    exact moved_links allowed.left rfl rfl

theorem compensated_links {state failed : State} {jobId : String} {now : Nat} (done : Compensated state jobId now failed) :
    SameLinks state.db.core failed.db.core := by
  cases done with
  | none tables =>
    rw [tables]
    exact .refl _
  | failed job member named waiting undelivered error tables =>
    rw [tables]
    exact moved_links (by decide) rfl (Table.map_update _ fun _ _ => rfl)

theorem created_started {data : JobCreate} {now : Nat} (started : StartsAttached core) (created : Created core data now after) :
    StartsAttached after := by
  cases created with
  | none => exact started
  | added leases freshJob freshAttempt owned alone =>
    refine ⟨?_,started.operations,?_⟩
    · intro job member
      obtain old | new := List.mem_append.mp member
      · exact started.attempts job old
      · rw [List.mem_singleton.mp new]
        intro empty
        have letters := congrArg String.toList (show "attempt-" ++ data.attemptUuid = "" from empty)
        rw [String.toList_append] at letters
        simp at letters
    · intro command member start
      obtain ⟨operation,job,inside,rest⟩ := started.starts command member start
      exact ⟨operation,job,List.mem_append_left _ inside,rest⟩

theorem deleted_started {jobId : String} (started : StartsAttached core) (deleted : Deleted core jobId after) : StartsAttached after := by
  cases deleted with
  | none => exact started
  | gone =>
    refine ⟨?_,?_,?_⟩
    · exact fun job member => started.attempts job (Table.mem_delete.mp member).1
    · exact fun first left second right => started.operations first (Table.mem_delete.mp left).1 second (Table.mem_delete.mp right).1
    · intro command member start
      obtain ⟨kept,other⟩ := Table.mem_delete.mp member
      obtain ⟨operation,job,inside,named,rest⟩ := started.starts command kept start
      exact ⟨operation,job,Table.mem_delete.mpr ⟨inside,fun same => other (named.symm.trans same)⟩,named,rest⟩

end

def Dispatched (data : CommandCreate) (attachToJob : Bool) : Prop :=
  data.commandType = .startTest → attachToJob = true ∧ data.attemptId ≠ "" ∧ data.operationId = data.attemptId ++ ":start_test"

instance (data : CommandCreate) (attachToJob : Bool) : Decidable (Dispatched data attachToJob) :=
  inferInstanceAs (Decidable (_ → _ ∧ _ ∧ _))

theorem attachCommandToJobConn_checks {db after : Db} {jobId : String} {command : Command} {newlyCreated : Bool} {now : Nat}
    (done : attachCommandToJobConn db jobId command newlyCreated now = .ok after) :
    command.jobId = jobId ∧ ∃ job ∈ db.jobs, job.id = jobId ∧ job.assignedWorkerId = command.workerId ∧
      (command.attemptId ≠ "" → job.currentAttemptId = command.attemptId) := by
  unfold attachCommandToJobConn at done
  split at done
  · cases done
  rename_i job found
  obtain ⟨member,named⟩ := findJob_mem found
  split at done
  · cases done
  rename_i matching
  rw [not_or,not_or,not_and] at matching
  obtain ⟨own,worker,attempt⟩ := matching
  refine ⟨not_not.mp own,job,member,named,(not_not.mp worker).symm,?_⟩
  intro stated
  exact (not_not.mp (attempt stated)).symm

theorem inserted_started {core : Core} {command : Command} (started : StartsAttached core) (distinct : command.operationId ≠ "" →
      ∀ other ∈ core.commands, other.workerId = command.workerId → other.operationId ≠ command.operationId)
    (start : command.commandType = .startTest → command.operationId = command.attemptId ++ ":start_test" ∧
      ∃ job ∈ core.jobs, command.startedJob job) : StartsAttached {core with commands := core.commands++[command]} := by
  refine ⟨started.attempts,?_,?_⟩
  · intro first left second right worker operation named
    obtain old | new := List.mem_append.mp left
    · obtain other | added := List.mem_append.mp right
      · exact started.operations first old second other worker operation named
      · rw [List.mem_singleton.mp added] at worker operation
        exact absurd operation (distinct (by rw [← operation]; exact named) first old worker)
    · rw [List.mem_singleton.mp new] at worker operation named
      obtain other | added := List.mem_append.mp right
      · exact absurd operation.symm (distinct named second other worker.symm)
      · rw [List.mem_singleton.mp new,List.mem_singleton.mp added]
  · intro row member first
    obtain old | new := List.mem_append.mp member
    · exact started.starts row old first
    · rw [List.mem_singleton.mp new] at first ⊢
      exact start first

theorem attached_started {core after : Core} {command : Command} {now : Nat} (linked : Linked core) (started : StartsAttached core)
    (distinct : command.operationId ≠ "" →
      ∀ other ∈ core.commands, other.workerId = command.workerId → other.operationId ≠ command.operationId)
    (operation : command.commandType = .startTest → command.operationId = command.attemptId ++ ":start_test")
    {job : Job} (member : job ∈ core.jobs) (named : job.id = command.jobId) (worker : job.assignedWorkerId = command.workerId)
    (current : command.commandType = .startTest → job.currentAttemptId = command.attemptId)
    (attached : Attached {core with commands := core.commands++[command]} command.jobId command true now after) : StartsAttached after := by
  cases attached with
  | kept row present called own attempt elsewhere first =>
    have same : row = job := Table.eq_of_key linked.jobIds present member (called.trans named.symm)
    refine inserted_started started distinct fun start => ⟨operation start,job,member,named,current start,worker,?_⟩
    rw [← same]
    exact elsewhere
  | dispatched row present called own attempt assigned =>
    have same : row = job := Table.eq_of_key linked.jobIds present member (called.trans named.symm)
    have dispatching : SameLinks core (core.dispatch row now) := moved_links (by decide) rfl rfl
    refine inserted_started (dispatching.started linked started) distinct fun start => ?_
    refine ⟨operation start,_,Table.mem_update.mpr ⟨job,member,rfl⟩,?_⟩
    rw [if_pos (by rw [same])]
    refine ⟨named,current start,worker,?_⟩
    intro still
    cases still

theorem persistCommand_started {db : Db} (linked : Linked db.core) (started : StartsAttached db.core) {data : CommandCreate} {attachToJob : Bool}
    {now : Nat} (dispatched : Dispatched data attachToJob) {result : Command × Db}
    (done : persistCommand db data attachToJob now = .ok result) : StartsAttached result.2.core := by
  unfold persistCommand at done
  dsimp only at done
  split at done
  · cases done
  rename_i inserted found
  obtain ⟨rfl,fresh,single⟩ := insertCommand_ok found
  by_cases attach : attachToJob = true
  · rw [if_pos attach] at done
    obtain ⟨after,attached,rfl⟩ := map_eq_ok done
    obtain ⟨own,job,member,named,worker,current⟩ := attachCommandToJobConn_checks attached
    refine attached_started linked started single ?_ member named worker ?_ (attachCommandToJobConn_attached (by exact linked.jobIds) attached)
    · intro start
      obtain ⟨-,stated,operation⟩ := dispatched start
      have nonempty : data.operationId ≠ "" := by
        rw [operation]
        intro empty
        have letters := congrArg String.toList empty
        rw [String.toList_append] at letters
        simp at letters
      change orElse data.operationId _ = data.attemptId ++ ":start_test"
      rw [orElse,if_neg nonempty,operation]
    · exact fun start => current (dispatched start).2.1
  · rw [if_neg attach] at done
    cases done
    refine inserted_started started single fun start => ?_
    exact absurd (dispatched start).1 attach

theorem createCommand_started {state : State} (linked : Linked state.db.core) (started : StartsAttached state.db.core) {data : CommandCreate}
    {attachToJob : Bool} {now : Nat} (dispatched : Dispatched data attachToJob) :
    StartsAttached (createCommand state data attachToJob now).2.db.core := by
  unfold createCommand
  split
  · exact started
  rename_i command db done
  unfold createCommandTx at done
  dsimp only at done
  split at done
  · obtain same | ⟨-,attached⟩ := reuseCommand_attached linked.jobIds done
    · change StartsAttached db.core
      rw [show db.core = state.db.core from same]
      exact started
    · exact (attached_links attached).started linked started
  split at done
  · cases done
  · exact persistCommand_started linked started dispatched done

theorem startCommand_dispatched {job : Job} (attempt : job.currentAttemptId ≠ "") (leases : List Lease) (uuid : String) :
    Dispatched (startCommand job leases uuid) true := fun _ => ⟨rfl,attempt,rfl⟩

theorem touched_links {core after : Core} (touched : CommandsTouched core after) : SameLinks core after := by
  obtain ⟨jobs,attempts,leases,touch,same,each⟩ := touched
  refine .kept jobs ?_
  rw [same,List.map_map]
  refine List.map_congr_left fun command member => ?_
  obtain ⟨id,worker,kind,job,attempt,operation,-⟩ := each command member
  simp only [Function.comp_apply,Command.link,id,worker,kind,job,attempt,operation]

theorem abandoned_links {core after : Core} {jobId : String} {now : Nat} (abandoned : Abandoned core jobId now after) : SameLinks core after := by
  cases abandoned with
  | none => exact .refl _
  | failed => exact moved_links (by decide) rfl rfl

theorem lost_links {core after : Core} {jobId : String} {now : Nat} (lost : Lost core jobId now after) : SameLinks core after := by
  cases lost with
  | refused => exact .refl _
  | already => exact .kept rfl rfl
  | lost => exact moved_links (by decide) rfl rfl

theorem beaten_links {settings : Settings} {committed : List Device} {state : State} {workerId : String} {running : RunningJob} {now : Nat}
    {after : Core} (beaten : Beaten settings committed state workerId running now after) : SameLinks state.db.core after := by
  cases beaten with
  | idle => exact .refl _
  | revoked job entry expired =>
    by_cases live : Allowed job.status .failed
    · exact moved_links (by decide) (if_pos live) rfl
    · exact .kept (if_neg live) rfl
  | kept => exact .kept rfl rfl
  | resumed job entry renewed runs =>
    by_cases running : job.status = .running
    · exact .kept (if_pos running) rfl
    · exact moved_links (by decide) (if_neg running) rfl

theorem unfenced_links (core : Core) (jobId : String) (now : Nat) : SameLinks core {core with
    jobs := Table.update (fun row => row.id = jobId ∧ row.status.occupied = true) (unfenced now) core.jobs} := by
  refine .updated rfl (fun _ => rfl) (fun job assigned => ?_) rfl
  cases assigned

theorem started_keep {settings : Settings} : ({command := fun _ _ _ => False} : Conditions).Keep settings StartsAttached where
  created _ started _ created := created_started started created
  commanded _ _ impossible _ := impossible.elim
  touched linked started touched := (touched_links touched).started linked started
  synced linked started _ synced := (synced_links synced).started linked started
  compensated linked started _ compensated := (compensated_links compensated).started linked started
  abandoned linked started _ abandoned := (abandoned_links abandoned).started linked started
  transitioned linked started _ _ allowed := (moved_links allowed.left rfl rfl).started linked started
  deleted _ started _ deleted := deleted_started started deleted
  lost linked started lost := (lost_links lost).started linked started
  beaten linked started _ beaten := (beaten_links beaten).started linked started
  unfenced linked started _ _ := (unfenced_links _ _ _).started linked started

theorem command_guard {settings : Settings} {command : State → CommandCreate → Bool → Prop} {state : State} {op : Op}
    (meets : ∀ data attachToJob now, op = .createCommand data attachToJob now → command state data attachToJob) :
    ({command := command} : Conditions).guard settings state op := by
  cases op with
  | createCommand data attachToJob now => exact meets data attachToJob now rfl
  | heartbeat workerId data now => exact Runs.Meets.all (fun _ _ => trivial) _ _
  | failAbandonedWorkerLostJobs minAge now => exact Runs.Along.all (fun _ _ => trivial) _ _
  | reconcileClaims now => exact fun _ _ => Runs.Meets.all (fun _ _ => trivial) _ _
  | _ => trivial

theorem apply_started {settings : Settings} {state : State} (linked : Linked state.db.core) (started : StartsAttached state.db.core) (op : Op)
    (dispatched : ∀ data attachToJob now, op = .createCommand data attachToJob now → Dispatched data attachToJob) :
    StartsAttached (apply settings op state).db.core := by
  by_cases command : ∃ data attachToJob now, op = .createCommand data attachToJob now
  · obtain ⟨data,attachToJob,now,rfl⟩ := command
    exact createCommand_started linked started (dispatched data attachToJob now rfl)
  · refine (started_keep.apply op state linked started (command_guard ?_)).2
    intro data attachToJob now same
    exact absurd ⟨data,attachToJob,now,same⟩ command

def Unstarted (jobId : String) (core : Core) : Prop := ∀ command ∈ core.commands, command.commandType = .startTest → command.jobId ≠ jobId

theorem SameLinks.unstarted {before after : Core} (same : SameLinks before after) {jobId : String} (unstarted : Unstarted jobId before) :
    Unstarted jobId after := by
  intro command member start
  obtain ⟨old,present,equal⟩ := mem_of_map_eq same.commands member
  simp only [Command.link,Prod.mk.injEq] at equal
  rw [← equal.2.2.2.1]
  exact unstarted old present (equal.2.2.1.trans start)

theorem StartsAttached.unstarted {core : Core} (started : StartsAttached core) (linked : Linked core) {job : Job} (member : job ∈ core.jobs)
    (assigned : job.status = .assigned) : Unstarted job.id core := by
  intro command present start same
  obtain ⟨_,row,inside,named,_,_,left⟩ := started.starts command present start
  rw [Table.eq_of_key linked.jobIds inside member (named.trans same)] at left
  exact left assigned

theorem unstarted_keep {settings : Settings} (jobId : String) : ({command := fun _ data _ =>
    data.commandType = .startTest → data.jobId ≠ jobId} : Conditions).Keep settings (Unstarted jobId) where
  created _ unstarted _ created := by
    cases created with
    | none | added => exact unstarted
  commanded {state _ _ _ _} _ unstarted elsewhere commanded := by
    cases commanded with
    | none => exact unstarted
    | reused command member worker operation after attached => exact (attached_links attached.2).unstarted unstarted
    | inserted command kind job attempt worker operation status fresh distinct after attached =>
      have inserted : ∀ row ∈ state.db.core.commands++[command], row.commandType = .startTest → row.jobId ≠ jobId := by
        intro row member start
        obtain old | new := List.mem_append.mp member
        · exact unstarted row old start
        · rw [List.mem_singleton.mp new] at start ⊢
          rw [job]
          exact elsewhere (kind.symm.trans start)
      split at attached
      · exact (attached_links attached).unstarted inserted
      · rw [attached]
        exact inserted
  touched _ unstarted touched := (touched_links touched).unstarted unstarted
  synced _ unstarted _ synced := (synced_links synced).unstarted unstarted
  compensated _ unstarted _ compensated := (compensated_links compensated).unstarted unstarted
  abandoned _ unstarted _ abandoned := (abandoned_links abandoned).unstarted unstarted
  transitioned _ unstarted _ _ allowed := (moved_links allowed.left rfl rfl).unstarted unstarted
  deleted _ unstarted _ deleted := by
    cases deleted with
    | none => exact unstarted
    | gone => exact fun command member => unstarted command (Table.mem_delete.mp member).1
  lost _ unstarted lost := (lost_links lost).unstarted unstarted
  beaten _ unstarted _ beaten := (beaten_links beaten).unstarted unstarted
  unfenced _ unstarted _ _ := (unfenced_links _ _ _).unstarted unstarted

end GmsRemoteTest.Cluster
