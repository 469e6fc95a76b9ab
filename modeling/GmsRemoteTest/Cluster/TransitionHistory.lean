import GmsRemoteTest.Cluster.Controller

/-! Controller processes that move jobs at the same time. A transition is a read of status and `state_version` and a
later compare-and-set, between which others may act; reconciliation is one step. Changes follow the table as long as
every writer of a status bumps the version. -/
namespace GmsRemoteTest.Cluster
open JobStatus

/-- The databases and the reads whose compare-and-set has not run yet. -/
structure World where
  state : State
  pending : List (TransitionRead × TransitionNote) := []

inductive ProcessOp
  | read (jobId : String) (toStatus : JobStatus) (note : TransitionNote)
  | write (index now : Nat)
  | reconcile (now : Nat)
  -- Whatever else the processes do beside their jobs and timelines.
  | other (state : State)

variable (settings : Settings)

def World.step : ProcessOp → World → World
  | .read jobId toStatus note, world =>
    match readTransition world.state.db jobId toStatus with
    | .ok (some read) => {world with pending := world.pending++[(read,note)]}
    | _ => world
  | .write index now, world =>
    match world.pending[index]? with
    | none => world
    | some (read,note) =>
      ⟨{world.state with db := (casTransition world.state.db read note now).2},world.pending.eraseIdx index⟩
  | .reconcile now, world => {world with state := (reconcileClaims settings world.state now).2}
  | .other state, world =>
    let db := {state.db with jobs := world.state.db.jobs, timeline := world.state.db.timeline}
    {world with state := {state with db := db}}

/-- No reconciliation fails a job. -/
def World.fenceable (world : World) : ProcessOp → Prop
  | .reconcile now => PassMeets settings world.state now fun pass job =>
    ¬ Unfenceable settings world.state.db now pass job
  | _ => True

/-- Every change of a status follows an edge, bumps the version and appends the one event that tells it. -/
structure Faithful (before after : Db) : Prop where
  ids : after.jobs.map (·.id) = before.jobs.map (·.id)
  changes : ∀ old ∈ before.jobs, ∀ new ∈ after.jobs, new.id = old.id → new.status ≠ old.status →
    Allowed old.status new.status ∧ new.stateVersion = old.stateVersion+1 ∧
    ∃ event, after.timeline = before.timeline++[event] ∧ event.jobId = old.id ∧ event.eventType = "job.transition" ∧
      event.fromState = old.status.text ∧ event.toState = new.status.text

theorem Faithful.same {before after : Db} (distinct : (before.jobs.map (·.id)).Nodup) (jobs : after.jobs = before.jobs) :
    Faithful before after := by
  refine ⟨by rw [jobs],?_⟩
  intro old member new present named changed
  rw [jobs] at present
  rw [Table.eq_of_key distinct present member named] at changed
  exact absurd rfl changed

theorem Faithful.terminal {before after : Db} (faithful : Faithful before after) {job : Job}
    (member : job ∈ before.jobs) (ended : job.status.terminal = true) :
    ∃ row ∈ after.jobs, row.id = job.id ∧ row.status = job.status := by
  obtain ⟨row,present,named⟩ := mem_of_map_eq faithful.ids.symm member
  refine ⟨row,present,named,?_⟩
  by_contra changed
  have live := (faithful.changes job member row present named changed).1.live
  rw [ended] at live
  cases live

def Current (entry : TransitionRead × TransitionNote) (job : Job) : Prop :=
  entry.1.stateVersion ≤ job.stateVersion ∧ (entry.1.stateVersion = job.stateVersion → entry.1.fromStatus = job.status)

structure World.Valid (world : World) : Prop where
  distinct : (world.state.db.jobs.map (·.id)).Nodup
  current : Table.Joined (fun entry job => entry.1.jobId = job.id) Current world.pending world.state.db.jobs
  allowed : ∀ entry ∈ world.pending, Allowed entry.1.fromStatus entry.1.toStatus

theorem casTransition_cases {db : Db} (distinct : (db.jobs.map (·.id)).Nodup) (read : TransitionRead)
    (note : TransitionNote) (now : Nat) :
    (casTransition db read note now).2 = db ∨
    ∃ job ∈ db.jobs, job.id = read.jobId ∧ job.stateVersion = read.stateVersion ∧
      (casTransition db read note now).2 = {db with
        jobs := Table.update (fun row => row.id = job.id) (moved read.toStatus note.error now) db.jobs
        timeline := db.timeline++[transitionEvent read note now]} := by
  by_cases found : ∃ job ∈ db.jobs, job.id = read.jobId ∧ job.stateVersion = read.stateVersion
  · obtain ⟨job,member,named,version⟩ := found
    refine .inr ⟨job,member,named,version,?_⟩
    have chosen : ∀ row ∈ db.jobs, (row.id = read.jobId ∧ row.stateVersion = read.stateVersion) ↔ row.id = job.id := by
      intro row present
      constructor
      · intro both
        exact both.1.trans named.symm
      · intro same
        rw [Table.eq_of_key distinct present member same]
        exact ⟨named,version⟩
    have single : (Table.select (fun row => row.id = job.id) db.jobs).length = 1 := by
      rw [Table.select_key distinct member]
      rfl
    simp only [casTransition]
    rw [Table.select_congr chosen,Table.update_congr chosen,single]
    rfl
  · have absent : ∀ row ∈ db.jobs, ¬ (row.id = read.jobId ∧ row.stateVersion = read.stateVersion) :=
      fun row present both => found ⟨row,present,both⟩
    have none : Table.select (fun row => row.id = read.jobId ∧ row.stateVersion = read.stateVersion) db.jobs = [] := by
      apply List.eq_nil_iff_forall_not_mem.mpr
      intro row present
      obtain ⟨inside,both⟩ := Table.mem_select.mp present
      exact absent row inside both
    refine .inl ?_
    simp only [casTransition]
    rw [none,Table.update_eq_self absent]
    rfl

theorem World.Valid.read {world : World} (valid : world.Valid) (jobId : String) (toStatus : JobStatus)
    (note : TransitionNote) : (World.step settings (.read jobId toStatus note) world).Valid := by
  unfold World.step
  dsimp only
  split
  · rename_i read found
    obtain ⟨job,member,named,allowed,rfl⟩ := readTransition_some found
    refine ⟨valid.distinct,?_,?_⟩
    · intro entry present row inside same
      rcases List.mem_append.mp present with old | new
      · exact valid.current entry old row inside same
      · rw [List.mem_singleton.mp new] at same ⊢
        rw [Table.eq_of_key valid.distinct inside member (same.symm.trans named.symm)]
        exact ⟨Nat.le_refl _,fun _ => rfl⟩
    · intro entry present
      rcases List.mem_append.mp present with old | new
      · exact valid.allowed entry old
      · rw [List.mem_singleton.mp new]
        exact allowed
  · exact valid

theorem World.Valid.write {world : World} (valid : world.Valid) (index now : Nat) :
    (World.step settings (.write index now) world).Valid ∧
      Faithful world.state.db (World.step settings (.write index now) world).state.db := by
  unfold World.step
  dsimp only
  split
  · exact ⟨valid,.same valid.distinct rfl⟩
  · rename_i read note found
    have present : (read,note) ∈ world.pending := List.mem_of_getElem? found
    have fewer : ∀ entry ∈ world.pending.eraseIdx index, entry ∈ world.pending :=
      fun entry inside => (List.eraseIdx_sublist world.pending index).mem inside
    have stillAllowed : ∀ entry ∈ world.pending.eraseIdx index, Allowed entry.1.fromStatus entry.1.toStatus :=
      fun entry inside => valid.allowed entry (fewer entry inside)
    rcases casTransition_cases valid.distinct read note now with same | ⟨job,member,named,version,same⟩
    · rw [same]
      exact ⟨⟨valid.distinct,valid.current.subset fewer fun _ inside => inside,stillAllowed⟩,.same valid.distinct rfl⟩
    · -- The row has the version that was read, so it has the status that was read.
      have stored : read.fromStatus = job.status :=
        (valid.current (read,note) present job member named.symm).2 version.symm
      have ids : (Table.update (fun row => row.id = job.id) (moved read.toStatus note.error now)
          world.state.db.jobs).map (·.id) = world.state.db.jobs.map (·.id) := Table.map_update _ fun _ _ => rfl
      rw [same]
      refine ⟨⟨?_,?_,stillAllowed⟩,ids,?_⟩
      · change ((Table.update _ _ world.state.db.jobs).map _).Nodup
        rw [ids]
        exact valid.distinct
      · refine (valid.current.subset fewer fun _ inside => inside).map_right ?_ ?_
        · intro entry row together
          split at together <;> exact together
        · intro entry inside row there together before
          split
          · -- The version grew past everything that was read.
            have older := before.1
            refine ⟨Nat.le_succ_of_le older,fun equal => ?_⟩
            simp only [moved] at equal
            omega
          · exact before
      · intro old inside new there called changed
        obtain ⟨source,origin,rfl⟩ := Table.mem_update.mp there
        have equal : source = old := by
          refine Table.eq_of_key valid.distinct origin inside ?_
          rw [← called]
          split <;> rfl
        subst equal
        by_cases own : source.id = job.id
        · rw [if_pos own]
          have mine : source = job := Table.eq_of_key valid.distinct inside member own
          subst mine
          refine ⟨?_,rfl,_,rfl,named.symm,rfl,?_,rfl⟩
          · rw [← stored]
            exact valid.allowed (read,note) present
          · rw [← stored]
            rfl
        · rw [if_neg own] at changed
          exact absurd rfl changed

theorem reconcile_jobs (state : State) (now : Nat)
    (fenced : PassMeets settings state now fun pass job => ¬ Unfenceable settings state.db now pass job) :
    (reconcileClaims settings state now).2.db.jobs = state.db.jobs := by
  refine reconcileClaims_invariant settings state now (fun core => core.jobs = state.db.jobs) ?_ rfl fenced
  intro pass job same meets taken
  exact absurd taken meets

theorem World.Valid.step {world : World} (valid : world.Valid) (op : ProcessOp) (fenced : world.fenceable settings op) :
    (World.step settings op world).Valid ∧
      Faithful world.state.db (World.step settings op world).state.db := by
  cases op with
  | read jobId toStatus note =>
    refine ⟨valid.read settings jobId toStatus note,?_⟩
    refine .same valid.distinct ?_
    unfold World.step
    dsimp only
    split <;> rfl
  | write index now => exact valid.write settings index now
  | reconcile now =>
    have jobs : (World.step settings (.reconcile now) world).state.db.jobs = world.state.db.jobs :=
      reconcile_jobs settings world.state now fenced
    refine ⟨⟨?_,?_,valid.allowed⟩,.same valid.distinct jobs⟩
    · rw [jobs]
      exact valid.distinct
    · rw [jobs]
      exact valid.current
  | other state => exact ⟨⟨valid.distinct,valid.current,valid.allowed⟩,.same valid.distinct rfl⟩

/-- In every interleaving whose reconciliations fail no job, every step is faithful and no
job leaves a terminal status. -/
theorem transitions_follow_table (settings : Settings) (initial : State)
    (distinct : (initial.db.jobs.map (·.id)).Nodup) (world : World)
    (reached : Runs.Reached (World.step settings) (World.fenceable settings) ⟨initial,[]⟩ world) :
    (∀ op, world.fenceable settings op → Faithful world.state.db (World.step settings op world).state.db) ∧
    ∀ later, Runs.Reached (World.step settings) (World.fenceable settings) world later →
      ∀ job ∈ world.state.db.jobs, job.status.terminal = true →
        ∃ row ∈ later.state.db.jobs, row.id = job.id ∧ row.status = job.status := by
  have start : World.Valid ⟨initial,[]⟩ := by
    refine ⟨distinct,?_,?_⟩
    · intro entry none
      cases none
    · intro entry none
      cases none
  have valid : world.Valid :=
    Runs.Reached.invariant World.Valid start (fun _ op holds fenced => (holds.step settings op fenced).1) reached
  refine ⟨fun op fenced => (valid.step settings op fenced).2,?_⟩
  intro later further job member ended
  have kept : later.Valid ∧ ∃ row ∈ later.state.db.jobs, row.id = job.id ∧ row.status = job.status := by
    refine Runs.Reached.invariant (fun next : World => next.Valid ∧
      ∃ row ∈ next.state.db.jobs, row.id = job.id ∧ row.status = job.status) ⟨valid,job,member,rfl,rfl⟩ ?_ further
    rintro next op ⟨holds,row,present,named,status⟩ fenced
    obtain ⟨still,faithful⟩ := holds.step settings op fenced
    have halted : row.status.terminal = true := by
      rw [status]
      exact ended
    obtain ⟨new,inside,called,same⟩ := faithful.terminal present halted
    exact ⟨still,new,inside,called.trans named,same.trans status⟩
  exact kept.2

def overtaken : State := Runs.exec (apply {}) {} (delivery++
  [.acquireDeviceOperationClaim "w1" ["s1"] "u" "device-operation" "operation:1" 600 "u" 200])

def completing : World :=
  World.step {} (.read "job-1" .completed {source := "worker-ack", message := "done"}) ⟨overtaken,[]⟩

theorem transitions_follow_table_completing :
    (∀ op, completing.fenceable {} op → Faithful completing.state.db (World.step {} op completing).state.db) ∧
    ∀ later, Runs.Reached (World.step {}) (World.fenceable {}) completing later →
      ∀ job ∈ completing.state.db.jobs, job.status.terminal = true →
        ∃ row ∈ later.state.db.jobs, row.id = job.id ∧ row.status = job.status :=
  transitions_follow_table {} overtaken (by decide +kernel) completing (.step .start _ trivial)

/-- Reconciliation fails a job without a new version; the completion read before it is then
written over the failed job. -/
theorem failed_job_completes : ¬ ∀ (initial : State) (_ : (initial.db.jobs.map (·.id)).Nodup) (world : World),
    Runs.Reached (World.step {}) (fun _ _ => True) ⟨initial,[]⟩ world →
    (∀ op, Faithful world.state.db (World.step {} op world).state.db) ∧
    ∀ later, Runs.Reached (World.step {}) (fun _ _ => True) world later →
      ∀ job ∈ world.state.db.jobs, job.status.terminal = true →
        ∃ row ∈ later.state.db.jobs, row.id = job.id ∧ row.status = job.status := by
  intro always
  have failed := always overtaken (by decide +kernel) (World.step {} (.reconcile 201) completing)
    (.step (.step .start _ trivial) _ trivial)
  have kept := failed.2 (World.step {} (.write 0 202) (World.step {} (.reconcile 201) completing))
    (.step .start _ trivial)
  revert kept
  decide +kernel

end GmsRemoteTest.Cluster
