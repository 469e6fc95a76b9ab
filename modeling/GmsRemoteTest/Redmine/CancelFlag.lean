import GmsRemoteTest.Redmine.DailyBriefRows

/-! The cancel flag of a run while a job of it is at work. The flag stands on the row of the run, and whoever queues the next
execution of the run takes it back; the requests check that the run is at rest in an earlier transaction, or not at all. -/
namespace GmsRemoteTest.Redmine.DailyBrief.CancelFlag
open Runs

/-- The queue, and the jobs that were running when a cancellation was accepted and have not ended since. -/
structure World where
  queue : Queue
  stopping : List String

def World.start : World := ⟨.start,[]⟩

def cancels (op : Op) (db : Db) : List String :=
  match op with
  | .requestCancel runId now =>
    if (db.requestCancel runId now).1 then (Table.select (fun job => job.runId = runId ∧ job.status = .running) db.jobs).map (·.jobId)
    else []
  | _ => []

def Unfinished (db : Db) (jobId : String) : Prop := ∃ job ∈ db.jobs, job.jobId = jobId ∧ job.Active

instance (db : Db) (jobId : String) : Decidable (Unfinished db jobId) := inferInstanceAs (Decidable (∃ job ∈ db.jobs, _))

section
variable (canonicalOwnerId : String → String)

def apply (op : Op) (world : World) : World :=
  let queue := DailyBrief.apply canonicalOwnerId op world.queue
  ⟨queue,(cancels op world.queue.db ++ world.stopping).filter fun jobId => Unfinished queue.db jobId⟩

/-- The flag of no run is taken back while one of its jobs is being stopped. -/
def Spares (world : World) (op : Op) : Prop :=
  Fresh world.queue op ∧ ∀ runId ∈ resets canonicalOwnerId op world.queue.db, ∀ job ∈ world.queue.db.jobs, job.runId = runId →
    job.jobId ∉ world.stopping

end

/-- The flag is set on the run of every job that is being stopped. -/
def Flagged (world : World) : Prop :=
  ∀ job ∈ world.queue.db.jobs, job.jobId ∈ world.stopping → world.queue.db.isCancelRequested job.runId = true

theorem flag_rows {db : Db} {runId : String} (keys : db.runIds.Nodup) (set : db.isCancelRequested runId = true) :
    ∀ row ∈ db.runs, row.run.runId = runId → row.cancelRequested = true := by
  intro row member same
  unfold Db.isCancelRequested at set
  cases found : db.getRow runId with
  | none => exact absurd same (Table.fetch_none.mp found row member)
  | some first =>
    have own := Table.fetch_selects found
    rw [found] at set
    rwa [Table.eq_of_key keys member (Table.fetch_mem found) (same.trans own.symm)]

theorem rows_flag {db : Db} {runId : String} (there : runId ∈ db.runIds)
    (set : ∀ row ∈ db.runs, row.run.runId = runId → row.cancelRequested = true) : db.isCancelRequested runId = true := by
  obtain ⟨row,member,same⟩ := Db.mem_runIds.mp there
  obtain ⟨first,found⟩ := Table.fetch_isSome (fun row : RunRow => row.run.runId = runId) member same
  have own := Table.fetch_selects found
  rw [Db.isCancelRequested,Db.getRow,found]
  exact set first (Table.fetch_mem found) own

structure Stopping (world : World) : Prop where
  sound : Sound world.queue
  unfinished : ∀ jobId ∈ world.stopping, Unfinished world.queue.db jobId
  flagged : Flagged world

theorem mem_cancels {op : Op} {db : Db} {jobId : String} (member : jobId ∈ cancels op db) :
    ∃ runId now, op = .requestCancel runId now ∧ (∃ row ∈ db.runs, row.run.runId = runId ∧ ¬row.run.Terminal) ∧
      ∃ job ∈ db.jobs, job.jobId = jobId ∧ job.runId = runId := by
  cases op with
  | requestCancel runId now =>
    change jobId ∈ (if _ then _ else _) at member
    split at member
    next accepted =>
      obtain ⟨job,chosen,same⟩ := List.mem_map.mp member
      obtain ⟨held,own,_⟩ := Table.mem_select.mp chosen
      obtain ⟨row,there,open_⟩ := List.any_eq_true.mp accepted
      exact ⟨runId,now,rfl,⟨row,there,of_decide_eq_true open_⟩,job,held,same,own⟩
    next => cases member
  | _ => cases member

section
variable {canonicalOwnerId : String → String} {world : World}

theorem Stopping.apply (stopping : Stopping world) (op : Op) (spares : Spares canonicalOwnerId world op) :
    Stopping (apply canonicalOwnerId op world) := by
  have sound : Sound (DailyBrief.apply canonicalOwnerId op world.queue) := stopping.sound.apply op
  refine ⟨sound,fun jobId member => of_decide_eq_true (List.mem_filter.mp member).2,fun job member listed => ?_⟩
  change (perform canonicalOwnerId op world.queue.db).isCancelRequested job.runId = true
  refine rows_flag (sound.owned job member) fun row there same => ?_
  have origin := (@Sound.effect canonicalOwnerId world.queue stopping.sound op).origin member
  rcases List.mem_append.mp (List.mem_filter.mp listed).1 with now | earlier
  · -- the cancellation of this transaction sets the flag of a run that is not over
    obtain ⟨runId,at_,rfl,⟨holder,held,own,notOver⟩,old,was,id,run⟩ := mem_cancels now
    obtain ⟨old',was',id',run'⟩ := origin.resolve_right fun fresh => fresh old was id
    have equal : old' = old := Table.eq_of_key stopping.sound.keys was' was (id'.trans id.symm)
    subst equal
    obtain ⟨before,stood,rewritten⟩ := Table.mem_update.mp there
    split at rewritten
    next => exact rewritten ▸ rfl
    next other =>
      subst rewritten
      have only : before = holder := Table.eq_of_key stopping.sound.runKeys stood held (same.trans (run'.symm.trans (run.trans own.symm)))
      exact absurd ⟨own,notOver⟩ (only ▸ other)
  · obtain ⟨active,among,name,_⟩ := stopping.unfinished job.jobId earlier
    obtain ⟨old,was,id,run⟩ := origin.resolve_right fun fresh => fresh active among name
    have set : world.queue.db.isCancelRequested old.runId = true := stopping.flagged old was (id ▸ earlier)
    rcases perform_rows op stopping.sound.keys stopping.sound.runKeys row there with ⟨before,stood,written⟩ | fresh
    · have was_set := flag_rows stopping.sound.runKeys set before stood (written.id.symm.trans (same.trans run.symm))
      refine (written.flag was_set).resolve_right fun reset => ?_
      exact spares.2 row.run.runId reset old was (run.trans same.symm) (id ▸ earlier)
    · exact absurd (stopping.sound.owned old was) (run.symm ▸ same ▸ fresh)

theorem Stopping.start : Stopping .start :=
  ⟨Sound.start,fun _ member => (nomatch member),fun _ member => (nomatch member)⟩

theorem stopping_stays (op : Op) (jobId : String) (listed : jobId ∈ cancels op world.queue.db ∨ jobId ∈ world.stopping) :
    jobId ∈ (apply canonicalOwnerId op world).stopping ∨ ¬Unfinished (apply canonicalOwnerId op world).queue.db jobId := by
  by_cases unfinished : Unfinished (apply canonicalOwnerId op world).queue.db jobId
  · exact .inl (List.mem_filter.mpr ⟨List.mem_append.mpr listed,decide_eq_true unfinished⟩)
  · exact .inr unfinished

end

def failedIssue : DailyBriefIssue := ⟨"db_1",7,[],"",0,"","#7",.failed,"","",0,1,"","","",.null⟩

def secondClaim : Db.Claim := ⟨"worker-a","token-b","2026-05-01T08:11:30Z",morning⟩

def cancelledOps : List Op := [.createRunAndEnqueueJob morningRun none "dbj_1" morning,.claimNextJob firstClaim,.upsertIssue failedIssue,
  .updateRun {morningRun with status := .failed} morning.now,.finishJob "dbj_1" "worker-a" "token-a" "timeout" morning.utc,
  .clearCancel "db_1" morning.now,.updateRun morningRun morning.now,.enqueueJob "db_1" .run 0 "dbj_2" morning,
  .claimNextJob secondClaim,.requestCancel "db_1" morning.now]

end GmsRemoteTest.Redmine.DailyBrief.CancelFlag
