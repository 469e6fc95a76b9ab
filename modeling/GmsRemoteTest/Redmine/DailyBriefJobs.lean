import GmsRemoteTest.Lib.Runs
import GmsRemoteTest.Redmine.DailyBriefRepository

/-! The job queue of the daily briefs in every run of its transactions. A transaction moves jobs that wait or run, adds a job
whose target has none, leases one job of a run without a running one, or deletes whole runs that are at rest. -/
namespace GmsRemoteTest.Redmine.DailyBrief
open Runs

inductive Op
  | enqueueJob (runId : String) (kind : JobKind) (issueId : Int) (jobId : String) (clock : Clock)
  | createRunAndEnqueueJob (run : DailyBriefRun) (issue : Option DailyBriefIssue) (jobId : String) (clock : Clock)
  | claimNextJob (claim : Db.Claim)
  | renewJob (jobId workerId leaseToken leaseExpiry : String)
  | finishJob (jobId workerId leaseToken error utc : String)
  | requeueJob (jobId workerId leaseToken reason now : String)
  | cancelQueuedIssueJobs (runId utc : String)
  | cancelQueuedIssueRun (runId now : String)
  | deleteIssueHistory (ownerId : String) (issueId : Int)
  | updateRun (run : DailyBriefRun) (now : String)
  | requestCancel (runId now : String)
  | clearCancel (runId now : String)
  | resetStaleRunning (olderThan now : String)
  | upsertIssue (issue : DailyBriefIssue)
  | deleteIssues (runId : String)
  | saveSnapshot (runId : String) (snapshot : Json.Value)
  | deleteSnapshot (runId : String)

structure Queue where
  db : Db
  tokens : List String

def Queue.start : Queue := ⟨⟨[],[],[],[]⟩,[]⟩

section
variable (canonicalOwnerId : String → String)

def perform (op : Op) (db : Db) : Db :=
  match op with
  | .enqueueJob runId kind issueId jobId clock => (db.enqueueJob runId kind issueId jobId clock).elim db (·.2.2)
  | .createRunAndEnqueueJob run issue jobId clock =>
    (db.createRunAndEnqueueJob canonicalOwnerId run issue jobId clock).elim db (·.2.2.2)
  | .claimNextJob claim => (db.claimNextJob claim).2
  | .renewJob jobId workerId leaseToken leaseExpiry => (db.renewJob jobId workerId leaseToken leaseExpiry).2
  | .finishJob jobId workerId leaseToken error utc => (db.finishJob jobId workerId leaseToken error utc).2
  | .requeueJob jobId workerId leaseToken reason now => (db.requeueJob jobId workerId leaseToken reason now).2
  | .cancelQueuedIssueJobs runId utc => db.cancelQueuedIssueJobs runId utc
  | .cancelQueuedIssueRun runId now => (db.cancelQueuedIssueRun runId now).2
  | .deleteIssueHistory ownerId issueId => (db.deleteIssueHistory canonicalOwnerId ownerId issueId).getD db
  | .updateRun run now => db.updateRun canonicalOwnerId run now
  | .requestCancel runId now => (db.requestCancel runId now).2
  | .clearCancel runId now => db.clearCancel runId now
  | .resetStaleRunning olderThan now => db.resetStaleRunning olderThan now
  | .upsertIssue issue => db.upsertIssue issue
  | .deleteIssues runId => db.deleteIssues runId
  | .saveSnapshot runId snapshot => db.saveSnapshot runId snapshot
  | .deleteSnapshot runId => db.deleteSnapshot runId

def Op.draws : Op → List String
  | .claimNextJob claim => [claim.leaseToken]
  | _ => []

def apply (op : Op) (queue : Queue) : Queue := ⟨perform canonicalOwnerId op queue.db,op.draws ++ queue.tokens⟩

end

/-- A claim draws a token that was not drawn before. -/
def Fresh (queue : Queue) (op : Op) : Prop := ∀ token ∈ op.draws, token ∉ queue.tokens

def Job.target (job : Job) : String × JobKind × Int := (job.runId,job.kind,job.issueId)

def Change (old new : Job) : Prop :=
  new = old ∨ old.Active ∧ new.jobId = old.jobId ∧ new.target = old.target ∧
    (new.status = .running → old.status = .running ∧ new.workerId = old.workerId ∧ new.leaseToken = old.leaseToken)

theorem Change.trans {first second third : Job} (before : Change first second) (after : Change second third) : Change first third := by
  rcases before with rfl | ⟨active,id,target,lease⟩
  · exact after
  · rcases after with rfl | ⟨_,next,aim,kept⟩
    · exact .inr ⟨active,id,target,lease⟩
    · refine .inr ⟨active,next.trans id,aim.trans target,fun running => ?_⟩
      obtain ⟨still,worker,token⟩ := kept running
      obtain ⟨was,holder,same⟩ := lease still
      exact ⟨was,worker.trans holder,token.trans same⟩

section
variable {old new : Job} (change : Change old new)
include change

theorem Change.id : new.jobId = old.jobId := by
  rcases change with rfl | ⟨_,id,_⟩
  · rfl
  · exact id

theorem Change.target : new.target = old.target := by
  rcases change with rfl | ⟨_,_,target,_⟩
  · rfl
  · exact target

theorem Change.runId : new.runId = old.runId := congrArg Prod.fst change.target

theorem Change.active (active : new.Active) : old.Active := by
  rcases change with rfl | ⟨was,_⟩
  · exact active
  · exact was

theorem Change.running (running : new.status = .running) :
    old.status = .running ∧ new.workerId = old.workerId ∧ new.leaseToken = old.leaseToken := by
  rcases change with rfl | ⟨_,_,_,lease⟩
  · exact ⟨running,rfl,rfl⟩
  · exact lease running

theorem Change.over (over_ : ¬old.Active) : new = old :=
  change.resolve_right fun moved => over_ moved.1

end

def Settles (before after : List Job) : Prop := ∃ change : Job → Job, after = before.map change ∧ ∀ job ∈ before, Change job (change job)

theorem Settles.refl (jobs : List Job) : Settles jobs jobs := ⟨id,(List.map_id _).symm,fun _ _ => .inl rfl⟩

theorem Settles.trans {first second third : List Job} (before : Settles first second) (after : Settles second third) :
    Settles first third := by
  obtain ⟨change,rfl,each⟩ := before
  obtain ⟨next,rfl,every⟩ := after
  exact ⟨next ∘ change,List.map_map,fun job member => (each job member).trans (every _ (List.mem_map_of_mem member))⟩

theorem Settles.update {selects : Job → Prop} [DecidablePred selects] {set : Job → Job} {jobs : List Job}
    (each : ∀ job ∈ jobs, selects job → Change job (set job)) : Settles jobs (Table.update selects set jobs) := by
  refine ⟨fun job => if selects job then set job else job,rfl,fun job member => ?_⟩
  dsimp only
  split
  next chosen => exact each job member chosen
  next => exact .inl rfl

theorem Settles.ids {before after : List Job} (settles : Settles before after) : after.map (·.jobId) = before.map (·.jobId) := by
  obtain ⟨change,rfl,each⟩ := settles
  rw [List.map_map]
  exact List.map_congr_left fun job member => (each job member).id

theorem Settles.origin {before after : List Job} (settles : Settles before after) {job : Job} (member : job ∈ after) :
    ∃ old ∈ before, Change old job := by
  obtain ⟨change,rfl,each⟩ := settles
  obtain ⟨old,held,rfl⟩ := List.mem_map.mp member
  exact ⟨old,held,each old held⟩

theorem Settles.image {before after : List Job} (settles : Settles before after) {job : Job} (member : job ∈ before) :
    ∃ new ∈ after, Change job new := by
  obtain ⟨change,rfl,each⟩ := settles
  exact ⟨change job,List.mem_map_of_mem member,each job member⟩

/-- Whatever a transaction does to the jobs; `runs` are the ids of the runs after it. -/
inductive Effect (op : Op) (runs : List String) (before : List Job) : List Job → Prop
  | settle {after : List Job} (settles : Settles before after) : Effect op runs before after
  | insert {job : Job} (home : job.runId ∈ runs) (fresh : ∀ old ∈ before, old.jobId ≠ job.jobId) (queued : job.status = .queued)
      (alone : ∀ old ∈ before, old.Active → old.target ≠ job.target) : Effect op runs before (before++[job])
  | claim {middle : List Job} {job : Job} {claim : Db.Claim} (point : op = .claimNextJob claim) (settles : Settles before middle)
      (member : job ∈ middle) (queued : job.status = .queued) (free : ∀ other ∈ middle, other.runId = job.runId → other.status ≠ .running)
      (uncovered : job.kind = .issue → ∀ other ∈ middle, other.runId = job.runId → other.kind = .run → ¬other.Active) :
      Effect op runs before (Table.update (fun row => row.jobId = job.jobId ∧ row.status = .queued) (Db.leased claim) middle)
  | delete {ownerId : String} {issueId : Int} {chosen : String → Prop} [DecidablePred chosen] (point : op = .deleteIssueHistory ownerId issueId)
      (idle : ∀ job ∈ before, chosen job.runId → ¬job.Active) : Effect op runs before (Table.delete (fun job => chosen job.runId) before)

namespace Db
variable {db : Db}

theorem activeJob_none {runId : String} {kind : JobKind} {issueId : Int} (none : db.activeJob runId kind issueId = none) :
    ∀ job ∈ db.jobs, job.Active → job.target ≠ (runId,kind,issueId) := by
  intro job member active same
  obtain ⟨run,rest⟩ := Prod.mk.inj same
  obtain ⟨level,issue⟩ := Prod.mk.inj rest
  have chosen : job ∈ Table.select (fun job => job.runId = runId ∧ job.kind = kind ∧ job.issueId = issueId ∧ job.Active) db.jobs :=
    Table.mem_select.mpr ⟨member,run,level,issue,active⟩
  rw [activeJob,List.head?_eq_none_iff] at none
  exact List.not_mem_nil (none ▸ Pages.mem_ordered.mpr chosen)

theorem activeJob_some {runId : String} {kind : JobKind} {issueId : Int} {job : Job} (found : db.activeJob runId kind issueId = some job) :
    job ∈ db.jobs ∧ job.runId = runId ∧ job.kind = kind ∧ job.issueId = issueId ∧ job.Active :=
  Table.mem_select.mp (Pages.mem_ordered.mp (List.mem_of_head? found))

theorem nextQueued_some {job : Job} (found : db.nextQueued = some job) :
    job ∈ db.jobs ∧ job.status = .queued ∧ ∀ other ∈ db.jobs, other.runId = job.runId → other.status ≠ .running := by
  obtain ⟨member,queued,free⟩ := Table.mem_select.mp (Pages.mem_ordered.mp (List.mem_of_head? found))
  exact ⟨member,queued,fun other there same running => free ⟨other,there,same,running⟩⟩

theorem insertJob_cases {runId : String} {kind : JobKind} {issueId : Int} {jobId : String} {clock : Clock} {job : Job} {created : Bool}
    {stored : Db} (done : db.insertJob runId kind issueId jobId clock = some (job,created,stored)) :
    created = false ∧ stored = db ∧ db.activeJob runId kind issueId = some job ∨
      created = true ∧ stored = {db with jobs := db.jobs++[job]} ∧ job = newJob jobId runId kind issueId clock ∧
        (∀ old ∈ db.jobs, old.jobId ≠ job.jobId) ∧ ∀ old ∈ db.jobs, old.Active → old.target ≠ job.target := by
  unfold insertJob at done
  cases found : db.activeJob runId kind issueId with
  | some existing =>
    rw [found] at done
    cases done
    exact .inl ⟨rfl,rfl,rfl⟩
  | none =>
    rw [found] at done
    dsimp only at done
    split at done
    next => cases done
    next fresh =>
      cases done
      exact .inr ⟨rfl,rfl,rfl,fun old member same => fresh ⟨old,member,same⟩,activeJob_none found⟩

theorem enqueueJob_cases {runId : String} {kind : JobKind} {issueId : Int} {jobId : String} {clock : Clock} {job : Job} {created : Bool}
    {stored : Db} (done : db.enqueueJob runId kind issueId jobId clock = some (job,created,stored)) :
    (∃ row, db.getRow runId = some row) ∧ job.runId = runId ∧ job.kind = kind ∧
      (created = false ∧ stored = db ∧ job ∈ db.jobs ∧ job.Active ∨
      created = true ∧ stored.jobs = db.jobs ++ [job] ∧ stored.runs = (db.resetRunForEnqueue runId clock).runs ∧ job.status = .queued ∧
        (∀ old ∈ db.jobs, old.jobId ≠ job.jobId) ∧ ∀ old ∈ db.jobs, old.Active → old.target ≠ job.target) := by
  unfold enqueueJob at done
  generalize targetIssue kind issueId = targetIssue at done
  cases found : db.getRow runId with
  | none =>
    rw [found] at done
    cases done
  | some row =>
    rw [found] at done
    dsimp only at done
    by_cases missing : kind = .issue ∧ ¬∃ issue ∈ db.issues, issue.runId = runId ∧ issue.issueId = targetIssue
    · rw [if_pos missing] at done
      cases done
    · rw [if_neg missing] at done
      cases inserted : db.insertJob runId kind targetIssue jobId clock with
      | none =>
        rw [inserted] at done
        cases done
      | some result =>
        obtain ⟨added,fresh,next⟩ := result
        rw [inserted] at done
        rcases insertJob_cases inserted with ⟨same,rfl,active⟩ | ⟨same,rfl,new,fresh,alone⟩
        · subst same
          cases done
          obtain ⟨member,run,level,_,active⟩ := activeJob_some active
          exact ⟨⟨row,rfl⟩,run,level,.inl ⟨rfl,rfl,member,active⟩⟩
        · subst same
          cases done
          refine ⟨⟨row,rfl⟩,by rw [new]; rfl,by rw [new]; rfl,.inr ⟨rfl,?_,?_,by rw [new]; rfl,fresh,alone⟩⟩ <;> cases kind <;> rfl

theorem recover_jobs (clock : Clock) (item : Job × RunStatus) : ∃ set : Job → Job,
    (db.recover clock item).jobs = Table.update (·.jobId = item.1.jobId) set db.jobs ∧
      ∀ job, (set job).jobId = job.jobId ∧ (set job).target = job.target ∧ (set job).status ≠ .running ∧ (set job).status ≠ .cancelled := by
  unfold recover
  split
  next => exact ⟨_,rfl,fun job => ⟨rfl,rfl,fun same => (nomatch same),fun same => (nomatch same)⟩⟩
  next =>
    refine ⟨fun job => {job with
      status := .queued,workerId := "",leaseToken := "",leaseExpiresAt := "",error := "worker lease expired; queued for retry"},?_,
      fun job => ⟨rfl,rfl,fun same => (nomatch same),fun same => (nomatch same)⟩⟩
    dsimp only
    split <;> rfl

theorem recover_settles (clock : Clock) (items : List (Job × RunStatus)) (apart : items.Pairwise fun first second => first.1.jobId ≠ second.1.jobId)
    (keys : (db.jobs.map (·.jobId)).Nodup) (held : ∀ item ∈ items, item.1 ∈ db.jobs ∧ item.1.status = .running) :
    Settles db.jobs (items.foldl (fun db item => db.recover clock item) db).jobs ∧
      ∀ item ∈ items, ∀ job ∈ (items.foldl (fun db item => db.recover clock item) db).jobs, job.jobId = item.1.jobId → job.status ≠ .running := by
  induction items generalizing db with
  | nil => exact ⟨.refl _,fun _ member => (nomatch member)⟩
  | cons item items ih =>
    obtain ⟨different,apart⟩ := List.pairwise_cons.mp apart
    obtain ⟨member,runs⟩ := held item (List.mem_cons_self ..)
    obtain ⟨set,jobs,moved⟩ := @recover_jobs db clock item
    have first : Settles db.jobs (db.recover clock item).jobs := by
      rw [jobs]
      refine .update fun job there same => ?_
      have equal : job = item.1 := Table.eq_of_key keys there member same
      obtain ⟨id,target,stopped,_⟩ := moved job
      exact .inr ⟨equal ▸ .inr runs,id,target,fun running => absurd running stopped⟩
    have kept : ∀ other ∈ items, other.1 ∈ (db.recover clock item).jobs ∧ other.1.status = .running := by
      intro other later
      obtain ⟨there,running⟩ := held other (List.mem_cons_of_mem _ later)
      refine ⟨?_,running⟩
      rw [jobs]
      exact Table.mem_update.mpr ⟨other.1,there,if_neg (different other later).symm⟩
    obtain ⟨rest,stopped⟩ := ih apart (first.ids ▸ keys) kept
    refine ⟨first.trans rest,fun other among job there same => ?_⟩
    rcases List.mem_cons.mp among with rfl | later
    · intro running
      obtain ⟨old,before,change⟩ := rest.origin there
      rw [jobs] at before
      obtain ⟨origin,_,rewritten⟩ := Table.mem_update.mp before
      have key : origin.jobId = other.1.jobId := by
        have old_key : old.jobId = other.1.jobId := change.id.symm.trans same
        split at rewritten
        next chosen => exact chosen
        next => exact rewritten ▸ old_key
      rw [if_pos key] at rewritten
      exact (moved origin).2.2.1 (rewritten ▸ (change.running running).1)
    · exact stopped other later job there same

theorem expired_held {utc : String} {item : Job × RunStatus} (member : item ∈ db.expired utc) : item.1 ∈ db.jobs ∧ item.1.status = .running := by
  obtain ⟨job,listed,row⟩ := List.mem_flatMap.mp member
  obtain ⟨_,_,rfl⟩ := List.mem_map.mp row
  obtain ⟨held,running,_⟩ := Table.mem_select.mp listed
  exact ⟨held,running⟩

theorem nodup_short {Item : Type} {items : List Item} (short : items.length ≤ 1) : items.Nodup := by
  cases items with
  | nil => exact List.nodup_nil
  | cons item items =>
    rw [List.eq_nil_of_length_eq_zero (Nat.le_zero.mp (Nat.le_of_succ_le_succ short))]
    exact List.nodup_singleton item

theorem expired_apart {utc : String} (keys : (db.jobs.map (·.jobId)).Nodup) (runs : (db.runs.map (·.run.runId)).Nodup) :
    (db.expired utc).Pairwise fun first second => first.1.jobId ≠ second.1.jobId := by
  have ids : ((db.expired utc).map (·.1.jobId)).Nodup := by
    have single : ∀ job : Job, ((Table.select (·.run.runId = job.runId) db.runs).map fun row => (job,row.run.status)).length ≤ 1 := by
      intro job
      rw [List.length_map]
      by_cases some : ∃ row ∈ db.runs, row.run.runId = job.runId
      · obtain ⟨row,member,same⟩ := some
        rw [← same,Table.select_key runs member]
        rfl
      · rw [Table.select_eq_nil.mpr fun row member same => some ⟨row,member,same⟩]
        exact Nat.zero_le _
    have listed : ((Table.select (fun job : Job => job.status = .running ∧ job.leaseExpiresAt ≠ "" ∧ job.leaseExpiresAt < utc) db.jobs).map
        (·.jobId)).Nodup := keys.sublist (List.filter_sublist.map _)
    unfold expired
    generalize Table.select (fun job : Job => job.status = .running ∧ job.leaseExpiresAt ≠ "" ∧ job.leaseExpiresAt < utc) db.jobs = jobs at listed ⊢
    induction jobs with
    | nil => exact List.nodup_nil
    | cons job jobs ih =>
      obtain ⟨new,listed⟩ := List.nodup_cons.mp listed
      have own : ∀ id ∈ ((Table.select (·.run.runId = job.runId) db.runs).map fun row => (job,row.run.status)).map (·.1.jobId), id = job.jobId := by
        intro id member
        obtain ⟨item,inside,rfl⟩ := List.mem_map.mp member
        obtain ⟨row,_,rfl⟩ := List.mem_map.mp inside
        rfl
      rw [List.flatMap_cons,List.map_append,List.nodup_append]
      refine ⟨nodup_short (by rw [List.length_map]; exact single job),ih listed,fun first left second right same => ?_⟩
      obtain ⟨item,inside,rfl⟩ := List.mem_map.mp right
      obtain ⟨other,among,row⟩ := List.mem_flatMap.mp inside
      obtain ⟨_,_,rfl⟩ := List.mem_map.mp row
      exact new (List.mem_map.mpr ⟨other,among,same.symm.trans (own first left)⟩)
  exact List.pairwise_map.mp ids

theorem cancelCovered_settles (utc : String) : Settles db.jobs (db.cancelCovered utc).jobs :=
  .update fun _ _ ⟨_,queued,_⟩ => .inr ⟨.inl queued,rfl,rfl,fun running => (nomatch running)⟩

/-- A job that `claim_next_job` leases: it waits, no job of its run runs, and an issue job has no run-level job beside it. -/
structure Claimable (jobs : List Job) (job : Job) : Prop where
  member : job ∈ jobs
  queued : job.status = .queued
  free : ∀ other ∈ jobs, other.runId = job.runId → other.status ≠ .running
  uncovered : job.kind = .issue → ∀ other ∈ jobs, other.runId = job.runId → other.kind = .run → ¬other.Active

theorem leased_ids (claim : Claim) (selects : Job → Prop) [DecidablePred selects] (jobs : List Job) :
    (Table.update selects (leased claim) jobs).map (·.jobId) = jobs.map (·.jobId) := by
  have same : ∀ job, selects job → (leased claim job).jobId = job.jobId := fun _ _ => rfl
  exact Table.map_update _ same

theorem claimFrom_cases (claim : Claim) (turns : Nat) (keys : (db.jobs.map (·.jobId)).Nodup) :
    (claimFrom claim turns db).2.runs = db.runs ∧
    ((claimFrom claim turns db).1 = none ∧ Settles db.jobs (claimFrom claim turns db).2.jobs ∨
      ∃ middle job, Settles db.jobs middle ∧ Claimable middle job ∧ (claimFrom claim turns db).1 = some (leased claim job) ∧
        (claimFrom claim turns db).2.jobs = Table.update (fun row => row.jobId = job.jobId ∧ row.status = .queued) (leased claim) middle) := by
  induction turns generalizing db with
  | zero => exact ⟨rfl,.inl ⟨rfl,.refl _⟩⟩
  | succ turns ih =>
    unfold claimFrom
    cases found : db.nextQueued with
    | none => exact ⟨rfl,.inl ⟨rfl,.refl _⟩⟩
    | some job =>
      obtain ⟨member,queued,free⟩ := nextQueued_some found
      dsimp only
      by_cases covered : job.kind = .issue ∧ db.Covered job.runId
      · rw [if_pos covered]
        have first : Settles db.jobs (db.writeJobs (·.jobId = job.jobId) (superseded claim.clock.utc)).jobs := by
          refine .update fun row there same => .inr ⟨.inl ?_,rfl,rfl,fun running => (nomatch running)⟩
          rw [Table.eq_of_key keys there member same]
          exact queued
        obtain ⟨runs,rest⟩ := ih (first.ids ▸ keys)
        refine ⟨runs,?_⟩
        rcases rest with ⟨none,settles⟩ | ⟨middle,leasedJob,settles,rest⟩
        · exact .inl ⟨none,first.trans settles⟩
        · exact .inr ⟨middle,leasedJob,first.trans settles,rest⟩
      · rw [if_neg covered]
        refine ⟨rfl,.inr ⟨db.jobs,job,.refl _,⟨member,queued,free,fun issue other there same level active => ?_⟩,?_,rfl⟩⟩
        · exact covered ⟨issue,other,there,same,level,active⟩
        · have there : leased claim job ∈ (db.writeJobs (fun row => row.jobId = job.jobId ∧ row.status = .queued) (leased claim)).jobs :=
            Table.mem_update.mpr ⟨job,member,if_pos ⟨rfl,queued⟩⟩
          have unique : ((db.writeJobs (fun row => row.jobId = job.jobId ∧ row.status = .queued) (leased claim)).jobs.map (·.jobId)).Nodup :=
            (leased_ids claim (fun row => row.jobId = job.jobId ∧ row.status = .queued) db.jobs).symm ▸ keys
          obtain ⟨first,fetched⟩ := Table.fetch_isSome (fun row : Job => row.jobId = job.jobId) there rfl
          have same := Table.fetch_selects fetched
          rw [fetched,Table.eq_of_key unique (Table.fetch_mem fetched) there same]

theorem claimNextJob_cases (claim : Claim) (keys : (db.jobs.map (·.jobId)).Nodup) (runs : (db.runs.map (·.run.runId)).Nodup) :
    ∃ recovered, Settles db.jobs recovered ∧ (∀ item ∈ db.expired claim.clock.utc, ∀ job ∈ recovered, job.jobId = item.1.jobId →
      job.status ≠ .running) ∧
    ((db.claimNextJob claim).1 = none ∧ Settles recovered (db.claimNextJob claim).2.jobs ∨
      ∃ middle job, Settles recovered middle ∧ Claimable middle job ∧ (db.claimNextJob claim).1 = some (leased claim job) ∧
        (db.claimNextJob claim).2.jobs = Table.update (fun row => row.jobId = job.jobId ∧ row.status = .queued) (leased claim) middle) := by
  obtain ⟨first,stopped⟩ := recover_settles claim.clock (db.expired claim.clock.utc) (expired_apart keys runs) keys fun _ => expired_held
  refine ⟨_,first,stopped,?_⟩
  have second := @cancelCovered_settles ((db.expired claim.clock.utc).foldl (fun db item => db.recover claim.clock item) db) claim.clock.utc
  have unique := (first.trans second).ids ▸ keys
  unfold claimNextJob
  rcases (claimFrom_cases claim _ unique).2 with ⟨none,settles⟩ | ⟨middle,job,settles,rest⟩
  · exact .inl ⟨none,second.trans settles⟩
  · exact .inr ⟨middle,job,second.trans settles,rest⟩

def runIds (db : Db) : List String := db.runs.map (·.run.runId)

theorem writeRuns_ids (selects : RunRow → Prop) [DecidablePred selects] {set : RunRow → RunRow}
    (same : ∀ row, selects row → (set row).run.runId = row.run.runId) : (db.writeRuns selects set).runIds = db.runIds :=
  Table.map_update _ same

theorem writeRun_ids {runId : String} {set : RunRow → RunRow} (same : ∀ row, row.run.runId = runId → (set row).run.runId = row.run.runId) :
    (db.writeRun runId set).runIds = db.runIds := Table.map_update _ same

theorem resetRunForEnqueue_ids {runId : String} {clock : Clock} : (db.resetRunForEnqueue runId clock).runIds = db.runIds :=
  writeRun_ids fun _ _ => rfl

theorem mem_runIds {runId : String} : runId ∈ db.runIds ↔ ∃ row ∈ db.runs, row.run.runId = runId := List.mem_map

theorem getRow_ids {runId : String} {row : RunRow} (found : db.getRow runId = some row) : runId ∈ db.runIds := by
  have same := Table.fetch_selects found
  exact mem_runIds.mpr ⟨row,Table.fetch_mem found,same⟩

theorem insertRun_cases {run : DailyBriefRun} {now runId : String} {runCreated : Bool} {stored : Db}
    (done : db.insertRun run now = some (runCreated,runId,stored)) : stored.jobs = db.jobs ∧
      (runCreated = false ∧ stored = db ∧ runId ∈ db.runIds ∨
        runCreated = true ∧ run.runId ∉ db.runIds ∧ runId = run.runId ∧ stored.runIds = db.runIds ++ [run.runId]) := by
  unfold insertRun at done
  split at done
  next row found =>
    cases done
    exact ⟨rfl,.inl ⟨rfl,rfl,mem_runIds.mpr ⟨row,Table.fetch_mem found,rfl⟩⟩⟩
  next =>
    split at done
    next => cases done
    next absent =>
      cases done
      refine ⟨rfl,.inr ⟨rfl,fun member => ?_,rfl,List.map_append⟩⟩
      obtain ⟨row,there,same⟩ := mem_runIds.mp member
      exact Table.fetch_none.mp absent row there same

theorem createRunAndEnqueueJob_cases {canonicalOwnerId : String → String} {run : DailyBriefRun} {issue : Option DailyBriefIssue}
    {jobId : String} {clock : Clock} {runCreated created : Bool} {job : Job} {stored : Db}
    (done : db.createRunAndEnqueueJob canonicalOwnerId run issue jobId clock = some (runCreated,job,created,stored)) :
    (stored.runIds = db.runIds ∧ job.runId ∈ db.runIds ∨
      run.runId ∉ db.runIds ∧ job.runId = run.runId ∧ stored.runIds = db.runIds ++ [run.runId]) ∧
    (created = false ∧ stored.jobs = db.jobs ∧ job ∈ db.jobs ∧ job.Active ∨
      created = true ∧ stored.jobs = db.jobs ++ [job] ∧ job.status = .queued ∧ (∀ old ∈ db.jobs, old.jobId ≠ job.jobId) ∧
        ∀ old ∈ db.jobs, old.Active → old.target ≠ job.target) := by
  unfold createRunAndEnqueueJob at done
  generalize (if issue.isSome then JobKind.issue else .run) = kind at done
  generalize issue.elim 0 (·.issueId) = issueId at done
  cases begun : db.insertRun {run with ownerId := canonicalOwnerId run.ownerId} clock.now with
  | none =>
    rw [begun] at done
    cases done
  | some start =>
    obtain ⟨isNew,runId,base⟩ := start
    rw [begun] at done
    dsimp only at done
    obtain ⟨jobs,ids⟩ := insertRun_cases begun
    have placed : ∀ {final : Db}, final.runIds = base.runIds → job.runId = runId →
        (final.runIds = db.runIds ∧ job.runId ∈ db.runIds ∨
          run.runId ∉ db.runIds ∧ job.runId = run.runId ∧ final.runIds = db.runIds ++ [run.runId]) := by
      intro final same own
      rcases ids with ⟨_,rfl,there⟩ | ⟨_,fresh,rfl,added⟩
      · exact .inl ⟨same,own ▸ there⟩
      · exact .inr ⟨fresh,own,same.trans added⟩
    cases inserted : base.insertJob runId kind issueId jobId clock with
    | none =>
      rw [inserted] at done
      cases done
    | some result =>
      obtain ⟨added,fresh,next⟩ := result
      rw [inserted] at done
      rcases insertJob_cases inserted with ⟨same,rfl,active⟩ | ⟨same,rfl,new,fresh,alone⟩
      · subst same
        cases done
        obtain ⟨member,own,_,_,active⟩ := activeJob_some active
        exact ⟨placed rfl own,.inl ⟨rfl,jobs,jobs ▸ member,active⟩⟩
      · subst same
        cases done
        rw [jobs] at fresh alone
        refine ⟨placed ?_ (by rw [new]; rfl),.inr ⟨rfl,?_,by rw [new]; rfl,fresh,alone⟩⟩
        · cases runCreated <;> cases issue <;> exact writeRun_ids fun _ _ => rfl
        · cases runCreated <;> cases issue <;> exact congrArg (· ++ [_]) jobs

theorem recover_runIds (clock : Clock) (item : Job × RunStatus) : (db.recover clock item).runIds = db.runIds := by
  unfold recover
  split
  next => rfl
  next =>
    dsimp only
    split <;> exact writeRun_ids fun _ _ => rfl

theorem recovered_runIds (clock : Clock) (items : List (Job × RunStatus)) :
    (items.foldl (fun db item => db.recover clock item) db).runIds = db.runIds := by
  induction items generalizing db with
  | nil => rfl
  | cons item items ih => exact ih.trans (recover_runIds clock item)

theorem claimNextJob_runIds (claim : Claim) (keys : (db.jobs.map (·.jobId)).Nodup) (runs : db.runIds.Nodup) :
    (db.claimNextJob claim).2.runIds = db.runIds := by
  have first := (recover_settles claim.clock (db.expired claim.clock.utc) (expired_apart keys runs) keys fun _ => expired_held).1
  have second := @cancelCovered_settles ((db.expired claim.clock.utc).foldl (fun db item => db.recover claim.clock item) db) claim.clock.utc
  have unique := (first.trans second).ids ▸ keys
  rw [runIds,claimNextJob,(claimFrom_cases claim _ unique).1]
  exact recovered_runIds claim.clock _

theorem deleteIssueHistory_cases {canonicalOwnerId : String → String} {ownerId : String} {issueId : Int} {stored : Db}
    (done : db.deleteIssueHistory canonicalOwnerId ownerId issueId = some stored) :
    (∀ job ∈ db.jobs, db.InHistory canonicalOwnerId ownerId issueId job.runId → ¬job.Active) ∧
      stored.jobs = Table.delete (fun job => db.InHistory canonicalOwnerId ownerId issueId job.runId) db.jobs ∧
      stored.runs = Table.delete (fun row => db.InHistory canonicalOwnerId ownerId issueId row.run.runId) db.runs := by
  unfold deleteIssueHistory at done
  split at done
  next => cases done
  next idle =>
    cases done
    exact ⟨fun job member chosen active => idle ⟨job,member,chosen,active⟩,rfl,rfl⟩

end Db

section
variable {canonicalOwnerId : String → String} {db : Db}

theorem held_active {jobId workerId leaseToken : String} {job : Job} (held : Db.Holds jobId workerId leaseToken job) : job.Active :=
  .inr held.2.2.2

section
variable (op : Op) (keys : (db.jobs.map (·.jobId)).Nodup) (runs : db.runIds.Nodup)
include keys runs

theorem perform_effect :
    Effect op (perform canonicalOwnerId op db).runIds db.jobs (perform canonicalOwnerId op db).jobs := by
  cases op with
  | enqueueJob runId kind issueId jobId clock =>
    show Effect _ ((db.enqueueJob runId kind issueId jobId clock).elim db (·.2.2)).runIds db.jobs
      ((db.enqueueJob runId kind issueId jobId clock).elim db (·.2.2)).jobs
    cases done : db.enqueueJob runId kind issueId jobId clock with
    | none => exact .settle (.refl _)
    | some result =>
      obtain ⟨job,created,stored⟩ := result
      obtain ⟨⟨row,found⟩,own,_,outcome⟩ := Db.enqueueJob_cases done
      show Effect _ stored.runIds db.jobs stored.jobs
      rcases outcome with ⟨_,same,_⟩ | ⟨_,jobs,rows,queued,fresh,alone⟩
      · exact .settle (same ▸ .refl _)
      · have home : job.runId ∈ stored.runIds := by
          rw [Db.runIds,rows,own]
          show runId ∈ (db.resetRunForEnqueue runId clock).runIds
          rw [Db.resetRunForEnqueue_ids]
          exact Db.getRow_ids found
        rw [jobs]
        exact .insert home fresh queued alone
  | createRunAndEnqueueJob run issue jobId clock =>
    show Effect _ ((db.createRunAndEnqueueJob canonicalOwnerId run issue jobId clock).elim db (·.2.2.2)).runIds db.jobs
      ((db.createRunAndEnqueueJob canonicalOwnerId run issue jobId clock).elim db (·.2.2.2)).jobs
    cases done : db.createRunAndEnqueueJob canonicalOwnerId run issue jobId clock with
    | none => exact .settle (.refl _)
    | some result =>
      obtain ⟨runCreated,job,created,stored⟩ := result
      show Effect _ stored.runIds db.jobs stored.jobs
      obtain ⟨runs,outcome⟩ := Db.createRunAndEnqueueJob_cases done
      rcases outcome with ⟨_,jobs,_⟩ | ⟨_,jobs,queued,fresh,alone⟩
      · exact .settle (jobs ▸ .refl _)
      · have home : job.runId ∈ stored.runIds := by
          rcases runs with ⟨same,there⟩ | ⟨_,own,added⟩
          · exact same ▸ there
          · rw [added,own]
            exact List.mem_append_right _ (List.mem_singleton.mpr rfl)
        rw [jobs]
        exact .insert home fresh queued alone
  | claimNextJob claim =>
    obtain ⟨recovered,first,_,outcome⟩ := Db.claimNextJob_cases claim keys runs
    rcases outcome with ⟨_,rest⟩ | ⟨middle,job,rest,claimable,_,jobs⟩
    · exact .settle (first.trans rest)
    · show Effect _ (db.claimNextJob claim).2.runIds db.jobs (db.claimNextJob claim).2.jobs
      rw [jobs]
      exact .claim rfl (first.trans rest) claimable.member claimable.queued claimable.free claimable.uncovered
  | renewJob jobId workerId leaseToken leaseExpiry =>
    exact .settle (.update fun job _ held => .inr ⟨held_active held,rfl,rfl,fun running => ⟨running,rfl,rfl⟩⟩)
  | finishJob jobId workerId leaseToken error utc =>
    refine .settle (.update fun job _ held => .inr ⟨held_active held,rfl,rfl,fun running => ?_⟩)
    dsimp only at running
    split at running <;> cases running
  | requeueJob jobId workerId leaseToken reason now =>
    refine .settle ?_
    show Settles db.jobs (db.requeueJob jobId workerId leaseToken reason now).2.jobs
    unfold Db.requeueJob
    cases Table.fetch (Db.Holds jobId workerId leaseToken) db.jobs with
    | none => exact .refl _
    | some job =>
      have moved : Settles db.jobs (Table.update (Db.Holds jobId workerId leaseToken) (fun job =>
          {job with status := .queued,workerId := "",leaseToken := "",leaseExpiresAt := "",error := clip reason}) db.jobs) :=
        .update fun job _ held => .inr ⟨held_active held,rfl,rfl,fun running => (nomatch running)⟩
      dsimp only
      split <;> exact moved
  | cancelQueuedIssueJobs runId utc =>
    exact .settle (.update fun job _ chosen => .inr ⟨.inl chosen.2.2,rfl,rfl,fun running => (nomatch running)⟩)
  | cancelQueuedIssueRun runId now =>
    refine .settle ?_
    show Settles db.jobs (db.cancelQueuedIssueRun runId now).2.jobs
    unfold Db.cancelQueuedIssueRun
    cases db.getRow runId with
    | none => exact .refl _
    | some row =>
      dsimp only
      split
      next => exact .refl _
      next => exact .update fun job _ chosen => .inr ⟨.inl chosen.2,rfl,rfl,fun running => (nomatch running)⟩
  | deleteIssueHistory ownerId issueId =>
    show Effect _ _ db.jobs ((db.deleteIssueHistory canonicalOwnerId ownerId issueId).getD db).jobs
    cases done : db.deleteIssueHistory canonicalOwnerId ownerId issueId with
    | none => exact .settle (.refl _)
    | some stored =>
      obtain ⟨idle,jobs,_⟩ := Db.deleteIssueHistory_cases done
      show Effect _ _ db.jobs stored.jobs
      rw [jobs]
      exact .delete rfl idle
  | updateRun | requestCancel | clearCancel | resetStaleRunning | upsertIssue | deleteIssues | saveSnapshot | deleteSnapshot =>
    exact .settle (.refl _)

theorem perform_runIds :
    (perform canonicalOwnerId op db).runIds = db.runIds ∨
    (∃ runId ∉ db.runIds, (perform canonicalOwnerId op db).runIds = db.runIds ++ [runId]) ∨
    ∃ ownerId issueId, op = .deleteIssueHistory ownerId issueId ∧
      db.deleteIssueHistory canonicalOwnerId ownerId issueId = some (perform canonicalOwnerId op db) := by
  cases op with
  | enqueueJob runId kind issueId jobId clock =>
    refine .inl ?_
    show ((db.enqueueJob runId kind issueId jobId clock).elim db (·.2.2)).runIds = db.runIds
    cases done : db.enqueueJob runId kind issueId jobId clock with
    | none => rfl
    | some result =>
      obtain ⟨job,created,stored⟩ := result
      rcases (Db.enqueueJob_cases done).2.2.2 with ⟨_,same,_⟩ | ⟨_,_,rows,_⟩
      · exact congrArg Db.runIds same
      · show stored.runs.map (·.run.runId) = db.runIds
        rw [rows]
        exact Db.resetRunForEnqueue_ids
  | createRunAndEnqueueJob run issue jobId clock =>
    show ((db.createRunAndEnqueueJob canonicalOwnerId run issue jobId clock).elim db (·.2.2.2)).runIds = db.runIds ∨
      (∃ runId ∉ db.runIds, ((db.createRunAndEnqueueJob canonicalOwnerId run issue jobId clock).elim db (·.2.2.2)).runIds =
        db.runIds ++ [runId]) ∨ _
    cases done : db.createRunAndEnqueueJob canonicalOwnerId run issue jobId clock with
    | none => exact .inl rfl
    | some result =>
      obtain ⟨runCreated,job,created,stored⟩ := result
      rcases (Db.createRunAndEnqueueJob_cases done).1 with ⟨same,_⟩ | ⟨fresh,_,added⟩
      · exact .inl same
      · exact .inr (.inl ⟨run.runId,fresh,added⟩)
  | claimNextJob claim => exact .inl (Db.claimNextJob_runIds claim keys runs)
  | requeueJob jobId workerId leaseToken reason now =>
    refine .inl ?_
    show (db.requeueJob jobId workerId leaseToken reason now).2.runIds = db.runIds
    unfold Db.requeueJob
    split
    next => rfl
    next =>
      dsimp only
      split <;> exact Db.writeRun_ids fun _ _ => rfl
  | cancelQueuedIssueRun runId now =>
    refine .inl ?_
    show (db.cancelQueuedIssueRun runId now).2.runIds = db.runIds
    unfold Db.cancelQueuedIssueRun
    split
    next => rfl
    next =>
      split
      next => rfl
      next => exact Db.writeRun_ids fun _ _ => rfl
  | deleteIssueHistory ownerId issueId =>
    cases done : db.deleteIssueHistory canonicalOwnerId ownerId issueId with
    | none => exact .inl (by rw [perform,done]; rfl)
    | some stored => exact .inr (.inr ⟨ownerId,issueId,rfl,by rw [perform,done]; rfl⟩)
  | updateRun run now => exact .inl (Db.writeRun_ids fun _ same => same.symm)
  | requestCancel | clearCancel | resetStaleRunning => exact .inl (Db.writeRuns_ids _ fun _ _ => rfl)
  | renewJob | finishJob | cancelQueuedIssueJobs | upsertIssue | deleteIssues | saveSnapshot | deleteSnapshot => exact .inl rfl

end

structure Sound (queue : Queue) : Prop where
  keys : (queue.db.jobs.map (·.jobId)).Nodup
  runKeys : queue.db.runIds.Nodup
  single : ∀ first ∈ queue.db.jobs, ∀ second ∈ queue.db.jobs, first.Active → second.Active → first.target = second.target → first = second
  serial : ∀ first ∈ queue.db.jobs, ∀ second ∈ queue.db.jobs, first.status = .running → second.status = .running →
    first.runId = second.runId → first = second
  drawn : ∀ job ∈ queue.db.jobs, job.status = .running → job.leaseToken ∈ queue.tokens
  owned : ∀ job ∈ queue.db.jobs, job.runId ∈ queue.db.runIds

/-- The parts of `Sound` that are about the jobs alone. -/
structure Orderly (jobs : List Job) (tokens : List String) : Prop where
  keys : (jobs.map (·.jobId)).Nodup
  single : ∀ first ∈ jobs, ∀ second ∈ jobs, first.Active → second.Active → first.target = second.target → first = second
  serial : ∀ first ∈ jobs, ∀ second ∈ jobs, first.status = .running → second.status = .running → first.runId = second.runId → first = second
  drawn : ∀ job ∈ jobs, job.status = .running → job.leaseToken ∈ tokens

theorem Sound.orderly {queue : Queue} (sound : Sound queue) : Orderly queue.db.jobs queue.tokens :=
  ⟨sound.keys,sound.single,sound.serial,sound.drawn⟩

section
variable {before after : List Job} {tokens : List String}

theorem Orderly.settles (orderly : Orderly before tokens) (settles : Settles before after) : Orderly after tokens := by
  have keys : (after.map (·.jobId)).Nodup := settles.ids ▸ orderly.keys
  have same : ∀ {first second old other : Job}, Change old first → Change other second → first ∈ after → second ∈ after → old = other →
      first = second := by
    rintro first second old other left right there here rfl
    exact Table.eq_of_key keys there here (left.id.trans right.id.symm)
  refine ⟨keys,fun first left second right active alive target => ?_,fun first left second right runs moves run => ?_,fun job member running => ?_⟩
  · obtain ⟨old,held,change⟩ := settles.origin left
    obtain ⟨other,there,move⟩ := settles.origin right
    exact same change move left right (orderly.single old held other there (change.active active) (move.active alive)
      (change.target.symm.trans (target.trans move.target)))
  · obtain ⟨old,held,change⟩ := settles.origin left
    obtain ⟨other,there,move⟩ := settles.origin right
    exact same change move left right (orderly.serial old held other there (change.running runs).1 (move.running moves).1
      (change.runId.symm.trans (run.trans move.runId)))
  · obtain ⟨old,held,change⟩ := settles.origin member
    obtain ⟨was,_,token⟩ := change.running running
    exact token ▸ orderly.drawn old held was

theorem Orderly.insert {job : Job} (orderly : Orderly before tokens) (fresh : ∀ old ∈ before, old.jobId ≠ job.jobId)
    (queued : job.status = .queued) (alone : ∀ old ∈ before, old.Active → old.target ≠ job.target) : Orderly (before++[job]) tokens := by
  have waits : job.status ≠ .running := fun running => by simp [queued] at running
  refine ⟨Table.nodup_insert orderly.keys fresh,fun first left second right active alive target => ?_,
    fun first left second right runs moves run => ?_,fun other member running => ?_⟩
  · rcases List.mem_append.mp left with old | new <;> rcases List.mem_append.mp right with was | added
    · exact orderly.single first old second was active alive target
    · rw [List.mem_singleton.mp added] at target
      exact absurd target (alone first old active)
    · rw [List.mem_singleton.mp new] at target
      exact absurd target.symm (alone second was alive)
    · rw [List.mem_singleton.mp new,List.mem_singleton.mp added]
  · rcases List.mem_append.mp left with old | new
    · rcases List.mem_append.mp right with was | added
      · exact orderly.serial first old second was runs moves run
      · exact absurd (List.mem_singleton.mp added ▸ moves) waits
    · exact absurd (List.mem_singleton.mp new ▸ runs) waits
  · rcases List.mem_append.mp member with old | new
    · exact orderly.drawn other old running
    · exact absurd (List.mem_singleton.mp new ▸ running) waits

theorem mem_claimed {job row : Job} {claim : Db.Claim} (keys : (before.map (·.jobId)).Nodup) (member : job ∈ before) (queued : job.status = .queued) :
    row ∈ Table.update (fun row => row.jobId = job.jobId ∧ row.status = .queued) (Db.leased claim) before ↔
      row = Db.leased claim job ∨ row ∈ before ∧ row ≠ job := by
  rw [Table.mem_update]
  constructor
  · rintro ⟨old,held,rewritten⟩
    split at rewritten
    next chosen =>
      rw [Table.eq_of_key keys held member chosen.1] at rewritten
      exact .inl rewritten.symm
    next other =>
      subst rewritten
      exact .inr ⟨held,fun same => other ⟨congrArg Job.jobId same,same ▸ queued⟩⟩
  · rintro (rfl | ⟨held,different⟩)
    · exact ⟨job,member,if_pos ⟨rfl,queued⟩⟩
    · exact ⟨row,held,if_neg fun chosen => different (Table.eq_of_key keys held member chosen.1)⟩

theorem Orderly.claim {job : Job} {claim : Db.Claim} (orderly : Orderly before tokens) (member : job ∈ before) (queued : job.status = .queued)
    (free : ∀ other ∈ before, other.runId = job.runId → other.status ≠ .running) :
    Orderly (Table.update (fun row => row.jobId = job.jobId ∧ row.status = .queued) (Db.leased claim) before) (claim.leaseToken::tokens) := by
  have rows := fun row => @mem_claimed before job row claim orderly.keys member queued
  have waits : job.Active := .inl queued
  have ids := Db.leased_ids claim (fun row => row.jobId = job.jobId ∧ row.status = .queued) before
  refine ⟨ids.symm ▸ orderly.keys,fun first left second right active alive target => ?_,
    fun first left second right runs moves run => ?_,fun other there running => ?_⟩
  · rcases (rows first).mp left with rfl | ⟨old,apart⟩ <;> rcases (rows second).mp right with rfl | ⟨was,away⟩
    · rfl
    · exact absurd (orderly.single job member second was waits alive target).symm away
    · exact absurd (orderly.single first old job member active waits target) apart
    · exact orderly.single first old second was active alive target
  · rcases (rows first).mp left with rfl | ⟨old,apart⟩ <;> rcases (rows second).mp right with rfl | ⟨was,away⟩
    · rfl
    · exact absurd moves (free second was run.symm)
    · exact absurd runs (free first old run)
    · exact orderly.serial first old second was runs moves run
  · rcases (rows other).mp there with rfl | ⟨old,_⟩
    · exact List.mem_cons_self ..
    · exact List.mem_cons_of_mem _ (orderly.drawn other old running)

theorem Orderly.delete {chosen : Job → Prop} [DecidablePred chosen] (orderly : Orderly before tokens) :
    Orderly (Table.delete chosen before) tokens := by
  have held : ∀ job ∈ Table.delete chosen before, job ∈ before := fun job member => (Table.mem_delete.mp member).1
  exact ⟨orderly.keys.sublist (List.filter_sublist.map _),
    fun first left second right => orderly.single first (held first left) second (held second right),
    fun first left second right => orderly.serial first (held first left) second (held second right),
    fun job member => orderly.drawn job (held job member)⟩

section
variable {op : Op} {runs : List String}

theorem Effect.orderly (effect : Effect op runs before after) (orderly : Orderly before tokens) : Orderly after (op.draws++tokens) := by
  have more : ∀ {jobs : List Job}, Orderly jobs tokens → Orderly jobs (op.draws++tokens) := fun given =>
    ⟨given.keys,given.single,given.serial,fun job member running => List.mem_append_right _ (given.drawn job member running)⟩
  cases effect with
  | settle settles => exact more (orderly.settles settles)
  | insert _ fresh queued alone => exact more (orderly.insert fresh queued alone)
  | claim point settles member queued free _ =>
    subst point
    exact (orderly.settles settles).claim member queued free
  | delete _ _ => exact more orderly.delete

theorem Effect.held (effect : Effect op runs before after) (orderly : Orderly before tokens) {jobId workerId leaseToken : String} {job : Job}
    (member : job ∈ after) (held : Db.Holds jobId workerId leaseToken job) :
    leaseToken ∈ op.draws ∨ ∃ old ∈ before, Db.Holds jobId workerId leaseToken old := by
  have back : ∀ {middle : List Job}, Settles before middle → job ∈ middle → ∃ old ∈ before, Db.Holds jobId workerId leaseToken old := by
    intro middle settles there
    obtain ⟨old,was,change⟩ := settles.origin there
    obtain ⟨id,worker,token,running⟩ := held
    obtain ⟨ran,holder,same⟩ := change.running running
    exact ⟨old,was,change.id.symm.trans id,holder.symm.trans worker,same.symm.trans token,ran⟩
  cases effect with
  | settle settles => exact .inr (back settles member)
  | insert _ _ queued _ =>
    rcases List.mem_append.mp member with old | new
    · exact .inr ⟨job,old,held⟩
    · have running := held.2.2.2
      rw [List.mem_singleton.mp new,queued] at running
      cases running
  | claim point settles there queued free _ =>
    rcases (mem_claimed (orderly.settles settles).keys there queued).mp member with rfl | ⟨old,_⟩
    · subst point
      exact .inl (List.mem_singleton.mpr held.2.2.1.symm)
    · exact .inr (back settles old)
  | delete _ _ => exact .inr ⟨job,(Table.mem_delete.mp member).1,held⟩

theorem Effect.over (effect : Effect op runs before after) (orderly : Orderly before tokens) {job : Job} (member : job ∈ before)
    (finished : ¬job.Active) : job ∈ after ∨ ∃ ownerId issueId, op = .deleteIssueHistory ownerId issueId := by
  have stays : ∀ {middle : List Job}, Settles before middle → job ∈ middle := by
    intro middle settles
    obtain ⟨new,there,change⟩ := settles.image member
    exact change.over finished ▸ there
  cases effect with
  | settle settles => exact .inl (stays settles)
  | insert _ _ _ _ => exact .inl (List.mem_append_left _ member)
  | claim _ settles there queued _ _ =>
    refine .inl ((mem_claimed (orderly.settles settles).keys there queued).mpr (.inr ⟨stays settles,fun same => ?_⟩))
    exact finished (same ▸ .inl queued)
  | @delete ownerId issueId _ _ point _ => exact .inr ⟨ownerId,issueId,point⟩

theorem Effect.origin (effect : Effect op runs before after) {job : Job} (member : job ∈ after) :
    (∃ old ∈ before, old.jobId = job.jobId ∧ old.runId = job.runId) ∨ ∀ old ∈ before, old.jobId ≠ job.jobId := by
  have back : ∀ {middle : List Job} {row : Job}, Settles before middle → row ∈ middle →
      ∃ old ∈ before, old.jobId = row.jobId ∧ old.runId = row.runId := by
    intro middle row settles there
    obtain ⟨old,was,change⟩ := settles.origin there
    exact ⟨old,was,change.id.symm,change.runId.symm⟩
  cases effect with
  | settle settles => exact .inl (back settles member)
  | insert _ fresh _ _ =>
    rcases List.mem_append.mp member with old | new
    · exact .inl ⟨job,old,rfl,rfl⟩
    · exact .inr (List.mem_singleton.mp new ▸ fresh)
  | claim _ settles _ _ _ _ =>
    obtain ⟨old,held,rewritten⟩ := Table.mem_update.mp member
    obtain ⟨origin,was,id,run⟩ := back settles held
    refine .inl ⟨origin,was,id.trans ?_,run.trans ?_⟩ <;> split at rewritten <;> exact rewritten ▸ rfl
  | delete _ _ => exact .inl ⟨job,(Table.mem_delete.mp member).1,rfl,rfl⟩

theorem Effect.home (effect : Effect op runs before after) {job : Job} (member : job ∈ after) :
    job.runId ∈ runs ∨ ∃ old ∈ before, old.runId = job.runId := by
  have back : ∀ {middle : List Job} {row : Job}, Settles before middle → row ∈ middle → ∃ old ∈ before, old.runId = row.runId := by
    intro middle row settles there
    obtain ⟨old,was,change⟩ := settles.origin there
    exact ⟨old,was,change.runId.symm⟩
  cases effect with
  | settle settles => exact .inr (back settles member)
  | insert home _ _ _ =>
    rcases List.mem_append.mp member with old | new
    · exact .inr ⟨job,old,rfl⟩
    · exact .inl (List.mem_singleton.mp new ▸ home)
  | claim _ settles _ _ _ _ =>
    obtain ⟨old,held,rewritten⟩ := Table.mem_update.mp member
    obtain ⟨origin,was,same⟩ := back settles held
    refine .inr ⟨origin,was,same.trans ?_⟩
    split at rewritten <;> exact rewritten ▸ rfl
  | delete _ _ => exact .inr ⟨job,(Table.mem_delete.mp member).1,rfl⟩

end

end

variable {queue : Queue}

theorem Sound.effect (sound : Sound queue) (op : Op) : Effect op (perform canonicalOwnerId op queue.db).runIds queue.db.jobs
    (perform canonicalOwnerId op queue.db).jobs := perform_effect op sound.keys sound.runKeys

theorem Sound.apply (sound : Sound queue) (op : Op) : Sound (apply canonicalOwnerId op queue) := by
  obtain ⟨keys,single,serial,drawn⟩ := (@Sound.effect canonicalOwnerId queue sound op).orderly sound.orderly
  have home := fun job => @Effect.home _ _ _ _ (@Sound.effect canonicalOwnerId queue sound op) job
  have runs : (perform canonicalOwnerId op queue.db).runIds.Nodup ∧
      ∀ job ∈ (perform canonicalOwnerId op queue.db).jobs, job.runId ∈ (perform canonicalOwnerId op queue.db).runIds := by
    rcases @perform_runIds canonicalOwnerId queue.db op sound.keys sound.runKeys with same | ⟨runId,fresh,added⟩ | ⟨ownerId,issueId,_,done⟩
    · refine ⟨same ▸ sound.runKeys,fun job member => ?_⟩
      rcases home job member with there | ⟨old,held,own⟩
      · exact there
      · exact same ▸ own ▸ sound.owned old held
    · refine ⟨added ▸ List.nodup_append.mpr ⟨sound.runKeys,List.nodup_singleton _,fun first left second right equal => ?_⟩,fun job member => ?_⟩
      · exact fresh (List.mem_singleton.mp right ▸ equal ▸ left)
      · rcases home job member with there | ⟨old,held,own⟩
        · exact there
        · exact added ▸ List.mem_append_left _ (own ▸ sound.owned old held)
    · obtain ⟨_,jobs,rows⟩ := Db.deleteIssueHistory_cases done
      refine ⟨?_,fun job member => ?_⟩
      · rw [Db.runIds,rows]
        exact sound.runKeys.sublist (List.filter_sublist.map _)
      · rw [jobs] at member
        obtain ⟨held,kept⟩ := Table.mem_delete.mp member
        obtain ⟨row,there,same⟩ := Db.mem_runIds.mp (sound.owned job held)
        exact Db.mem_runIds.mpr ⟨row,rows ▸ Table.mem_delete.mpr ⟨there,same.symm ▸ kept⟩,same⟩
  exact ⟨keys,runs.1,single,serial,drawn,runs.2⟩

theorem Sound.start : Sound .start :=
  ⟨List.nodup_nil,List.nodup_nil,fun _ member => (nomatch member),fun _ member => (nomatch member),fun _ member => (nomatch member),
    fun _ member => (nomatch member)⟩

theorem reached_sound (reached : Reached (apply canonicalOwnerId) Fresh .start queue) : Sound queue :=
  reached.invariant Sound Sound.start fun _ op before _ => before.apply op

theorem later_sound {later : Queue} (sound : Sound queue) (reached : Reached (apply canonicalOwnerId) Fresh queue later) : Sound later :=
  reached.invariant Sound sound fun _ op before _ => before.apply op

/-- No job carries the lease any more. -/
def Lost (jobId workerId leaseToken : String) (db : Db) : Prop := ∀ job ∈ db.jobs, ¬Db.Holds jobId workerId leaseToken job

section
variable {jobId workerId leaseToken : String} (lost : Lost jobId workerId leaseToken db)
include lost

theorem Lost.write (set : Job → Job) :
    db.writeJobs (Db.Holds jobId workerId leaseToken) set = db := by
  rw [Db.writeJobs,Table.update_eq_self lost]

theorem Lost.any :
    db.jobs.any (Db.Holds jobId workerId leaseToken ·) = false := by
  simpa [Lost] using lost

theorem Lost.refused (leaseExpiry error reason utc now : String) :
    db.renewJob jobId workerId leaseToken leaseExpiry = (false,db) ∧ db.finishJob jobId workerId leaseToken error utc = (false,db) ∧
      db.requeueJob jobId workerId leaseToken reason now = (false,db) := by
  refine ⟨by rw [Db.renewJob,lost.any,lost.write],by rw [Db.finishJob,lost.any,lost.write],?_⟩
  rw [Db.requeueJob,Table.fetch_none.mpr lost]

end

theorem Lost.later {jobId workerId leaseToken : String} (sound : Sound queue) (drawn : leaseToken ∈ queue.tokens)
    (lost : Lost jobId workerId leaseToken queue.db) {later : Queue} (reached : Reached (apply canonicalOwnerId) Fresh queue later) :
    Lost jobId workerId leaseToken later.db := by
  refine (reached.invariant (fun queue => Sound queue ∧ leaseToken ∈ queue.tokens ∧ Lost jobId workerId leaseToken queue.db)
    ⟨sound,drawn,lost⟩ ?_).2.2
  rintro before op ⟨sound,drawn,lost⟩ fresh
  refine ⟨sound.apply op,List.mem_append_right _ drawn,fun job member held => ?_⟩
  rcases (@Sound.effect canonicalOwnerId before sound op).held sound.orderly member held with new | ⟨old,was,carried⟩
  · exact fresh leaseToken new drawn
  · exact lost old was carried

theorem claim_recovers (sound : Sound queue) {claim : Db.Claim} (fresh : claim.leaseToken ∉ queue.tokens) {job : Job} (member : job ∈ queue.db.jobs)
    (running : job.status = .running) (leased : job.leaseExpiresAt ≠ "") (lapsed : job.leaseExpiresAt < claim.clock.utc) :
    Lost job.jobId job.workerId job.leaseToken (queue.db.claimNextJob claim).2 := by
  obtain ⟨recovered,first,stopped,outcome⟩ := Db.claimNextJob_cases claim sound.keys sound.runKeys
  obtain ⟨row,there,own⟩ := Db.mem_runIds.mp (sound.owned job member)
  have listed : (job,row.run.status) ∈ queue.db.expired claim.clock.utc := List.mem_flatMap.mpr
    ⟨job,Table.mem_select.mpr ⟨member,running,leased,lapsed⟩,List.mem_map.mpr ⟨row,Table.mem_select.mpr ⟨there,own⟩,rfl⟩⟩
  have back : ∀ {middle : List Job} {row : Job}, Settles recovered middle → row ∈ middle → row.jobId = job.jobId → row.status ≠ .running := by
    intro middle row settles inside same runs
    obtain ⟨old,was,change⟩ := settles.origin inside
    exact stopped _ listed old was (change.id.symm.trans same) (change.running runs).1
  intro row inside held
  rcases outcome with ⟨_,rest⟩ | ⟨middle,chosen,rest,claimable,_,jobs⟩
  · exact back rest inside held.1 held.2.2.2
  · rw [jobs] at inside
    have keys : (middle.map (·.jobId)).Nodup := (first.trans rest).ids ▸ sound.keys
    rcases (mem_claimed keys claimable.member claimable.queued).mp inside with rfl | ⟨old,_⟩
    · have token : claim.leaseToken = job.leaseToken := held.2.2.1
      exact fresh (token ▸ sound.drawn job member running)
    · exact back rest old held.1 held.2.2.2

theorem at_most_one {Row : Type} {rows : List Row} (nodup : rows.Nodup) {chosen : Row → Prop} [DecidablePred chosen]
    (same : ∀ first ∈ rows, ∀ second ∈ rows, chosen first → chosen second → first = second) : (Table.select chosen rows).length ≤ 1 := by
  have members : ∀ row ∈ Table.select chosen rows, row ∈ rows ∧ chosen row := fun row member => Table.mem_select.mp member
  have distinct : (Table.select chosen rows).Nodup := nodup.filter _
  generalize Table.select chosen rows = found at members distinct
  cases found with
  | nil => exact Nat.zero_le _
  | cons first rest =>
    cases rest with
    | nil => exact le_rfl
    | cons second rest =>
      obtain ⟨left,one⟩ := members first (List.mem_cons_self ..)
      obtain ⟨right,two⟩ := members second (List.mem_cons_of_mem _ (List.mem_cons_self ..))
      exact absurd (same first left second right one two ▸ List.mem_cons_self ..) (List.nodup_cons.mp distinct).1

theorem claimed_uncovered (sound : Sound queue) {claim : Db.Claim} {job : Job} (claimed : (queue.db.claimNextJob claim).1 = some job)
    (issue : job.kind = .issue) : ¬(queue.db.claimNextJob claim).2.Covered job.runId := by
  obtain ⟨recovered,first,_,outcome⟩ := Db.claimNextJob_cases claim sound.keys sound.runKeys
  rcases outcome with ⟨none,_⟩ | ⟨middle,row,rest,claimable,some,jobs⟩
  · rw [none] at claimed
    cases claimed
  · rw [some] at claimed
    cases claimed
    rintro ⟨other,there,same,level,active⟩
    rw [jobs] at there
    have keys : (middle.map (·.jobId)).Nodup := (first.trans rest).ids ▸ sound.keys
    rcases (mem_claimed keys claimable.member claimable.queued).mp there with rfl | ⟨old,_⟩
    · exact absurd (issue.symm.trans level) (by decide)
    · exact claimable.uncovered issue other old same level active

/-- The run of a job is gone, with all its jobs. -/
def Gone (runId : String) (db : Db) : Prop := runId ∉ db.runIds ∧ ∀ row ∈ db.jobs, row.runId ≠ runId

theorem over_stays (sound : Sound queue) {job : Job} (member : job ∈ queue.db.jobs) (finished : ¬job.Active) {later : Queue}
    (reached : Reached (apply canonicalOwnerId) Fresh queue later) :
    job ∈ later.db.jobs ∨ ∃ middle, Reached (apply canonicalOwnerId) Fresh queue middle ∧
      Reached (apply canonicalOwnerId) Fresh middle later ∧ Gone job.runId middle.db := by
  induction reached with
  | start => exact .inl member
  | @step before earlier op fresh ih =>
    rcases ih with there | ⟨middle,first,rest,gone⟩
    · have kept := later_sound sound earlier
      by_cases stays : job ∈ (perform canonicalOwnerId op before.db).jobs
      · exact .inl stays
      · refine .inr ⟨_,earlier.step op fresh,.start,?_⟩
        obtain ⟨ownerId,issueId,rfl⟩ := ((@Sound.effect canonicalOwnerId before kept op).over kept.orderly there finished).resolve_left stays
        cases done : before.db.deleteIssueHistory canonicalOwnerId ownerId issueId with
        | none => exact absurd (by rw [perform,done]; exact there) stays
        | some stored =>
          obtain ⟨_,jobs,rows⟩ := Db.deleteIssueHistory_cases done
          have result : perform canonicalOwnerId (.deleteIssueHistory ownerId issueId) before.db = stored := by
            rw [perform,done]
            rfl
          have chosen : before.db.InHistory canonicalOwnerId ownerId issueId job.runId := by
            by_contra kept
            exact stays (result ▸ jobs ▸ Table.mem_delete.mpr ⟨there,kept⟩)
          show Gone job.runId (perform canonicalOwnerId (.deleteIssueHistory ownerId issueId) before.db)
          rw [result]
          refine ⟨fun listed => ?_,fun row inside same => ?_⟩
          · obtain ⟨row,inside,same⟩ := Db.mem_runIds.mp listed
            rw [rows] at inside
            exact (Table.mem_delete.mp inside).2 (same ▸ chosen)
          · rw [jobs] at inside
            exact (Table.mem_delete.mp inside).2 (same ▸ chosen)
    · exact .inr ⟨middle,first,rest.step op fresh,gone⟩

/-- In every run: one job of a run runs, one of a target is active, an issue job is claimed only beside no run-level one, a lease
that was taken back changes nothing any more, and a job that is over stays as it is until its run is deleted. -/
theorem queue_sound (canonicalOwnerId : String → String) {queue : Queue} (reached : Reached (apply canonicalOwnerId) Fresh .start queue) :
    (∀ runId, (Table.select (fun job => job.runId = runId ∧ job.status = .running) queue.db.jobs).length ≤ 1) ∧
    (∀ target, (Table.select (fun job => job.target = target ∧ job.Active) queue.db.jobs).length ≤ 1) ∧
    (∀ claim job, (queue.db.claimNextJob claim).1 = some job → job.kind = .issue → ¬(queue.db.claimNextJob claim).2.Covered job.runId) ∧
    (∀ claim, claim.leaseToken ∉ queue.tokens → ∀ job ∈ queue.db.jobs, job.status = .running → job.leaseExpiresAt ≠ "" →
      job.leaseExpiresAt < claim.clock.utc → Lost job.jobId job.workerId job.leaseToken (queue.db.claimNextJob claim).2) ∧
    (∀ jobId workerId leaseToken, leaseToken ∈ queue.tokens → Lost jobId workerId leaseToken queue.db →
      ∀ later, Reached (apply canonicalOwnerId) Fresh queue later → ∀ leaseExpiry error reason utc now,
      later.db.renewJob jobId workerId leaseToken leaseExpiry = (false,later.db) ∧
        later.db.finishJob jobId workerId leaseToken error utc = (false,later.db) ∧
        later.db.requeueJob jobId workerId leaseToken reason now = (false,later.db)) ∧
    ∀ job ∈ queue.db.jobs, ¬job.Active → ∀ later, Reached (apply canonicalOwnerId) Fresh queue later →
      job ∈ later.db.jobs ∨ ∃ middle, Reached (apply canonicalOwnerId) Fresh queue middle ∧
        Reached (apply canonicalOwnerId) Fresh middle later ∧ Gone job.runId middle.db := by
  have sound := reached_sound reached
  have nodup : queue.db.jobs.Nodup := sound.keys.of_map _
  refine ⟨fun runId => at_most_one nodup ?_,fun target => at_most_one nodup ?_,fun claim job => claimed_uncovered sound,
    fun claim fresh job member => claim_recovers sound fresh member,fun jobId workerId leaseToken drawn lost later further => ?_,
    fun job member finished later => over_stays sound member finished⟩
  · exact fun first left second right one two => sound.serial first left second right one.2 two.2 (one.1.trans two.1.symm)
  · exact fun first left second right one two => sound.single first left second right one.2 two.2 (one.1.trans two.1.symm)
  · exact (lost.later sound drawn further).refused

end

def morningRun : DailyBriefRun := ⟨"alice","2026-05-01","manual","db_1",.pending,"","","","","","","",0,0,0,0,"","","","","",.null,"",""⟩

def morning : Clock := ⟨"2026-05-01T08:00:00Z","2026-05-01 08:00:00"⟩

def firstClaim : Db.Claim := ⟨"worker-a","token-a","2026-05-01T08:01:30Z",morning⟩

def finishedOps : List Op := [.createRunAndEnqueueJob morningRun none "dbj_1" morning,.claimNextJob firstClaim,
  .finishJob "dbj_1" "worker-a" "token-a" "" "2026-05-01T08:01:00Z"]

theorem finished_lease : (exec (apply id) .start finishedOps).db.renewJob "dbj_1" "worker-a" "token-a" "2026-05-01T08:05:00Z" =
    (false,(exec (apply id) .start finishedOps).db) := by
  have reached : Reached (apply id) Fresh .start (exec (apply id) .start finishedOps) := by
    refine Reached.start.along finishedOps ⟨fun _ member => (nomatch member),fun token drawn => ?_,fun _ member => (nomatch member),trivial⟩
    exact List.not_mem_nil
  have drawn : "token-a" ∈ (exec (apply id) .start finishedOps).tokens := List.mem_singleton.mpr rfl
  have lost : Lost "dbj_1" "worker-a" "token-a" (exec (apply id) .start finishedOps).db := by
    unfold Lost
    decide
  exact ((queue_sound id reached).2.2.2.2.1 "dbj_1" "worker-a" "token-a" drawn lost _ .start "2026-05-01T08:05:00Z" "" "" "" "").1

end GmsRemoteTest.Redmine.DailyBrief
