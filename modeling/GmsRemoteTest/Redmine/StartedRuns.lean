import GmsRemoteTest.Redmine.StartRequests

/-! What has become of a run after a request has said that it was queued. A run-level job of a run of the service is never
cancelled or deleted, so it waits until it is claimed, and goes back into the queue until it has been executed. -/
namespace GmsRemoteTest.Redmine.DailyBrief.Start
open Interleaving Runs

structure Carried (old new : Job) : Prop where
  id : new.jobId = old.jobId
  target : new.target = old.target
  waits : old.status = .queued → new.status = .queued
  kept : old.status ≠ .cancelled → new.status ≠ .cancelled

theorem Carried.refl (job : Job) : Carried job job := ⟨rfl,rfl,fun queued => queued,fun kept => kept⟩

theorem Carried.trans {first second third : Job} (before : Carried first second) (after : Carried second third) : Carried first third :=
  ⟨after.id.trans before.id,after.target.trans before.target,fun queued => after.waits (before.waits queued),fun kept => after.kept (before.kept kept)⟩

theorem Carried.kind {old new : Job} (carried : Carried old new) : new.kind = old.kind := congrArg (·.2.1) carried.target

theorem Carried.runId {old new : Job} (carried : Carried old new) : new.runId = old.runId := congrArg Prod.fst carried.target

def Carries (runId : String) (before after : List Job) : Prop :=
  ∀ job ∈ before, job.runId = runId → job.kind = .run → ∃ new ∈ after, Carried job new

section
variable {runId : String} {first second third : List Job}

theorem Carries.refl : Carries runId first first := fun job member _ _ => ⟨job,member,.refl job⟩

theorem Carries.trans (before : Carries runId first second) (after : Carries runId second third) : Carries runId first third := by
  intro job member own level
  obtain ⟨middle,there,carried⟩ := before job member own level
  obtain ⟨new,inside,next⟩ := after middle there (carried.runId.trans own) (carried.kind.trans level)
  exact ⟨new,inside,carried.trans next⟩

theorem Carries.append {more : List Job} : Carries runId first (first ++ more) := fun job member _ _ =>
  ⟨job,List.mem_append_left _ member,.refl job⟩

theorem Carries.update {selects : Job → Prop} [DecidablePred selects] {set : Job → Job}
    (each : ∀ job ∈ first, job.runId = runId → job.kind = .run → selects job → Carried job (set job)) :
    Carries runId first (Table.update selects set first) := by
  intro job member own level
  by_cases chosen : selects job
  · exact ⟨set job,Table.mem_update.mpr ⟨job,member,if_pos chosen⟩,each job member own level chosen⟩
  · exact ⟨job,Table.mem_update.mpr ⟨job,member,if_neg chosen⟩,.refl job⟩

theorem Carries.apart {selects : Job → Prop} [DecidablePred selects] {set : Job → Job}
    (none : ∀ job, job.runId = runId → job.kind = .run → ¬selects job) : Carries runId first (Table.update selects set first) :=
  .update fun job _ own level chosen => absurd chosen (none job own level)

end

section
variable {db : Db} {runId : String}

theorem recover_carries (clock : Clock) (items : List (Job × RunStatus)) (apart : items.Pairwise fun first second => first.1.jobId ≠ second.1.jobId)
    (keys : (db.jobs.map (·.jobId)).Nodup) (held : ∀ item ∈ items, item.1 ∈ db.jobs ∧ item.1.status = .running) :
    Carries runId db.jobs (items.foldl (fun db item => db.recover clock item) db).jobs := by
  induction items generalizing db with
  | nil => exact .refl
  | cons item items ih =>
    obtain ⟨different,apart⟩ := List.pairwise_cons.mp apart
    obtain ⟨member,running⟩ := held item (List.mem_cons_self ..)
    obtain ⟨set,jobs,moved⟩ := @Db.recover_jobs db clock item
    have first : Carries runId db.jobs (db.recover clock item).jobs := by
      rw [jobs]
      refine .update fun job there _ _ same => ?_
      obtain ⟨id,target,_,kept⟩ := moved job
      refine ⟨id,target,fun queued => ?_,fun _ => kept⟩
      rw [Table.eq_of_key keys there member same,running] at queued
      cases queued
    have ids : (db.recover clock item).jobs.map (·.jobId) = db.jobs.map (·.jobId) := by
      rw [jobs]
      exact Table.map_update _ fun job _ => (moved job).1
    refine first.trans (ih apart (ids ▸ keys) fun other later => ?_)
    obtain ⟨there,runs⟩ := held other (List.mem_cons_of_mem _ later)
    rw [jobs]
    exact ⟨Table.mem_update.mpr ⟨other.1,there,if_neg (different other later).symm⟩,runs⟩

theorem cancelCovered_carries (utc : String) : Carries runId db.jobs (db.cancelCovered utc).jobs :=
  .apart fun _ _ level chosen => by simp [level] at chosen

theorem claimFrom_carries (claim : Db.Claim) (turns : Nat) (keys : (db.jobs.map (·.jobId)).Nodup) {job : Job} (member : job ∈ db.jobs)
    (level : job.kind = .run) : job ∈ (Db.claimFrom claim turns db).2.jobs ∨
      (Db.claimFrom claim turns db).1 = some (Db.leased claim job) ∧ Db.leased claim job ∈ (Db.claimFrom claim turns db).2.jobs := by
  induction turns generalizing db with
  | zero => exact .inl member
  | succ turns ih =>
    unfold Db.claimFrom
    cases found : db.nextQueued with
    | none => exact .inl member
    | some next =>
      obtain ⟨there,queued,_⟩ := Db.nextQueued_some found
      dsimp only
      by_cases covered : next.kind = .issue ∧ db.Covered next.runId
      · rw [if_pos covered]
        refine ih ?_ (Table.mem_update.mpr ⟨job,member,if_neg fun same => ?_⟩)
        · have same : ∀ row : Job, row.jobId = next.jobId → (Db.superseded claim.clock.utc row).jobId = row.jobId := fun _ _ => rfl
          have ids : (db.writeJobs (·.jobId = next.jobId) (Db.superseded claim.clock.utc)).jobs.map (·.jobId) = db.jobs.map (·.jobId) :=
            Table.map_update _ same
          exact ids ▸ keys
        · rw [Table.eq_of_key keys member there same,covered.1] at level
          cases level
      · rw [if_neg covered]
        have unique : ((db.writeJobs (fun row => row.jobId = next.jobId ∧ row.status = .queued) (Db.leased claim)).jobs.map (·.jobId)).Nodup :=
          (Db.leased_ids claim (fun row => row.jobId = next.jobId ∧ row.status = .queued) db.jobs).symm ▸ keys
        have rows := fun row => @mem_claimed db.jobs next row claim keys there queued
        by_cases same : job = next
        · subst same
          have inside := (rows (Db.leased claim job)).mpr (.inl rfl)
          obtain ⟨first,fetched⟩ := Table.fetch_isSome (fun row : Job => row.jobId = job.jobId) inside rfl
          have id := Table.fetch_selects fetched
          refine .inr ⟨?_,inside⟩
          show Table.fetch _ _ = _
          exact fetched.trans (congrArg some (Table.eq_of_key unique (Table.fetch_mem fetched) inside id))
        · exact .inl ((rows job).mpr (.inr ⟨member,same⟩))

theorem claimNextJob_carries (claim : Db.Claim) (keys : (db.jobs.map (·.jobId)).Nodup) (runs : db.runIds.Nodup) {job : Job} (member : job ∈ db.jobs)
    (level : job.kind = .run) : ∃ new ∈ (db.claimNextJob claim).2.jobs, Carried job new ∨
      (db.claimNextJob claim).1 = some new ∧ new.jobId = job.jobId ∧ new.target = job.target ∧ new.status = .running := by
  have apart := @Db.expired_apart db claim.clock.utc keys runs
  have settled := (Db.recover_settles claim.clock (db.expired claim.clock.utc) apart keys fun _ => Db.expired_held).1
  have covered := @Db.cancelCovered_settles ((db.expired claim.clock.utc).foldl (fun db item => db.recover claim.clock item) db) claim.clock.utc
  have unique := (settled.trans covered).ids ▸ keys
  obtain ⟨middle,there,carried⟩ := (recover_carries claim.clock (db.expired claim.clock.utc) apart keys fun _ => Db.expired_held).trans
    (cancelCovered_carries claim.clock.utc) job member rfl level
  rcases claimFrom_carries claim _ unique there (carried.kind.trans level) with stays | ⟨claimed,inside⟩
  · exact ⟨middle,stays,.inl carried⟩
  · exact ⟨_,inside,.inr ⟨claimed,carried.id,carried.target,rfl⟩⟩

end

def Known (db : Db) (runId : String) : Prop := runId ∈ db.runIds ∧ ∀ row ∈ db.runs, row.run.runId = runId → row.run.mode ∈ BRIEF_MODES

theorem brief_whole {mode : String} (brief : mode ∈ BRIEF_MODES) : ¬"issue:".toList <+: mode.toList := by
  simp only [BRIEF_MODES,List.mem_cons,List.not_mem_nil,or_false] at brief
  rcases brief with rfl | rfl | rfl <;> decide

theorem ofIssue_begins {issueId : Int} {mode : String} (single : Db.OfIssue issueId mode) : "issue:".toList <+: mode.toList := by
  obtain ⟨_,rfl | rfl | longer⟩ := single
  · rw [String.toList_append]
    exact List.prefix_append _ _
  · rw [String.toList_append,String.toList_append,List.append_assoc]
    exact List.prefix_append _ _
  · refine List.IsPrefix.trans ?_ longer
    rw [String.toList_append,String.toList_append,List.append_assoc]
    exact List.prefix_append _ _

section
variable {canonicalOwnerId : String → String} {db : Db} {runId : String}

theorem Known.apart (known : Known db runId) {ownerId : String} {issueId : Int} : ¬db.InHistory canonicalOwnerId ownerId issueId runId := by
  rintro ⟨row,member,_,single,same⟩
  exact brief_whole (known.2 row member same) (ofIssue_begins single)

theorem Known.perform (known : Known db runId) (op : Op) (keys : (db.jobs.map (·.jobId)).Nodup) (runs : db.runIds.Nodup) (keeps : Keeps op db) :
    Known (perform canonicalOwnerId op db) runId := by
  refine ⟨?_,fun row member same => ?_⟩
  · rcases @perform_runIds canonicalOwnerId db op keys runs with ids | ⟨_,_,added⟩ | ⟨ownerId,issueId,_,done⟩
    · exact ids ▸ known.1
    · exact added ▸ List.mem_append_left _ known.1
    · obtain ⟨row,member,same⟩ := Db.mem_runIds.mp known.1
      refine Db.mem_runIds.mpr ⟨row,?_,same⟩
      rw [(Db.deleteIssueHistory_cases done).2.2]
      exact Table.mem_delete.mpr ⟨member,same.symm ▸ known.apart⟩
  · rcases @perform_rows db canonicalOwnerId op keys runs row member with ⟨old,held,written⟩ | fresh
    · have brief := known.2 old held (written.id.symm.trans same)
      rcases written.mode with kept | ⟨run,now,rfl,own,mode⟩
      · exact kept ▸ brief
      · exact mode ▸ keeps old held (written.id.symm.trans own.symm) brief
    · exact absurd (same ▸ known.1) fresh

section
variable (op : Op) (keys : (db.jobs.map (·.jobId)).Nodup) (runs : db.runIds.Nodup)
include keys runs

theorem perform_carries (known : Known db runId) {job : Job}
    (member : job ∈ db.jobs) (own : job.runId = runId) (level : job.kind = .run) : ∃ new ∈ (perform canonicalOwnerId op db).jobs, Carried job new ∨
      leasedBy op db = some new ∧ new.jobId = job.jobId ∧ new.target = job.target ∧ new.status = .running := by
  have carried : ∀ {after : List Job}, Carries runId db.jobs after → ∃ new ∈ after, Carried job new ∨
      leasedBy op db = some new ∧ new.jobId = job.jobId ∧ new.target = job.target ∧ new.status = .running := by
    intro after carries
    obtain ⟨new,there,kept⟩ := carries job member own level
    exact ⟨new,there,.inl kept⟩
  cases op with
  | enqueueJob runId kind issueId jobId clock =>
    refine carried ?_
    show Carries _ db.jobs ((db.enqueueJob runId kind issueId jobId clock).elim db (·.2.2)).jobs
    cases done : db.enqueueJob runId kind issueId jobId clock with
    | none => exact .refl
    | some result =>
      obtain ⟨added,created,stored⟩ := result
      show Carries _ db.jobs stored.jobs
      rcases (Db.enqueueJob_cases done).2.2.2 with ⟨_,same,_⟩ | ⟨_,jobs,_⟩
      · exact same ▸ .refl
      · exact jobs ▸ .append
  | createRunAndEnqueueJob run issue jobId clock =>
    refine carried ?_
    show Carries _ db.jobs ((db.createRunAndEnqueueJob canonicalOwnerId run issue jobId clock).elim db (·.2.2.2)).jobs
    cases done : db.createRunAndEnqueueJob canonicalOwnerId run issue jobId clock with
    | none => exact .refl
    | some result =>
      obtain ⟨runCreated,added,created,stored⟩ := result
      show Carries _ db.jobs stored.jobs
      rcases (Db.createRunAndEnqueueJob_cases done).2 with ⟨_,jobs,_⟩ | ⟨_,jobs,_⟩
      · exact jobs ▸ .refl
      · exact jobs ▸ .append
  | claimNextJob claim => exact claimNextJob_carries claim keys runs member level
  | finishJob jobId workerId leaseToken error utc =>
    refine carried (.update fun old _ _ _ held => ⟨rfl,rfl,fun queued => ?_,fun _ cancelled => ?_⟩)
    · have running := held.2.2.2
      rw [queued] at running
      cases running
    · dsimp only at cancelled
      split at cancelled <;> cases cancelled
  | renewJob jobId workerId leaseToken leaseExpiry =>
    exact carried (.update fun _ _ _ _ _ => ⟨rfl,rfl,fun queued => queued,fun kept => kept⟩)
  | requeueJob jobId workerId leaseToken reason now =>
    refine carried ?_
    show Carries _ db.jobs (db.requeueJob jobId workerId leaseToken reason now).2.jobs
    unfold Db.requeueJob
    cases Table.fetch (Db.Holds jobId workerId leaseToken) db.jobs with
    | none => exact .refl
    | some job =>
      have moved : Carries runId db.jobs (Table.update (Db.Holds jobId workerId leaseToken) (fun job =>
          {job with status := .queued,workerId := "",leaseToken := "",leaseExpiresAt := "",error := clip reason}) db.jobs) :=
        .update fun _ _ _ _ _ => ⟨rfl,rfl,fun _ => rfl,fun _ cancelled => (nomatch cancelled)⟩
      dsimp only
      split <;> exact moved
  | cancelQueuedIssueJobs runId utc => exact carried (.apart fun _ _ level chosen => by simp [level] at chosen)
  | cancelQueuedIssueRun other now =>
    refine carried ?_
    show Carries _ db.jobs (db.cancelQueuedIssueRun other now).2.jobs
    unfold Db.cancelQueuedIssueRun
    cases found : db.getRow other with
    | none => exact .refl
    | some row =>
      dsimp only
      split
      next => exact .refl
      next stops =>
        refine .apart fun old same _ chosen => ?_
        have id := Table.fetch_selects found
        have brief := known.2 row (Table.fetch_mem found) (id.trans (chosen.1.symm.trans same))
        exact stops (.inl (brief_whole brief))
  | deleteIssueHistory ownerId issueId =>
    refine carried ?_
    show Carries _ db.jobs ((db.deleteIssueHistory canonicalOwnerId ownerId issueId).getD db).jobs
    cases done : db.deleteIssueHistory canonicalOwnerId ownerId issueId with
    | none => exact .refl
    | some stored =>
      show Carries _ db.jobs stored.jobs
      rw [(Db.deleteIssueHistory_cases done).2.1]
      exact fun old there same _ => ⟨old,Table.mem_delete.mpr ⟨there,same.symm ▸ known.apart⟩,.refl old⟩
  | updateRun | requestCancel | clearCancel | resetStaleRunning | upsertIssue | deleteIssues | saveSnapshot | deleteSnapshot =>
    exact carried .refl

theorem running_origin {job : Job}
    (member : job ∈ (perform canonicalOwnerId op db).jobs) (running : job.status = .running) :
    leasedBy op db = some job ∨ ∃ old ∈ db.jobs, old.jobId = job.jobId ∧ old.target = job.target ∧ old.status = .running := by
  have back : ∀ {middle : List Job}, Settles db.jobs middle → job ∈ middle →
      ∃ old ∈ db.jobs, old.jobId = job.jobId ∧ old.target = job.target ∧ old.status = .running := by
    intro middle settles there
    obtain ⟨old,was,change⟩ := settles.origin there
    exact ⟨old,was,change.id.symm,change.target.symm,(change.running running).1⟩
  by_cases claims : ∃ claim, op = .claimNextJob claim
  · obtain ⟨claim,rfl⟩ := claims
    obtain ⟨recovered,first,_,outcome⟩ := Db.claimNextJob_cases claim keys runs
    change job ∈ (db.claimNextJob claim).2.jobs at member
    rcases outcome with ⟨_,rest⟩ | ⟨middle,chosen,rest,claimable,some,jobs⟩
    · exact .inr (back (first.trans rest) member)
    · rw [jobs] at member
      have unique : (middle.map (·.jobId)).Nodup := (first.trans rest).ids ▸ keys
      rcases (mem_claimed unique claimable.member claimable.queued).mp member with rfl | ⟨old,_⟩
      · exact .inl some
      · exact .inr (back (first.trans rest) old)
  · refine .inr ?_
    have effect := @perform_effect canonicalOwnerId db op keys runs
    generalize (perform canonicalOwnerId op db).runIds = ids at effect
    generalize (perform canonicalOwnerId op db).jobs = after at effect member
    cases effect with
    | settle settles => exact back settles member
    | insert _ _ queued _ =>
      rcases List.mem_append.mp member with old | new
      · exact ⟨job,old,rfl,rfl,running⟩
      · rw [List.mem_singleton.mp new,queued] at running
        cases running
    | claim point => exact absurd ⟨_,point⟩ claims
    | delete _ _ => exact ⟨job,(Table.mem_delete.mp member).1,rfl,rfl,running⟩

end

end

structure Sure (shared : Shared) : Prop where
  sound : Sound shared.queue
  past : ∀ jobId, shared.claimed jobId ≤ shared.tick

structure Due (shared : Shared) (runId : String) (mark : Nat) : Prop where
  known : Known shared.queue.db runId
  past : mark ≤ shared.tick
  served : Served shared runId mark

section
variable {canonicalOwnerId : String → String} {shared : Shared} {runId : String} {mark : Nat}

theorem claimed_leased {op : Op} {job : Job} (leased : leasedBy op shared.queue.db = some job) :
    (shared.perform canonicalOwnerId op).claimed job.jobId = shared.tick + 1 := by
  unfold Shared.perform
  simp only [leased]
  exact Function.update_self ..

theorem Sure.claimed (sure : Sure shared) (op : Op) (jobId : String) :
    shared.claimed jobId ≤ (shared.perform canonicalOwnerId op).claimed jobId ∧
      (shared.perform canonicalOwnerId op).claimed jobId ≤ shared.tick + 1 := by
  have before := sure.past jobId
  unfold Shared.perform
  dsimp only
  cases leasedBy op shared.queue.db with
  | none => exact ⟨le_rfl,Nat.le_succ_of_le before⟩
  | some job =>
    dsimp only
    by_cases same : jobId = job.jobId
    · rw [same,Function.update_self]
      exact ⟨Nat.le_succ_of_le (sure.past _),le_rfl⟩
    · rw [Function.update_of_ne same]
      exact ⟨le_rfl,Nat.le_succ_of_le before⟩

theorem Sure.perform (sure : Sure shared) (op : Op) : Sure (shared.perform canonicalOwnerId op) :=
  ⟨sure.sound.apply op,fun jobId => (sure.claimed op jobId).2⟩

theorem Known.later {op : Op} (known : Known shared.queue.db runId) (sure : Sure shared) (keeps : Keeps op shared.queue.db) :
    Known (shared.perform canonicalOwnerId op).queue.db runId := known.perform op sure.sound.keys sure.sound.runKeys keeps

theorem Recent.later {op : Op} (recent : Recent shared runId mark) (past : mark ≤ shared.tick) (sure : Sure shared) :
    Recent (shared.perform canonicalOwnerId op) runId mark := by
  intro job member own level running
  rcases @running_origin canonicalOwnerId _ op sure.sound.keys sure.sound.runKeys job member running with leased | ⟨old,was,id,target,ran⟩
  · rw [claimed_leased leased]
    exact Nat.lt_succ_of_le past
  · have before := recent old was ((congrArg Prod.fst target).trans own) ((congrArg (·.2.1) target).trans level) ran
    exact id ▸ Nat.lt_of_lt_of_le before (sure.claimed op old.jobId).1

theorem Due.later {op : Op} (due : Due shared runId mark) (sure : Sure shared) (keeps : Keeps op shared.queue.db) :
    Due (shared.perform canonicalOwnerId op) runId mark := by
  refine ⟨due.known.later sure keeps,Nat.le_succ_of_le due.past,?_⟩
  obtain ⟨job,member,own,level,state⟩ := due.served
  obtain ⟨new,there,fate⟩ := @perform_carries canonicalOwnerId _ _ op sure.sound.keys sure.sound.runKeys due.known job member own level
  rcases fate with carried | ⟨leased,_,target,running⟩
  · refine ⟨new,there,carried.runId.trans own,carried.kind.trans level,?_⟩
    rcases state with queued | ⟨kept,after⟩
    · exact .inl (carried.waits queued)
    · exact .inr ⟨carried.kept kept,carried.id ▸ Nat.lt_of_lt_of_le after (sure.claimed op job.jobId).1⟩
  · refine ⟨new,there,(congrArg Prod.fst target).trans own,(congrArg (·.2.1) target).trans level,.inr ⟨?_,?_⟩⟩
    · rw [running]
      decide
    · rw [claimed_leased leased]
      exact Nat.lt_succ_of_le due.past

end

def Own (shared : Shared) : Task → Prop
  | .starting request | .recovering request | .findingNightly request | .finding request | .creating request => request.mode ∈ BRIEF_MODES
  | .checking run => Known shared.queue.db run.runId
  | .deletingSnapshot run | .deletingIssues run | .cancellingIssueJobs run | .clearing run | .updating run =>
    Known shared.queue.db run.runId ∧ run.mode ∈ BRIEF_MODES
  | .requeuing runId mark => Known shared.queue.db runId ∧ mark ≤ shared.tick ∧ Recent shared runId mark
  | .enqueuing runId mark => Known shared.queue.db runId ∧ mark ≤ shared.tick
  | .created job _ queued mark => queued = true → Due shared job.runId mark
  | .returned result mark => ∀ runId ∈ result.queuedRun, Due shared runId mark
  | .idle | .other => True

section
variable {canonicalOwnerId : String → String} {isEligible : String → Bool} {shared : Shared} {task : Task} {answer : Answer}

theorem Own.later {op : Op} (own : Own shared task) (sure : Sure shared) (keeps : Keeps op shared.queue.db) :
    Own (shared.perform canonicalOwnerId op) task := by
  cases task with
  | starting | recovering | findingNightly | finding | creating => exact own
  | checking => exact own.later sure keeps
  | deletingSnapshot | deletingIssues | cancellingIssueJobs | clearing | updating => exact ⟨own.1.later sure keeps,own.2⟩
  | requeuing => exact ⟨own.1.later sure keeps,Nat.le_succ_of_le own.2.1,own.2.2.later own.2.1 sure⟩
  | enqueuing => exact ⟨own.1.later sure keeps,Nat.le_succ_of_le own.2⟩
  | created => exact fun queued => (own queued).later sure keeps
  | returned => exact fun runId named => (own runId named).later sure keeps
  | idle | other => trivial

theorem Own.keeps {op : Op} (own : Own shared task) (proper : Proper shared task answer) (point : task.op answer = some op) :
    Keeps op shared.queue.db := by
  cases task with
  | other =>
    cases point
    exact proper
  | updating run =>
    cases point
    exact fun _ _ _ _ => own.2
  | recovering =>
    change (if _ then _ else _) = _ at point
    split at point <;> cases point
    trivial
  | requeuing | deletingSnapshot | deletingIssues | cancellingIssueJobs | clearing | enqueuing | creating =>
    cases point
    trivial
  | _ => cases point

theorem act_kept (sure : Sure shared) (own : Own shared task) (proper : Proper shared task answer) :
    Sure (act canonicalOwnerId isEligible shared task answer).1 ∧
      ∀ call, Own shared call → Own (act canonicalOwnerId isEligible shared task answer).1 call := by
  unfold act
  cases point : task.op answer with
  | none => exact ⟨sure,fun _ given => given⟩
  | some op => exact ⟨sure.perform op,fun _ given => given.later sure (own.keeps proper point)⟩

theorem found_known {db : Db} {ownerId briefDate mode : String} {run : DailyBriefRun} (runs : db.runIds.Nodup) (brief : mode ∈ BRIEF_MODES)
    (found : db.findRun canonicalOwnerId ownerId briefDate mode = some run) : Known db run.runId ∧ run.mode ∈ BRIEF_MODES := by
  obtain ⟨row,fetched,rfl⟩ := Option.map_eq_some_iff.mp found
  have same := Table.fetch_selects fetched
  have member := Table.fetch_mem fetched
  have own : row.run.mode ∈ BRIEF_MODES := same.2.2.symm ▸ brief
  exact ⟨⟨Db.mem_runIds.mpr ⟨row,member,rfl⟩,fun other there id => Table.eq_of_key runs there member id ▸ own⟩,own⟩

theorem inserted_mode {db stored : Db} {run : DailyBriefRun} {now runId : String} {runCreated : Bool} (runs : db.runIds.Nodup)
    (done : db.insertRun run now = some (runCreated,runId,stored)) : ∀ row ∈ stored.runs, row.run.runId = runId → row.run.mode = run.mode := by
  unfold Db.insertRun at done
  split at done
  next row found =>
    cases done
    have same := Table.fetch_selects found
    exact fun other member id => Table.eq_of_key runs member (Table.fetch_mem found) id ▸ same.2.2
  next =>
    split at done
    next => cases done
    next absent =>
      cases done
      intro row member id
      rcases List.mem_append.mp member with was | added
      · exact absurd id (Table.fetch_none.mp absent row was)
      · rw [List.mem_singleton.mp added]

theorem created_run {db stored : Db} {run : DailyBriefRun} {jobId : String} {clock : Clock} {runCreated created : Bool} {job : Job}
    (runs : db.runIds.Nodup) (done : db.createRunAndEnqueueJob canonicalOwnerId run none jobId clock = some (runCreated,job,created,stored)) :
    job.kind = .run ∧ ∀ row ∈ stored.runs, row.run.runId = job.runId → row.run.mode = run.mode := by
  unfold Db.createRunAndEnqueueJob at done
  cases begun : db.insertRun {run with ownerId := canonicalOwnerId run.ownerId} clock.now with
  | none =>
    rw [begun] at done
    cases done
  | some start =>
    obtain ⟨isNew,runId,base⟩ := start
    rw [begun] at done
    have modes : ∀ row ∈ base.runs, row.run.runId = runId → row.run.mode = run.mode :=
      @inserted_mode db base {run with ownerId := canonicalOwnerId run.ownerId} clock.now runId isNew runs begun
    have written : ∀ {set : RunRow → RunRow}, (∀ row, (set row).run.runId = row.run.runId ∧ (set row).run.mode = row.run.mode) →
        ∀ row ∈ (base.writeRun runId set).runs, row.run.runId = runId → row.run.mode = run.mode := by
      intro set same row member id
      obtain ⟨old,held,rewritten⟩ := Table.mem_update.mp member
      split at rewritten
      · subst rewritten
        exact (same old).2.trans (modes old held ((same old).1.symm.trans id))
      · exact modes row (rewritten ▸ held) id
    dsimp only at done
    cases inserted : base.insertJob runId .run 0 jobId clock with
    | none =>
      rw [Option.isSome_none,if_neg Bool.false_ne_true,Option.elim_none,inserted] at done
      cases done
    | some result =>
      obtain ⟨added,fresh,next⟩ := result
      rw [Option.isSome_none,if_neg Bool.false_ne_true,Option.elim_none,inserted] at done
      rcases Db.insertJob_cases inserted with ⟨same,rfl,active⟩ | ⟨same,rfl,new,_⟩
      · subst same
        cases done
        obtain ⟨_,own,level,_⟩ := Db.activeJob_some active
        exact ⟨level,own.symm ▸ modes⟩
      · subst same
        cases done
        have own : job.runId = runId := by
          rw [new]
          rfl
        refine ⟨by rw [new]; rfl,?_⟩
        rw [own]
        cases runCreated <;> exact written fun _ => ⟨rfl,rfl⟩

theorem queued_due {runId : String} {mark : Nat} (sure : Sure shared) (known : Known shared.queue.db runId) (past : mark ≤ shared.tick)
    (recent : Recent shared runId mark) (done : (shared.queue.db.enqueueJob runId .run 0 answer.jobId answer.clock).isSome) :
    Due (shared.perform canonicalOwnerId (.enqueueJob runId .run 0 answer.jobId answer.clock)) runId mark := by
  refine ⟨known.later sure trivial,Nat.le_succ_of_le past,?_⟩
  obtain ⟨⟨job,created,stored⟩,result⟩ := Option.isSome_iff_exists.mp done
  have after : (shared.perform canonicalOwnerId (.enqueueJob runId .run 0 answer.jobId answer.clock)).queue.db = stored := by
    show (shared.queue.db.enqueueJob runId .run 0 answer.jobId answer.clock).elim shared.queue.db (·.2.2) = stored
    rw [result]
    rfl
  unfold Served
  rw [after]
  obtain ⟨_,own,level,outcome⟩ := Db.enqueueJob_cases result
  rcases outcome with ⟨_,rfl,member,active⟩ | ⟨_,jobs,_,queued,_⟩
  · refine ⟨job,member,own,level,?_⟩
    rcases active with queued | running
    · exact .inl queued
    · refine .inr ⟨fun cancelled => ?_,recent job member own level running⟩
      rw [running] at cancelled
      cases cancelled
  · exact ⟨job,jobs ▸ List.mem_append_right _ (List.mem_singleton.mpr rfl),own,level,.inl queued⟩

theorem Ended.proper (guard : Ended shared task answer) : Proper shared task answer := by
  cases task <;> first | exact guard | trivial

theorem act_own (sure : Sure shared) (own : Own shared task) (guard : Ended shared task answer) :
    Own (act canonicalOwnerId isEligible shared task answer).1 (act canonicalOwnerId isEligible shared task answer).2 := by
  have kept := (@act_kept canonicalOwnerId isEligible shared task answer sure own guard.proper).2
  cases task with
  | idle | other => trivial
  | starting request =>
    show Own _ (if _ then _ else _)
    split
    next => exact own
    next => exact fun _ none => (nomatch none)
  | recovering request => cases request <;> exact own
  | findingNightly request =>
    unfold act Task.next
    dsimp only
    split
    next => exact fun _ none => (nomatch none)
    next => exact own
  | finding request =>
    unfold act Task.next
    dsimp only
    cases found : shared.queue.db.findRun canonicalOwnerId request.ownerId request.briefDate request.mode with
    | none => exact own
    | some run =>
      have known := found_known sure.sound.runKeys own found
      dsimp only
      split
      next => exact fun _ none => (nomatch none)
      next =>
        split
        next => exact known.1
        next => split <;> exact known
  | checking run =>
    show Own shared (if _ then _ else _)
    split
    next => exact fun _ none => (nomatch none)
    next idle =>
      refine ⟨own,le_rfl,fun job member same level running => absurd ?_ idle⟩
      exact List.any_eq_true.mpr ⟨job,member,decide_eq_true ⟨same,.inr running,fun only some => Option.mem_some.mp some ▸ level⟩⟩
  | deletingSnapshot | deletingIssues | cancellingIssueJobs | clearing => exact kept _ own
  | updating run => exact ⟨own.1.later sure fun _ _ _ _ => own.2,le_rfl⟩
  | requeuing runId mark =>
    show Own _ (if _ then _ else _)
    split
    next done => exact fun _ named => Option.mem_some.mp named ▸ queued_due sure own.1 own.2.1 own.2.2 done
    next => trivial
  | enqueuing runId mark =>
    show Own _ (if _ then _ else _)
    split
    next done => exact fun _ named => Option.mem_some.mp named ▸ queued_due sure own.1 own.2 guard done
    next => trivial
  | creating request =>
    unfold act Task.next Task.op
    dsimp only [Option.elim]
    cases done : shared.queue.db.createRunAndEnqueueJob canonicalOwnerId (request.newRun answer.runId answer.clock.now) none answer.jobId
        answer.clock with
    | none => trivial
    | some result =>
      obtain ⟨runCreated,job,queued,stored⟩ := result
      intro new
      have after : (shared.perform canonicalOwnerId
          (.createRunAndEnqueueJob (request.newRun answer.runId answer.clock.now) none answer.jobId answer.clock)).queue.db = stored := by
        show (shared.queue.db.createRunAndEnqueueJob canonicalOwnerId (request.newRun answer.runId answer.clock.now) none answer.jobId
          answer.clock).elim shared.queue.db (·.2.2.2) = stored
        rw [done]
        rfl
      obtain ⟨level,modes⟩ := created_run sure.sound.runKeys done
      obtain ⟨runs,outcome⟩ := Db.createRunAndEnqueueJob_cases done
      refine ⟨⟨?_,fun row member same => ?_⟩,Nat.le_succ _,?_⟩
      · rw [after]
        rcases runs with ⟨ids,there⟩ | ⟨_,same,added⟩
        · exact ids ▸ there
        · exact added ▸ same ▸ List.mem_append_right _ (List.mem_singleton.mpr rfl)
      · exact (modes row (after ▸ member) same).symm ▸ own
      · rcases outcome with ⟨old,_⟩ | ⟨_,jobs,waits,_⟩
        · exact absurd (old.symm.trans new) Bool.false_ne_true
        · refine ⟨job,?_,rfl,level,.inl waits⟩
          rw [after,jobs]
          exact List.mem_append_right _ (List.mem_singleton.mpr rfl)
  | created job runCreated queued mark =>
    unfold act Task.next
    dsimp only
    cases shared.queue.db.getRun job.runId with
    | none => trivial
    | some persisted =>
      cases queued with
      | false => exact fun _ none => (nomatch none)
      | true => exact fun _ named => Option.mem_some.mp named ▸ own rfl
  | returned result mark => exact kept _ own

theorem Due.act {runId : String} {mark : Nat} (due : Due shared runId mark) (sure : Sure shared) (own : Own shared task)
    (proper : Proper shared task answer) : Due (act canonicalOwnerId isEligible shared task answer).1 runId mark := by
  unfold Start.act
  cases point : task.op answer with
  | none => exact due
  | some op => exact due.later sure (own.keeps proper point)

theorem service_rules : (service canonicalOwnerId isEligible).Rules Ended Sure Own fun _ _ => True where
  idle _ := trivial
  begins shared task _ begins := by
    cases task with
    | starting request => exact begins
    | other => trivial
    | _ => exact absurd begins not_false
  symm _ _ _ := trivial
  alone _ _ _ := trivial
  keeps _ _ _ sure own guard := ⟨(act_kept sure own guard.proper).1,act_own sure own guard⟩
  others _ _ _ call sure own guard given _ := ⟨(act_kept sure own guard.proper).2 call given,trivial⟩
  outside _ change := nomatch change

theorem Sure.start : Sure .start := ⟨Sound.start,fun _ => le_rfl⟩

end

/-- When no execution from before the reset of a run is still on as the run is queued, it waits from then on, or was claimed after
the reset and runs or has been executed. -/
theorem queued_until_executed (canonicalOwnerId : String → String) (isEligible : String → Bool) {world later : World Shared Task}
    (reached : Reached (service canonicalOwnerId isEligible).apply ((service canonicalOwnerId isEligible).Permitted Ended)
      ((service canonicalOwnerId isEligible).start .start) world)
    {caller mark : Nat} {result : Result} {runId : String} (returns : world.tasks caller = .returned result mark)
    (named : result.queuedRun = some runId)
    (further : Reached (service canonicalOwnerId isEligible).apply ((service canonicalOwnerId isEligible).Permitted Ended) world later) :
    ∃ job ∈ later.shared.queue.db.jobs, job.runId = runId ∧ job.kind = .run ∧ (job.status = .queued ∨
      (job.status = .running ∨ job.status = .completed ∨ job.status = .failed) ∧ mark < later.shared.claimed job.jobId) := by
  have rules := @service_rules canonicalOwnerId isEligible
  have holds := rules.reached (rules.start Sure.start) reached
  have due : Due world.shared runId mark := by
    have own := holds.own caller
    rw [returns] at own
    exact own runId named
  obtain ⟨job,member,own,level,state⟩ :=
    (rules.stable (fun _ _ _ sure own guard due => Due.act due sure own guard.proper) (fun _ change => nomatch change) holds due further).served
  refine ⟨job,member,own,level,?_⟩
  rcases state with queued | ⟨kept,after⟩
  · exact .inl queued
  · cases status : job.status with
    | queued => exact .inl rfl
    | running => exact .inr ⟨.inl rfl,after⟩
    | completed => exact .inr ⟨.inr (.inl rfl),after⟩
    | failed => exact .inr ⟨.inr (.inr rfl),after⟩
    | cancelled => exact absurd status kept

def step (jobId : String) (op : Op) : Answer := ⟨morning,"",true,"db_1",jobId,op⟩

def asks (caller steps : Nat) (force : Bool) (jobId : String) : List (Event Task Answer Empty) :=
  .enter caller (.starting (.run "alice" "2026-05-01" "manual" force)) ::
    List.replicate steps (.advance caller (step jobId (.deleteIssues "")))

def executedRun : List (Event Task Answer Empty) := asks 0 5 false "dbj_1" ++
  [.enter 1 .other,.advance 1 (step "" (.claimNextJob firstClaim)),
    .advance 1 (step "" (.updateRun {morningRun with status := .completed} morning.now))]

def finish : Event Task Answer Empty := .advance 1 (step "" (.finishJob "dbj_1" "worker-a" "token-a" "" morning.utc))

/-- A forced request comes before the executor ends its job: the run is left pending, and no job of it waits or runs. -/
theorem queued_and_lost : ¬∀ world, Reached (service id fun _ => true).apply ((service id fun _ => true).Permitted Proper)
    ((service id fun _ => true).start .start) world → ∀ caller result mark, world.tasks caller = .returned result mark →
      ∀ runId ∈ result.queuedRun, Served world.shared runId mark := by
  intro all
  have served := all (exec (service id fun _ => true).apply ((service id fun _ => true).start .start)
    (executedRun ++ asks 2 9 true "dbj_2" ++ [finish])) (Reached.start.along _ (by decide)) 2 (.queued "db_1") 10 rfl "db_1" rfl
  revert served
  decide

def queuedAgain : World Shared Task := exec (service id fun _ => true).apply ((service id fun _ => true).start .start)
  (executedRun ++ [finish] ++ asks 2 9 true "dbj_2")

def claimedAgain : List (Event Task Answer Empty) := [.advance 1 (step "" (.claimNextJob {firstClaim with leaseToken := "token-b"}))]

theorem queued_again : ∃ job ∈ (exec (service id fun _ => true).apply queuedAgain claimedAgain).shared.queue.db.jobs,
    job.runId = "db_1" ∧ job.kind = .run ∧ (job.status = .queued ∨ (job.status = .running ∨ job.status = .completed ∨ job.status = .failed) ∧
      11 < (exec (service id fun _ => true).apply queuedAgain claimedAgain).shared.claimed job.jobId) := by
  have returns : queuedAgain.tasks 2 = .returned (.queued "db_1") 11 := rfl
  have reached : Reached (service id fun _ => true).apply ((service id fun _ => true).Permitted Ended)
      ((service id fun _ => true).start .start) queuedAgain := Reached.start.along _ (by decide)
  exact queued_until_executed id (fun _ => true) reached returns rfl (Reached.start.along claimedAgain (by decide))

end GmsRemoteTest.Redmine.DailyBrief.Start
