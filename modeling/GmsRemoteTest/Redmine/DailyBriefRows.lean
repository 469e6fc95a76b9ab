import GmsRemoteTest.Redmine.DailyBriefJobs

/-! What a transaction does to the rows of the runs. A row keeps the id of its run; its cancel flag is taken back only by whoever
queues the run anew, and its mode is written only by `update_run`. -/
namespace GmsRemoteTest.Redmine.DailyBrief

section
variable (canonicalOwnerId : String → String)

def resets (op : Op) (db : Db) : Option String :=
  match op with
  | .enqueueJob runId kind issueId jobId clock => (db.enqueueJob runId kind issueId jobId clock).bind fun result =>
    if result.2.1 then some runId else none
  | .createRunAndEnqueueJob run issue jobId clock =>
    (db.createRunAndEnqueueJob canonicalOwnerId run issue jobId clock).bind fun result =>
      if result.2.2.1 ∧ ¬result.1 then some result.2.1.runId else none
  | .clearCancel runId _ => some runId
  | _ => none

end

/-- The row is the old one as far as its run, its mode and a set flag go. -/
structure Same (old row : RunRow) : Prop where
  id : row.run.runId = old.run.runId
  mode : row.run.mode = old.run.mode
  flag : old.cancelRequested = true → row.cancelRequested = true

theorem Same.refl (row : RunRow) : Same row row := ⟨rfl,rfl,fun set => set⟩

theorem Same.trans {first second third : RunRow} (before : Same first second) (after : Same second third) : Same first third :=
  ⟨after.id.trans before.id,after.mode.trans before.mode,fun set => after.flag (before.flag set)⟩

structure Written (canonicalOwnerId : String → String) (op : Op) (db : Db) (old row : RunRow) : Prop where
  id : row.run.runId = old.run.runId
  mode : row.run.mode = old.run.mode ∨ ∃ run now, op = .updateRun run now ∧ run.runId = row.run.runId ∧ run.mode = row.run.mode
  flag : old.cancelRequested = true → row.cancelRequested = true ∨ resets canonicalOwnerId op db = some row.run.runId

theorem Same.written {canonicalOwnerId : String → String} {op : Op} {db : Db} {old row : RunRow} (same : Same old row) :
    Written canonicalOwnerId op db old row := ⟨same.id,.inl same.mode,fun set => .inl (same.flag set)⟩

def From (related : RunRow → RunRow → Prop) (before : Db) (row : RunRow) : Prop :=
  (∃ old ∈ before.runs, related old row) ∨ row.run.runId ∉ before.runIds

section
variable {before middle : Db} {row : RunRow} {related : RunRow → RunRow → Prop}

theorem From.refl (member : row ∈ before.runs) : From Same before row := .inl ⟨row,member,.refl row⟩

theorem From.weaken {other : RunRow → RunRow → Prop} (implies : ∀ old, related old row → other old row) (kept : From related before row) :
    From other before row := by
  rcases kept with ⟨old,held,was⟩ | fresh
  · exact .inl ⟨old,held,implies old was⟩
  · exact .inr fresh

theorem From.write {selects : RunRow → Prop} [DecidablePred selects] {set : RunRow → RunRow} (rows : ∀ row ∈ middle.runs, From Same before row)
    (plain : ∀ old row, Same old row → related old row) (id : ∀ row, selects row → (set row).run.runId = row.run.runId)
    (each : ∀ old row, Same old row → selects row → related old (set row)) :
    ∀ row ∈ (middle.writeRuns selects set).runs, From related before row := by
  intro row member
  obtain ⟨held,there,rewritten⟩ := Table.mem_update.mp member
  split at rewritten
  next chosen =>
    subst rewritten
    rcases rows held there with ⟨old,was,same⟩ | fresh
    · exact .inl ⟨old,was,each old held same chosen⟩
    · exact .inr (by rwa [id held chosen])
  next => exact (rows row (rewritten ▸ there)).weaken fun old => plain old row

theorem From.copy {selects : RunRow → Prop} [DecidablePred selects] {set : RunRow → RunRow} (rows : ∀ row ∈ middle.runs, From Same before row)
    (each : ∀ row, selects row → Same row (set row)) : ∀ row ∈ (middle.writeRuns selects set).runs, From Same before row :=
  .write rows (fun _ _ same => same) (fun row chosen => (each row chosen).id) fun _ row same chosen => same.trans (each row chosen)

theorem From.recover {clock : Clock} {items : List (Job × RunStatus)} (rows : ∀ row ∈ middle.runs, From Same before row) :
    ∀ row ∈ (items.foldl (fun db item => db.recover clock item) middle).runs, From Same before row := by
  induction items generalizing middle with
  | nil => exact rows
  | cons item items ih =>
    refine ih ?_
    show ∀ row ∈ (middle.recover clock item).runs, From Same before row
    unfold Db.recover
    split
    next => exact rows
    next =>
      dsimp only
      split <;> exact From.copy rows fun _ _ => ⟨rfl,rfl,fun set => set⟩

theorem insertRun_rows {run : DailyBriefRun} {now runId : String} {runCreated : Bool} {stored : Db}
    (done : before.insertRun run now = some (runCreated,runId,stored)) : ∀ row ∈ stored.runs, From Same before row := by
  unfold Db.insertRun at done
  split at done
  next =>
    cases done
    exact fun row member => .refl member
  next =>
    split at done
    next => cases done
    next absent =>
      cases done
      intro row member
      rcases List.mem_append.mp member with was | added
      · exact .refl was
      · refine .inr fun there => ?_
        obtain ⟨other,inside,same⟩ := Db.mem_runIds.mp there
        exact Table.fetch_none.mp absent other inside (same.trans (congrArg (·.run.runId) (List.mem_singleton.mp added)))

section
variable {canonicalOwnerId : String → String}

theorem reset_written {op : Op} {runId : String} {clock : Clock}
    (rows : ∀ row ∈ middle.runs, From Same before row) (resetting : resets canonicalOwnerId op before = some runId) :
    ∀ row ∈ (middle.resetRunForEnqueue runId clock).runs, From (Written canonicalOwnerId op before) before row := by
  refine .write rows (fun _ _ same => same.written) (fun _ _ => rfl) fun old row same chosen => ?_
  exact ⟨same.id,.inl same.mode,fun _ => .inr (resetting.trans (congrArg some chosen.symm))⟩

theorem create_rows {run : DailyBriefRun} {issue : Option DailyBriefIssue} {jobId : String} {clock : Clock}
    {runCreated created : Bool} {job : Job} {stored : Db}
    (done : before.createRunAndEnqueueJob canonicalOwnerId run issue jobId clock = some (runCreated,job,created,stored)) :
    ∀ row ∈ stored.runs, From (Written canonicalOwnerId (.createRunAndEnqueueJob run issue jobId clock) before) before row := by
  have resetting : created = true → runCreated = false →
      resets canonicalOwnerId (.createRunAndEnqueueJob run issue jobId clock) before = some job.runId := by
    intro new old
    show (before.createRunAndEnqueueJob canonicalOwnerId run issue jobId clock).bind _ = some job.runId
    rw [done,new,old]
    rfl
  revert resetting
  generalize (.createRunAndEnqueueJob run issue jobId clock : Op) = op
  intro resetting
  unfold Db.createRunAndEnqueueJob at done
  generalize (if issue.isSome then JobKind.issue else .run) = kind at done
  generalize issue.elim 0 (·.issueId) = issueId at done
  cases begun : before.insertRun {run with ownerId := canonicalOwnerId run.ownerId} clock.now with
  | none =>
    rw [begun] at done
    cases done
  | some start =>
    obtain ⟨isNew,runId,base⟩ := start
    rw [begun] at done
    dsimp only at done
    have rows := insertRun_rows begun
    cases inserted : base.insertJob runId kind issueId jobId clock with
    | none =>
      rw [inserted] at done
      cases done
    | some result =>
      obtain ⟨added,fresh,next⟩ := result
      rw [inserted] at done
      rcases Db.insertJob_cases inserted with ⟨same,rfl,_⟩ | ⟨same,rfl,new,_⟩
      · subst same
        cases done
        exact fun row member => (rows row member).weaken fun _ => Same.written
      · subst same
        cases done
        have own : job.runId = runId := by
          rw [new]
          rfl
        cases runCreated with
        | true =>
          rw [if_pos rfl]
          have begins : ∀ row ∈ (base.writeRun runId fun row => {row with run := {row.run with startedAt := clock.now}}).runs,
              From Same before row := From.copy rows fun _ _ => ⟨rfl,rfl,fun set => set⟩
          cases issue <;> exact fun row member => (begins row member).weaken fun _ => Same.written
        | false =>
          rw [if_neg Bool.false_ne_true]
          have taken := own ▸ resetting rfl rfl
          cases issue <;> exact reset_written rows taken

theorem perform_rows (op : Op) (keys : (before.jobs.map (·.jobId)).Nodup) (runs : before.runIds.Nodup) :
    ∀ row ∈ (perform canonicalOwnerId op before).runs, From (Written canonicalOwnerId op before) before row := by
  have all : ∀ row ∈ before.runs, From Same before row := fun _ held => .refl held
  have plain : ∀ {after : Db}, (∀ row ∈ after.runs, From Same before row) →
      ∀ row ∈ after.runs, From (Written canonicalOwnerId op before) before row := fun rows row member =>
    (rows row member).weaken fun _ => Same.written
  cases op with
  | enqueueJob runId kind issueId jobId clock =>
    show ∀ row ∈ ((before.enqueueJob runId kind issueId jobId clock).elim before (·.2.2)).runs, From _ before row
    cases done : before.enqueueJob runId kind issueId jobId clock with
    | none => exact plain all
    | some result =>
      obtain ⟨job,created,stored⟩ := result
      rcases (Db.enqueueJob_cases done).2.2.2 with ⟨_,rfl,_⟩ | ⟨rfl,_,rows,_⟩
      · exact plain all
      · show ∀ row ∈ stored.runs, From _ before row
        rw [rows]
        refine reset_written all ?_
        show (before.enqueueJob runId kind issueId jobId clock).bind _ = some runId
        rw [done]
        rfl
  | createRunAndEnqueueJob run issue jobId clock =>
    show ∀ row ∈ ((before.createRunAndEnqueueJob canonicalOwnerId run issue jobId clock).elim before (·.2.2.2)).runs, From _ before row
    cases done : before.createRunAndEnqueueJob canonicalOwnerId run issue jobId clock with
    | none => exact plain all
    | some result => exact create_rows done
  | claimNextJob claim =>
    have first := (Db.recover_settles claim.clock (before.expired claim.clock.utc) (Db.expired_apart keys runs) keys fun _ => Db.expired_held).1
    have second := @Db.cancelCovered_settles
      ((before.expired claim.clock.utc).foldl (fun db item => db.recover claim.clock item) before) claim.clock.utc
    have unique := (first.trans second).ids ▸ keys
    refine plain ?_
    show ∀ row ∈ (before.claimNextJob claim).2.runs, From Same before row
    rw [Db.claimNextJob,(Db.claimFrom_cases claim _ unique).1]
    exact From.recover all
  | requeueJob jobId workerId leaseToken reason now =>
    refine plain ?_
    show ∀ row ∈ (before.requeueJob jobId workerId leaseToken reason now).2.runs, From Same before row
    unfold Db.requeueJob
    split
    next => exact all
    next =>
      dsimp only
      split <;> exact From.copy all fun _ _ => ⟨rfl,rfl,fun set => set⟩
  | cancelQueuedIssueRun runId now =>
    refine plain ?_
    show ∀ row ∈ (before.cancelQueuedIssueRun runId now).2.runs, From Same before row
    unfold Db.cancelQueuedIssueRun
    split
    next => exact all
    next =>
      split
      next => exact all
      next => exact From.copy all fun _ _ => ⟨rfl,rfl,fun set => set⟩
  | deleteIssueHistory ownerId issueId =>
    refine plain ?_
    show ∀ row ∈ ((before.deleteIssueHistory canonicalOwnerId ownerId issueId).getD before).runs, From Same before row
    cases done : before.deleteIssueHistory canonicalOwnerId ownerId issueId with
    | none => exact all
    | some stored =>
      show ∀ row ∈ stored.runs, From Same before row
      rw [(Db.deleteIssueHistory_cases done).2.2]
      exact fun row member => .refl (Table.mem_delete.mp member).1
  | clearCancel runId now =>
    refine From.write all (fun _ _ same => same.written) (fun _ _ => rfl) fun old row same chosen => ?_
    exact ⟨same.id,.inl same.mode,fun _ => .inr (congrArg some chosen.symm)⟩
  | updateRun run now =>
    refine From.write all (fun _ _ same => same.written) (fun _ chosen => chosen.symm) fun old row same chosen => ?_
    exact ⟨chosen.symm.trans same.id,.inr ⟨run,now,rfl,rfl,rfl⟩,fun set => .inl (same.flag set)⟩
  | requestCancel | resetStaleRunning =>
    exact plain (From.copy all fun _ _ => ⟨rfl,rfl,fun set => by first | rfl | exact set⟩)
  | renewJob | finishJob | cancelQueuedIssueJobs | upsertIssue | deleteIssues | saveSnapshot | deleteSnapshot => exact plain all

end

end

end GmsRemoteTest.Redmine.DailyBrief
