import GmsRemoteTest.Automation.BatchRuns

/-! Every step of the planner is a change of the tables, although it decides on rows that were read before. A stale row
still says something: a run that had ended is unchanged, and a batch with the last run of the row is at the step of the
row. -/
namespace GmsRemoteTest.Automation

def Older (db : PlanDb) (batch : Batch) : Prop :=
  (∃ run ∈ db.runs, run.id = batch.lastRunId) ∧
    ∃ now ∈ db.batches, batch.SameOrigin now ∧ (now.lastRunId = batch.lastRunId → now.nextStep = batch.nextStep)

/-- A run that had ended when it was read is still there. -/
def Ended (db : PlanDb) (run : Run) : Prop := run.status.terminal = true → ∃ now ∈ db.runs, now.frozen = run.frozen

structure Stale (planner : Planner) : Prop where
  followups : ∀ run ∈ planner.followups, run.status.terminal = true ∧ Ended planner.db run
  actives : ∀ batch ∈ planner.actives, Older planner.db batch
  inspected : ∀ pair ∈ planner.inspected, Older planner.db pair.1 ∧ pair.2.id = pair.1.lastRunId ∧ Ended planner.db pair.2

section
variable {db after : PlanDb}

theorem Change.run_kept (change : Change db after) {run : Run} (member : run ∈ db.runs) :
    ∃ now ∈ after.runs, now.id = run.id ∧ (run.status.terminal = true → now.frozen = run.frozen) := by
  have pushed (extra : Run) : ∃ now ∈ db.runs++[extra], now.id = run.id ∧ (run.status.terminal = true → now.frozen = run.frozen) :=
    ⟨run,List.mem_append_left _ member,rfl,fun _ => rfl⟩
  cases change with
  | settings | added | ended => exact ⟨run,member,rfl,fun _ => rfl⟩
  | started | advanced | created => exact pushed _
  | touched selected runs running updates =>
    exact ⟨runs run,List.mem_map_of_mem member,(updates run member).origin.id,(updates run member).ended⟩
  | retried now child =>
    refine ⟨_,List.mem_append_left _ (Table.mem_update.mpr ⟨run,member,rfl⟩),?_,?_⟩
    · split <;> rfl
    · intro _
      split <;> rfl

theorem Change.batch_kept (change : Change db after) {batch : Batch} (member : batch ∈ db.batches) :
    ∃ now ∈ after.batches, batch.SameOrigin now ∧
      (now.lastRunId = batch.lastRunId ∧ now.nextStep = batch.nextStep ∨ ∀ run ∈ db.runs, run.id ≠ now.lastRunId) ∧
      (batch.status ≠ .running → now.status ≠ .running) := by
  have same : ∃ now ∈ db.batches, batch.SameOrigin now ∧
      (now.lastRunId = batch.lastRunId ∧ now.nextStep = batch.nextStep ∨ ∀ run ∈ db.runs, run.id ≠ now.lastRunId) ∧
      (batch.status ≠ .running → now.status ≠ .running) :=
    ⟨batch,member,⟨rfl,rfl,rfl⟩,.inl ⟨rfl,rfl⟩,id⟩
  cases change with
  | settings | added | created => exact same
  | started plan other =>
    obtain ⟨now,held,rest⟩ := same
    exact ⟨now,List.mem_append_left _ held,rest⟩
  | advanced other previous run failed _ running _ _ _ fresh =>
    refine ⟨_,Table.mem_update.mpr ⟨batch,member,rfl⟩,?_⟩
    split
    · exact ⟨⟨rfl,rfl,rfl⟩,.inr fresh,id⟩
    · exact ⟨⟨rfl,rfl,rfl⟩,.inl ⟨rfl,rfl⟩,id⟩
  | ended other previous status message _ _ _ _ _ halted =>
    refine ⟨_,Table.mem_update.mpr ⟨batch,member,rfl⟩,?_⟩
    split
    · exact ⟨⟨rfl,rfl,rfl⟩,.inl ⟨rfl,rfl⟩,fun _ => halted.1⟩
    · exact ⟨⟨rfl,rfl,rfl⟩,.inl ⟨rfl,rfl⟩,id⟩
  | touched selected runs =>
    refine ⟨_,Table.mem_update.mpr ⟨batch,member,rfl⟩,?_⟩
    split
    · exact ⟨⟨rfl,rfl,rfl⟩,.inl ⟨rfl,rfl⟩,fun _ impossible => (nomatch impossible)⟩
    · exact ⟨⟨rfl,rfl,rfl⟩,.inl ⟨rfl,rfl⟩,id⟩
  | retried now child _ _ _ fresh =>
    refine ⟨_,Table.mem_update.mpr ⟨batch,member,rfl⟩,?_⟩
    split
    · exact ⟨⟨rfl,rfl,rfl⟩,.inr fresh,id⟩
    · exact ⟨⟨rfl,rfl,rfl⟩,.inl ⟨rfl,rfl⟩,id⟩

theorem Older.change {batch : Batch} (older : Older db batch) (change : Change db after) : Older after batch := by
  obtain ⟨⟨run,held,last⟩,now,member,origin,step⟩ := older
  obtain ⟨kept,inside,same,_⟩ := change.run_kept held
  obtain ⟨next,there,moved,steps,_⟩ := change.batch_kept member
  refine ⟨⟨kept,inside,same.trans last⟩,next,there,?_,fun named => ?_⟩
  · exact ⟨moved.id.trans origin.id,moved.planId.trans origin.planId,moved.stepCount.trans origin.stepCount⟩
  · obtain ⟨lastRunId,nextStep⟩ | fresh := steps
    · rw [nextStep]
      exact step (lastRunId.symm.trans named)
    · exact absurd (last.trans named.symm) (fresh run held)

theorem Ended.change {run : Run} (ended : Ended db run) (change : Change db after) : Ended after run := by
  intro terminal
  obtain ⟨now,member,same⟩ := ended terminal
  have halted : now.status.terminal = true := by
    rw [(Run.frozen_eq same).1]
    exact terminal
  obtain ⟨next,there,_,kept⟩ := change.run_kept member
  exact ⟨next,there,(kept halted).trans same⟩

theorem Stale.change {planner : Planner} (stale : Stale planner) {after : PlanDb} (change : Change planner.db after) :
    Stale {planner with db := after} := by
  refine ⟨fun run member => ?_,fun batch member => ?_,fun pair member => ?_⟩
  · obtain ⟨terminal,ended⟩ := stale.followups run member
    exact ⟨terminal,ended.change change⟩
  · exact (stale.actives batch member).change change
  · obtain ⟨older,named,ended⟩ := stale.inspected pair member
    exact ⟨older.change change,named,ended.change change⟩

end

section
variable {db after : PlanDb}

theorem insertRun_ok {run : Run} (inserted : insertRun db run = .ok after) : Fresh db run ∧ after = {db with runs := db.runs++[run]} := by
  unfold insertRun at inserted
  split at inserted
  case isTrue => cases inserted
  case isFalse unique =>
    cases inserted
    refine ⟨?_,rfl⟩
    intro old member same
    exact unique ⟨old,member,.inl same⟩

def Steps (db after : PlanDb) : Prop := after = db ∨ Change db after

theorem setPlan_steps (id : String) (set : TestPlan → TestPlan)
    (kept : ∀ row, (set row).id = row.id ∧ (set row).activeBatchId = row.activeBatchId) : Steps db (setPlan db id set) := by
  refine .inr (.settings _ ?_)
  apply Table.map_update
  intro row _
  rw [(kept row).1,(kept row).2]

theorem save_steps {data : TestPlan} {version : Nat} (saved : save db data version = .ok after) : Steps db after := by
  unfold save at saved
  cases found : fetchPlan db data.id with
  | some old =>
    simp only [found] at saved
    split at saved
    · cases saved
    · cases saved
      exact setPlan_steps _ _ fun _ => ⟨rfl,rfl⟩
  | none =>
    simp only [found] at saved
    split at saved
    · cases saved
    · cases saved
      refine .inr (.added _ ?_ rfl)
      intro old member same
      exact Table.fetch_none.mp found old member same

theorem setEnabled_steps {planId nextRunAt : String} {enabled : Bool} {version : Nat}
    (set : setEnabled db planId enabled nextRunAt version = .ok after) : Steps db after := by
  unfold setEnabled at set
  split at set
  · cases set
    exact setPlan_steps _ _ fun _ => ⟨rfl,rfl⟩
  · cases set

theorem deferError_steps (plan : TestPlan) (nextRunAt message : String) : Steps db (deferError db plan nextRunAt message) := by
  refine .inr (.settings _ ?_)
  apply Table.map_update
  intro row _
  rfl

theorem materialize_step (template : StepTemplate) (planId batchId : String) (index : Nat) (runId : String) :
    (materialize template planId batchId index runId).StepOf batchId index :=
  ⟨⟨rfl,rfl,rfl,rfl⟩,rfl,rfl⟩

theorem startBatch_steps {plan : TestPlan} {batchId now nextRunAt : String} {first : Option Run} {due result : Bool}
    (started : startBatch db plan batchId first now nextRunAt due = .ok (after,result))
    (step : ∀ run, first = some run → run.StepOf batchId 0) : Steps db after := by
  unfold startBatch at started
  cases found : fetchPlan db plan.id with
  | none =>
    simp only [found] at started
    cases started
  | some current =>
    simp only [found] at started
    split at started
    · cases started
    split at started
    · cases started
      exact .inl rfl
    split at started
    · split at started
      · cases started
        exact setPlan_steps _ _ fun _ => ⟨rfl,rfl⟩
      · cases started
    rename_i idle
    cases first with
    | none =>
      cases started
      exact .inl rfl
    | some run =>
      simp only at started
      cases inserted : insertRun db run with
      | error error =>
        simp only [inserted] at started
        cases started
      | ok next =>
        obtain ⟨fresh,rfl⟩ := insertRun_ok inserted
        simp only [inserted] at started
        split at started
        · cases started
        · rename_i newBatch
          cases started
          have named : current.id = plan.id := by
            have selected := Table.fetch_selects found
            exact selected
          have change : Change db ⟨Table.update (·.id = current.id) _ db.plans,db.batches++[_],db.runs++[run]⟩ :=
            .started current ⟨batchId,plan.id,plan.steps,plan.stopOnFailure,plan.stepCount,1,run.id,.running,false⟩ run
              (fun row => {row with activeBatchId := some batchId, lastError := "", nextRunAt := if due then nextRunAt else current.nextRunAt})
              (Table.fetch_mem found) (not_not.mp idle) fresh (fun old member same => newBatch ⟨old,member,same⟩) (step run rfl) named.symm
              rfl rfl rfl (fun _ => ⟨rfl,rfl⟩)
          rw [named] at change
          exact .inr change

theorem advanceBatch_steps {batch : Batch} {prepared : Option Run} {status : BatchStatus} {failed result : Bool}
    (planned : Planned db) (older : Older db batch) (advanced : advanceBatch db batch prepared status failed = .ok (after,result))
    (step : ∀ run, prepared = some run → run.StepOf batch.id batch.nextStep)
    (honest : failed = false → (prepared ≠ none ∨ status = .completed) → ∀ previous ∈ db.runs, previous.id = batch.lastRunId → previous.passed)
    (all : prepared = none → status = .completed → batch.stepCount ≤ batch.nextStep)
    (halted : status ≠ .running ∧ status ≠ .stopping) : Steps db after := by
  unfold advanceBatch at advanced
  cases found : fetchBatch db batch.id with
  | none =>
    simp only [found] at advanced
    cases advanced
    exact .inl rfl
  | some current =>
    have member := Table.fetch_mem found
    have named : current.id = batch.id := by
      have selected := Table.fetch_selects found
      exact selected
    simp only [found] at advanced
    split at advanced
    · cases advanced
      exact .inl rfl
    rename_i live
    have active : current.active := not_not.mp fun wrong => live (.inl wrong)
    have lastRunId : current.lastRunId = batch.lastRunId := not_not.mp fun wrong => live (.inr wrong)
    have nextStep : current.nextStep = batch.nextStep ∧ current.stepCount = batch.stepCount ∧ current.planId = batch.planId := by
      obtain ⟨_,now,held,origin,steps⟩ := older
      have equal := Table.eq_of_key planned.batchIds held member (origin.id.trans named.symm)
      subst equal
      exact ⟨steps lastRunId,origin.stepCount,origin.planId⟩
    split at advanced
    · cases advanced
      exact .inl rfl
    rename_i ready
    cases last : getRun db current.lastRunId with
    | none =>
      simp only [last] at advanced
      cases advanced
      exact .inl rfl
    | some previous =>
      have held := Table.fetch_mem last
      have previousId : previous.id = current.lastRunId := by
        have selected := Table.fetch_selects last
        exact selected
      simp only [last] at advanced
      split at advanced
      · cases advanced
        exact .inl rfl
      rename_i settled
      have decided := not_not.mp settled
      cases prepared with
      | some run =>
        have running : current.status = .running := not_not.mp fun wrong => ready ⟨Option.some_ne_none run,wrong⟩
        simp only at advanced
        cases inserted : insertRun db run with
        | error error =>
          simp only [inserted] at advanced
          cases advanced
        | ok next =>
          obtain ⟨fresh,rfl⟩ := insertRun_ok inserted
          simp only [inserted] at advanced
          cases advanced
          have stepOf : run.StepOf current.id current.nextStep := by
            rw [named,nextStep.1]
            exact step run rfl
          have change := Change.advanced current previous run failed member running held previousId decided fresh stepOf
            fun clean => honest clean (.inl (Option.some_ne_none run)) previous held (previousId.trans lastRunId)
          rw [named] at change
          exact .inr change
      | none =>
        cases advanced
        have finalOver : (if status = .completed ∧ (current.hadFailures = true ∨ failed = true) then .failed else status) ≠ .running ∧
            (if status = .completed ∧ (current.hadFailures = true ∨ failed = true) then .failed else status) ≠ .stopping := by
          split
          · exact ⟨(nomatch ·),(nomatch ·)⟩
          · exact halted
        have finalHonest : (if status = .completed ∧ (current.hadFailures = true ∨ failed = true) then .failed else status) = .completed →
            current.hadFailures = false ∧ previous.passed ∧ current.stepCount ≤ current.nextStep := by
          intro completed
          split at completed
          case isTrue => cases completed
          case isFalse clean =>
            have finished : ¬ (current.hadFailures = true ∨ failed = true) := fun wrong => clean ⟨completed,wrong⟩
            obtain ⟨fine,passes⟩ := not_or.mp finished
            have passed := honest (Bool.eq_false_of_not_eq_true passes) (.inr completed) previous held (previousId.trans lastRunId)
            refine ⟨Bool.eq_false_of_not_eq_true fine,passed,?_⟩
            rw [nextStep.1,nextStep.2.1]
            exact all rfl completed
        have change (message : String) :=
          Change.ended current previous _ message member active held previousId decided finalOver finalHonest
        rw [named,nextStep.2.2] at change
        exact .inr (change _)

theorem map_steps {update : Run → Run} (updates : ∀ run ∈ db.runs, run.Updates (update run)) :
    Steps db {db with runs := db.runs.map update} := by
  have change := Change.touched (fun _ => False) update (fun _ impossible => impossible.elim) updates
  rw [Table.update_eq_self fun _ _ => not_false] at change
  exact .inr change

theorem stopBatch_steps (planned : Planned db) (planId : String) : Steps db (stopBatch db planId) := by
  unfold stopBatch
  split
  · exact .inl rfl
  · rename_i batchId _
    refine .inr (.touched (fun row : Batch => row.id = batchId ∧ row.status = .running) _ (fun _ selected => selected.2) ?_)
    intro run member
    by_cases pending : run.pendingRetry batchId
    · rw [if_pos pending]
      have unended : ¬ run.status.terminal = true := by
        rw [pending.2.2.1]
        decide
      refine ⟨⟨rfl,rfl,rfl,rfl,rfl,rfl,rfl⟩,fun ended => absurd ended unended,?_,fun _ _ => rfl⟩
      intro decided
      exact absurd (planned.chained.settled run member decided) unended
    · rw [if_neg pending]
      exact .refl run

theorem updateRun_steps (_planned : Planned db) (id : String) (expected target : RunStatus) (workerId reportId startedAt : String)
    (summary : Summary) : Steps db (updateRunIfStatus db id expected target workerId reportId startedAt summary) := by
  unfold updateRunIfStatus
  split
  · exact .inl rfl
  · rename_i valid
    apply map_steps
    intro run member
    by_cases selected : run.id = id ∧ run.status = expected
    · rw [if_pos selected]
      have unended : ¬ run.status.terminal = true := by
        rw [selected.2]
        exact (not_or.mp valid).1
      refine ⟨⟨rfl,rfl,rfl,rfl,rfl,rfl,rfl⟩,fun ended => absurd ended unended,fun _ => rfl,?_⟩
      intro decided undecided
      exact absurd undecided decided
    · rw [if_neg selected]
      exact .refl run

theorem leaseRun_steps (id owner : String) : Steps db (setRun db id fun row => {row with leaseOwner := owner}) := by
  apply map_steps
  intro run member
  split
  · exact ⟨⟨rfl,rfl,rfl,rfl,rfl,rfl,rfl⟩,fun _ => rfl,fun _ => rfl,fun decided undecided => absurd undecided decided⟩
  · exact .refl run

theorem retry_child {run child : Run} {childId : String} {authorized : Bool} {decision : Followup}
    (retried : retry run childId authorized = (decision,some child)) :
    decision = .retried ∧ child.Retries run ∧ child.followup = .undecided := by
  unfold retry at retried
  split at retried
  · cases retried
  split at retried
  · cases retried
  split at retried
  · cases retried
  rename_i within
  split at retried
  · cases retried
  split at retried
  · cases retried
  split at retried
  · cases retried
  cases retried
  exact ⟨rfl,⟨rfl,rfl,rfl,rfl,Nat.lt_of_not_le within,rfl⟩,rfl⟩

theorem finishFollowup_steps {run : Run} {decision : Followup} {prepared : Option Run} {result : Bool} (planned : Planned db)
    (terminal : run.status.terminal = true) (stale : Ended db run)
    (retries : ∀ child, prepared = some child → decision = .retried ∧ child.Retries run ∧ child.followup = .undecided)
    (finished : finishFollowup db run decision prepared = .ok (after,result)) : Steps db after := by
  unfold finishFollowup at finished
  cases found : Table.fetch (fun row : Run => row.id = run.id ∧ row.followup = .undecided) db.runs with
  | none =>
    simp only [found] at finished
    cases finished
    exact .inl rfl
  | some current =>
    have member := Table.fetch_mem found
    have selected : current.id = run.id ∧ current.followup = .undecided := by
      have selected := Table.fetch_selects found
      exact selected
    obtain ⟨now,held,same⟩ := stale terminal
    have origin := (Run.frozen_eq same).2.2
    have equal := Table.eq_of_key planned.chained.ids held member (origin.id.symm.trans selected.1.symm)
    subst equal
    simp only [found] at finished
    split at finished
    · cases finished
      exact .inl rfl
    rename_i live
    have ended : now.status.terminal = true := by
      rw [(Run.frozen_eq same).1]
      exact terminal
    have decides (decision : Followup) : Steps db (setRun db run.id fun row => {row with followup := decision}) := by
      rw [← selected.1]
      exact map_steps (planned.chained.decide_updates member selected.2 ended decision)
    split at finished
    · cases finished
      exact decides .batchStopped
    rename_i unstopped
    cases prepared with
    | none =>
      cases finished
      exact decides decision
    | some child =>
      obtain ⟨rfl,child_of,waiting⟩ := retries child rfl
      simp only at finished
      cases inserted : insertRun db child with
      | error error =>
        simp only [inserted] at finished
        cases finished
      | ok next =>
        obtain ⟨fresh,rfl⟩ := insertRun_ok inserted
        simp only [inserted] at finished
        cases finished
        have running : ∀ id, now.planBatchId = some id → ∃ batch ∈ db.batches, batch.id = id ∧ batch.status = .running := by
          intro id home
          rw [← origin.planBatchId] at home
          have status : ((run.planBatchId.bind (fetchBatch db)).map (·.status)) = some .running := by
            apply not_not.mp
            intro wrong
            exact unstopped ⟨Option.some_ne_none child,by rw [home]; exact Option.some_ne_none id,wrong⟩
          rw [home,Option.bind_some] at status
          cases there : fetchBatch db id with
          | none =>
            rw [there] at status
            cases status
          | some batch =>
            rw [there] at status
            have named := Table.fetch_selects there
            exact ⟨batch,Table.fetch_mem there,named,Option.some.inj status⟩
        have own : child.Retries now := Chained.retries_update child_of ⟨rfl,rfl,rfl,rfl,rfl,rfl,rfl⟩ ⟨origin.id.symm,origin.sourceKey.symm,
          origin.retryOf.symm,origin.retryRoot.symm,origin.retryIndex.symm,origin.retryLimit.symm,origin.planBatchId.symm⟩
        have change := Change.retried now child member selected.2 ended fresh own waiting running
        have other : child.id ≠ run.id := by
          rw [← selected.1]
          exact fun wrong => fresh now member wrong.symm
        have pushed : Table.update (fun row : Run => row.id = run.id) (fun row => {row with followup := .retried}) (db.runs++[child]) =
            Table.update (fun row : Run => row.id = run.id) (fun row => {row with followup := .retried}) db.runs++[child] := by
          simp [Table.update,other]
        rw [selected.1,← origin.planBatchId] at change
        rw [setRun]
        change Steps db ⟨_,_,_⟩
        rw [pushed]
        exact .inr change

end

theorem commit_steps {α : Type} {planner : Planner} {result : Except StoreError (PlanDb × α)}
    (steps : ∀ after value, result = .ok (after,value) → Steps planner.db after) : Steps planner.db (commit planner result).db := by
  cases result with
  | error error => exact .inl rfl
  | ok pair => exact steps pair.1 pair.2 rfl

theorem commit_eq {α : Type} (planner : Planner) (result : Except StoreError (PlanDb × α)) :
    commit planner result = {planner with db := (commit planner result).db} := by
  cases result with
  | error error => rfl
  | ok pair => rfl

/-- The tables are in order and what was read is only out of date. -/
structure Sound (planner : Planner) : Prop where
  planned : Planned planner.db
  stale : Stale planner

section
variable {planner : Planner}

theorem Sound.steps (sound : Sound planner) {db : PlanDb} (steps : Steps planner.db db) : Sound {planner with db := db} := by
  obtain rfl | change := steps
  · exact sound
  · exact ⟨sound.planned.change change,sound.stale.change change⟩

theorem followUp_steps (sound : Sound planner) (run : Run) (childId : String) (authorized : Bool) :
    Steps planner.db (followUp planner run childId authorized).db := by
  unfold followUp
  split
  · rename_i known
    obtain ⟨terminal,ended⟩ := sound.stale.followups run known
    apply commit_steps
    intro after value finished
    refine finishFollowup_steps sound.planned terminal ended ?_ finished
    intro child prepared
    exact retry_child (Prod.ext rfl prepared)
  · exact .inl rfl

theorem advance_steps (sound : Sound planner) (batch : Batch) (run : Run) (runId : String) (authorized : Bool) :
    Steps planner.db (advance planner batch run runId authorized).db := by
  unfold advance
  split
  · exact .inl rfl
  rename_i known
  obtain ⟨member,rest⟩ := not_or.mp known
  obtain ⟨terminal,decided⟩ := not_or.mp rest
  obtain ⟨older,named,ended⟩ := sound.stale.inspected (batch,run) (not_not.mp member)
  obtain ⟨now,held,same⟩ := ended (Bool.eq_true_of_not_eq_false terminal)
  have origin := (Run.frozen_eq same).2.2
  -- the run behind the decision is the one the batch still names
  have honest : decide (¬ run.passed) = false → ∀ previous ∈ planner.db.runs, previous.id = batch.lastRunId → previous.passed := by
    intro passed previous inside last
    have equal := Table.eq_of_key sound.planned.chained.ids inside held (last.trans (named.symm.trans origin.id))
    rw [equal,Run.passed_frozen same]
    simpa using passed
  have ends {status : BatchStatus} (halted : status ≠ .running ∧ status ≠ .stopping) (unfinished : status ≠ .completed) :
      Steps planner.db (commit planner (advanceBatch planner.db batch none status false)).db := by
    apply commit_steps
    intro after value advanced
    refine advanceBatch_steps sound.planned older advanced (fun _ impossible => (nomatch impossible)) ?_ ?_ halted
    · intro _ ending
      obtain impossible | completed := ending
      · exact absurd rfl impossible
      · exact absurd completed unfinished
    · intro _ completed
      exact absurd completed unfinished
  dsimp only
  split
  · exact ends ⟨(nomatch ·),(nomatch ·)⟩ (nomatch ·)
  split
  · exact ends ⟨(nomatch ·),(nomatch ·)⟩ (nomatch ·)
  split
  · rename_i all
    apply commit_steps
    intro after value advanced
    exact advanceBatch_steps sound.planned older advanced (fun _ impossible => (nomatch impossible)) (fun passed _ => honest passed)
      (fun _ _ => all) ⟨(nomatch ·),(nomatch ·)⟩
  split
  · apply commit_steps
    intro after value advanced
    refine advanceBatch_steps sound.planned older advanced ?_ (fun passed _ => honest passed) (fun impossible => (nomatch impossible))
      ⟨(nomatch ·),(nomatch ·)⟩
    intro prepared same
    cases same
    exact materialize_step _ _ _ _ _
  · exact ends ⟨(nomatch ·),(nomatch ·)⟩ (nomatch ·)

theorem start_steps (plan : TestPlan) (batchId runId : String) (authorized : Bool) (now nextRunAt : String) (due : Bool) :
    Steps planner.db (start planner plan batchId runId authorized now nextRunAt due).db := by
  unfold start
  split
  · exact .inl rfl
  split
  · apply commit_steps
    intro after value started
    exact startBatch_steps started fun _ impossible => (nomatch impossible)
  split
  · apply commit_steps
    intro after value started
    refine startBatch_steps started ?_
    intro run same
    cases same
    exact materialize_step _ _ _ _ _
  · exact .inl rfl

theorem mapped_steps {α : Type} {result : Except StoreError PlanDb} {value : α}
    (steps : ∀ after, result = .ok after → Steps planner.db after) :
    Steps planner.db (commit planner (result.map fun db => (db,value))).db := by
  cases result with
  | error error => exact .inl rfl
  | ok db => exact steps db rfl

theorem planStep_steps (sound : Sound planner) (op : PlanOp) : Steps planner.db (planStep op planner).db := by
  cases op with
  | save data version => exact mapped_steps fun _ saved => save_steps saved
  | setEnabled planId enabled nextRunAt version => exact mapped_steps fun _ set => setEnabled_steps set
  | stopBatch planId => exact stopBatch_steps sound.planned planId
  | readFollowup id =>
    left
    simp only [planStep,readFollowup]
    split
    · split <;> rfl
    · rfl
  | followUp run childId authorized => exact followUp_steps sound run childId authorized
  | readActive id =>
    left
    simp only [planStep,readActive]
    split
    · split <;> rfl
    · rfl
  | inspectBatch batch =>
    left
    simp only [planStep,inspectBatch]
    split
    · split <;> rfl
    · rfl
  | advance batch run runId authorized => exact advance_steps sound batch run runId authorized
  | readPlan id =>
    left
    simp only [planStep,readPlan]
    split <;> rfl
  | start plan batchId runId authorized now nextRunAt due => exact start_steps plan batchId runId authorized now nextRunAt due
  | deferError plan nextRunAt message =>
    simp only [planStep]
    split
    · exact deferError_steps plan nextRunAt message
    · exact .inl rfl
  | createRun id sourceKey workerId testSuite sourceType retryLimit =>
    refine mapped_steps fun after created => ?_
    obtain ⟨fresh,rfl⟩ := insertRun_ok created
    exact .inr (.created _ fresh ⟨rfl,rfl,rfl,rfl⟩ rfl)
  | updateRun id expected target workerId reportId startedAt summary =>
    exact updateRun_steps sound.planned id expected target workerId reportId startedAt summary
  | leaseRun id owner => exact leaseRun_steps id owner

theorem readFollowup_stale (stale : Stale planner) (id : String) : Stale (readFollowup planner id) := by
  unfold readFollowup
  split
  · rename_i run found
    split
    · rename_i due
      refine {stale with followups := ?_}
      intro other member
      obtain rfl | known := List.mem_cons.mp member
      · exact ⟨due.2.2,fun _ => ⟨other,Table.fetch_mem found,rfl⟩⟩
      · exact stale.followups other known
    · exact stale
  · exact stale

theorem readActive_stale (sound : Sound planner) (id : String) : Stale (readActive planner id) := by
  unfold readActive
  split
  · rename_i batch found
    split
    · refine {sound.stale with actives := ?_}
      intro other member
      obtain rfl | known := List.mem_cons.mp member
      · have inside := Table.fetch_mem found
        obtain ⟨front,run,same,last⟩ := (sound.planned.lines other inside).last_run
        have held : run ∈ batchRuns planner.db other.id := by simp [same]
        exact ⟨⟨run,List.mem_of_mem_filter held,last⟩,other,inside,⟨rfl,rfl,rfl⟩,fun _ => rfl⟩
      · exact sound.stale.actives other known
    · exact sound.stale
  · exact sound.stale

theorem inspectBatch_stale (stale : Stale planner) (batch : Batch) : Stale (inspectBatch planner batch) := by
  unfold inspectBatch
  split
  · rename_i known
    split
    · rename_i run found
      refine {stale with inspected := ?_}
      intro pair member
      obtain rfl | before := List.mem_cons.mp member
      · have named := Table.fetch_selects found
        exact ⟨stale.actives batch known,named,fun _ => ⟨run,Table.fetch_mem found,rfl⟩⟩
      · exact stale.inspected pair before
    · exact stale
  · exact stale

theorem readPlan_stale (stale : Stale planner) (id : String) : Stale (readPlan planner id) := by
  unfold readPlan
  split
  · exact ⟨stale.followups,stale.actives,stale.inspected⟩
  · exact stale

theorem followUp_eq (run : Run) (childId : String) (authorized : Bool) :
    followUp planner run childId authorized = {planner with db := (followUp planner run childId authorized).db} := by
  unfold followUp
  split
  · exact commit_eq _ _
  · rfl

theorem advance_eq (batch : Batch) (run : Run) (runId : String) (authorized : Bool) :
    advance planner batch run runId authorized = {planner with db := (advance planner batch run runId authorized).db} := by
  unfold advance
  dsimp only
  repeat' split
  all_goals first | rfl | exact commit_eq _ _

theorem start_eq (plan : TestPlan) (batchId runId : String) (authorized : Bool) (now nextRunAt : String) (due : Bool) :
    start planner plan batchId runId authorized now nextRunAt due =
      {planner with db := (start planner plan batchId runId authorized now nextRunAt due).db} := by
  unfold start
  repeat' split
  all_goals first | rfl | exact commit_eq _ _

theorem Sound.planStep (sound : Sound planner) (op : PlanOp) : Sound (planStep op planner) := by
  have wrote (same : Automation.planStep op planner = {planner with db := (Automation.planStep op planner).db}) :
      Sound (Automation.planStep op planner) := by
    rw [same]
    exact sound.steps (planStep_steps sound op)
  have readIt (stale : Stale (Automation.planStep op planner)) : Sound (Automation.planStep op planner) :=
    ⟨(sound.steps (planStep_steps sound op)).planned,stale⟩
  cases op with
  | save | setEnabled => exact wrote (commit_eq _ _)
  | stopBatch => exact wrote rfl
  | readFollowup id => exact readIt (readFollowup_stale sound.stale id)
  | followUp => exact wrote (followUp_eq _ _ _)
  | readActive id => exact readIt (readActive_stale sound id)
  | inspectBatch batch => exact readIt (inspectBatch_stale sound.stale batch)
  | advance => exact wrote (advance_eq _ _ _ _)
  | readPlan id => exact readIt (readPlan_stale sound.stale id)
  | start => exact wrote (start_eq _ _ _ _ _ _ _)
  | deferError plan nextRunAt message =>
    apply wrote
    simp only [Automation.planStep]
    split <;> rfl
  | createRun => exact wrote (commit_eq _ _)
  | updateRun | leaseRun => exact wrote rfl

theorem emptyPlanner_sound : Sound emptyPlanner := by
  refine ⟨⟨List.nodup_nil,List.nodup_nil,?_,?_,?_,⟨List.nodup_nil,?_,?_,?_,?_⟩,?_⟩,⟨?_,?_,?_⟩⟩
  all_goals exact fun _ member => (nomatch member)

theorem exec_sound (ops : List PlanOp) : Sound (Runs.exec planStep emptyPlanner ops) :=
  Runs.exec_invariant (fun _ op sound => sound.planStep op) emptyPlanner_sound ops

end

end GmsRemoteTest.Automation
