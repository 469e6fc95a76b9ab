import GmsRemoteTest.Automation.PlanSteps

/-! The batches of a plan over every interleaving of planners, users and runs: one active batch, one
run for each step and in order, bounded chains of retries, nothing after a stop, and a completed batch
only when every chain ended in a pass. -/
namespace GmsRemoteTest.Automation

def Run.rootId (run : Run) : String := run.retryRoot.getD run.id

structure LastOf (db : PlanDb) (step run : Run) : Prop where
  member : run ∈ db.runs
  root : run.rootId = step.id
  childless : ∀ child ∈ db.runs, child.retryOf ≠ some run.id

def retriesOf (db : PlanDb) (root : Run) : List Run := db.runs.filter (·.retryRoot = some root.id)

structure Sequenced (db : PlanDb) : Prop where
  active : ∀ plan ∈ db.plans, ∀ batch ∈ db.batches, batch.planId = plan.id → (batch.active ↔ plan.activeBatchId = some batch.id)
  named : ∀ plan ∈ db.plans, ∀ id, plan.activeBatchId = some id → ∃ batch ∈ db.batches, batch.id = id ∧ batch.planId = plan.id ∧ batch.active
  unique : ∀ first ∈ db.batches, ∀ second ∈ db.batches, first.active → second.active → first.planId = second.planId → first = second
  steps : ∀ batch ∈ db.batches, (stepRuns db batch.id).map (·.sourceKey) = (List.range batch.nextStep).map (planKey batch.id)
  retry : ∀ first ∈ db.runs, ∀ second ∈ db.runs, first.retryOf = second.retryOf → first.retryOf ≠ none → first = second
  limit : ∀ root ∈ db.runs, (retriesOf db root).length ≤ root.retryLimit
  completed : ∀ batch ∈ db.batches, batch.status = .completed → batch.stepCount ≤ batch.nextStep ∧
    ∀ step ∈ stepRuns db batch.id, (∃ run, LastOf db step run) ∧ ∀ run, LastOf db step run → run.passed

/-- The run of a step is inserted after the chain of the step before it is settled. -/
def InOrder (before after : PlanDb) : Prop :=
  ∀ batchId index, ∀ new ∈ stepRuns after batchId, new.sourceKey = planKey batchId (index+1) → (∀ old ∈ before.runs, old.id ≠ new.id) →
    ∀ step ∈ stepRuns before batchId, step.sourceKey = planKey batchId index →
      (∃ run, LastOf before step run) ∧ ∀ run, LastOf before step run → run.status.terminal = true ∧ run.followup.decided

namespace Chained

variable {db : PlanDb}

theorem retries_rootId {child run : Run} (retries : child.Retries run) : child.rootId = run.rootId := by
  simp [Run.rootId,retries.retryRoot]

section
variable (chained : Chained db.runs)
include chained

theorem index_pos {run : Run} (member : run ∈ db.runs) (retries : run.retryOf ≠ none) :
    0 < run.retryIndex := by
  obtain ⟨id,some⟩ := Option.ne_none_iff_exists'.mp retries
  obtain ⟨parent,_,_,_,rest⟩ := chained.parents run member id some
  rw [rest.retryIndex]
  exact Nat.succ_pos _

theorem root {run : Run} (member : run ∈ db.runs) :
    ∃ root ∈ db.runs, root.id = run.rootId ∧ root.retryOf = none ∧ run.retryLimit = root.retryLimit ∧
      run.retryIndex ≤ root.retryLimit ∧ run.planBatchId = root.planBatchId := by
  induction place : run.retryIndex generalizing run with
  | zero =>
    have none : run.retryOf = none := by
      by_contra retries
      have positive := chained.index_pos member retries
      omega
    have origin := chained.roots run member none
    exact ⟨run,member,by simp [Run.rootId,origin.1],none,rfl,by omega,rfl⟩
  | succ index ih =>
    have some : run.retryOf ≠ none := by
      intro none
      have origin := chained.roots run member none
      omega
    obtain ⟨id,named⟩ := Option.ne_none_iff_exists'.mp some
    obtain ⟨parent,inside,_,_,retries⟩ := chained.parents run member id named
    have before : parent.retryIndex = index := by
      have next := retries.retryIndex
      omega
    obtain ⟨root,there,rootId,rest,limit,_,home⟩ := ih inside before
    refine ⟨root,there,rootId.trans (retries_rootId retries).symm,rest,retries.retryLimit.trans limit,?_,retries.planBatchId.trans home⟩
    have within := retries.within
    omega

theorem eq_of_index {first second : Run} (left : first ∈ db.runs) (right : second ∈ db.runs)
    (root : first.rootId = second.rootId) (index : first.retryIndex = second.retryIndex) : first = second := by
  induction first_place : first.retryIndex generalizing first second with
  | zero =>
    have starts {run : Run} (member : run ∈ db.runs) (zero : run.retryIndex = 0) : run.rootId = run.id := by
      have none : run.retryOf = none := by
        by_contra retries
        have positive := chained.index_pos member retries
        omega
      simp [Run.rootId,(chained.roots run member none).1]
    rw [starts left first_place,starts right (index.symm.trans first_place)] at root
    exact Table.eq_of_key chained.ids left right root
  | succ place ih =>
    have parent {run : Run} (member : run ∈ db.runs) (later : run.retryIndex = place+1) :
        ∃ parent ∈ db.runs, run.retryOf = some parent.id ∧ parent.retryIndex = place ∧ parent.rootId = run.rootId := by
      have some : run.retryOf ≠ none := by
        intro none
        have origin := chained.roots run member none
        omega
      obtain ⟨id,named⟩ := Option.ne_none_iff_exists'.mp some
      obtain ⟨parent,inside,_,_,retries⟩ := chained.parents run member id named
      have before := retries.retryIndex
      exact ⟨parent,inside,retries.retryOf,by omega,(retries_rootId retries).symm⟩
    obtain ⟨one,oneIn,oneOf,onePlace,oneRoot⟩ := parent left first_place
    obtain ⟨two,twoIn,twoOf,twoPlace,twoRoot⟩ := parent right (index.symm.trans first_place)
    have same := ih oneIn twoIn (oneRoot.trans (root.trans twoRoot.symm)) (onePlace.trans twoPlace.symm) onePlace
    have together : first.retryOf = second.retryOf := by rw [oneOf,twoOf,same]
    exact chained.single first left second right together (by simp [oneOf])

theorem retries_le {root : Run} (member : root ∈ db.runs) : (retriesOf db root).length ≤ root.retryLimit := by
  have inside {run : Run} (held : run ∈ retriesOf db root) : run ∈ db.runs ∧ run.retryRoot = some root.id := by
    simpa [retriesOf] using held
  have places : ((retriesOf db root).map (·.retryIndex)).Nodup := by
    apply List.Nodup.map_on
    · intro first left second right same
      have one := inside left
      have two := inside right
      exact chained.eq_of_index one.1 two.1 (by simp [Run.rootId,one.2,two.2]) same
    · exact chained.ids.of_map.filter _
  have bounded : (retriesOf db root).map (·.retryIndex) ⊆ List.range' 1 root.retryLimit := by
    intro index held
    obtain ⟨run,there,rfl⟩ := List.mem_map.mp held
    obtain ⟨present,rooted⟩ := inside there
    obtain ⟨top,topIn,topId,_,_,within,_⟩ := chained.root present
    have same : top = root := by
      apply Table.eq_of_key chained.ids topIn member
      rw [topId,Run.rootId,rooted]
      rfl
    have retries : run.retryOf ≠ none := by
      intro none
      rw [(chained.roots run present none).1] at rooted
      cases rooted
    have positive := chained.index_pos present retries
    rw [List.mem_range'_1]
    rw [same] at within
    omega
  have count := (List.subperm_of_subset places bounded).length_le
  simpa using count

theorem exists_last {step run : Run} (member : run ∈ db.runs) (root : run.rootId = step.id) :
    ∃ last, LastOf db step last := by
  induction left : run.retryLimit-run.retryIndex generalizing run with
  | zero =>
    refine ⟨run,member,root,?_⟩
    intro child inside same
    obtain ⟨parent,there,named,_,retries⟩ := chained.parents child inside run.id same
    have equal := Table.eq_of_key chained.ids there member named
    have within := retries.within
    rw [equal] at within
    omega
  | succ left ih =>
    by_cases childless : ∀ child ∈ db.runs, child.retryOf ≠ some run.id
    · exact ⟨run,member,root,childless⟩
    · push Not at childless
      obtain ⟨child,inside,same⟩ := childless
      obtain ⟨parent,there,named,_,retries⟩ := chained.parents child inside run.id same
      have equal := Table.eq_of_key chained.ids there member named
      subst equal
      refine ih inside ((retries_rootId retries).trans root) ?_
      rw [retries.retryLimit,retries.retryIndex]
      omega

end

end Chained

namespace Planned

variable {db : PlanDb}

theorem mem_batchRuns {run : Run} {batchId : String} : run ∈ batchRuns db batchId ↔ run ∈ db.runs ∧ run.planBatchId = some batchId := by
  simp [batchRuns]

theorem mem_stepRuns {run : Run} {batchId : String} :
    run ∈ stepRuns db batchId ↔ run ∈ db.runs ∧ run.planBatchId = some batchId ∧ run.retryOf = none := by
  simp only [stepRuns,List.mem_filter,mem_batchRuns,decide_eq_true_eq,and_assoc]

section
variable (planned : Planned db)
include planned

theorem last_mem {batchId : String} {step run : Run} (member : step ∈ stepRuns db batchId) (last : LastOf db step run) :
    run ∈ batchRuns db batchId := by
  obtain ⟨held,home,_⟩ := mem_stepRuns.mp member
  obtain ⟨root,there,named,_,_,_,same⟩ := planned.chained.root last.member
  have equal := Table.eq_of_key planned.chained.ids there held (named.trans last.root)
  rw [mem_batchRuns,same,equal]
  exact ⟨last.member,home⟩

theorem step_last {batchId : String} {step : Run} (member : step ∈ stepRuns db batchId) :
    ∃ run, LastOf db step run := by
  obtain ⟨held,_,none⟩ := mem_stepRuns.mp member
  have root := (planned.chained.roots step held none).1
  exact planned.chained.exists_last held (by simp [Run.rootId,root])

theorem childless {batch : Batch} (member : batch ∈ db.batches) {run : Run} (held : run ∈ batchRuns db batch.id)
    (childless : ∀ child ∈ db.runs, child.retryOf ≠ some run.id) :
    run.id = batch.lastRunId ∨
      run.status.terminal = true ∧ run.followup.decided ∧ (batch.hadFailures = false → run.passed) := by
  obtain last | ⟨next,there,follows⟩ := (planned.lines batch member).followed held
  · exact .inl last
  · obtain ⟨_,retries⟩ | ⟨decided,_,passed⟩ := follows.settled
    · exact absurd retries (childless next (List.mem_of_mem_filter there))
    · exact .inr ⟨follows.ended,decided,passed⟩

theorem completed {batch : Batch} (member : batch ∈ db.batches) (done : batch.status = .completed)
    {step run : Run} (inside : step ∈ stepRuns db batch.id) (last : LastOf db step run) : run.passed := by
  have held := planned.last_mem inside last
  obtain ⟨clean,_,final⟩ := (planned.lines batch member).completed done
  obtain named | ⟨_,_,passed⟩ := planned.childless member held last.childless
  · obtain ⟨front,final_run,shape,_⟩ := (planned.lines batch member).last_run
    have ends : final_run ∈ (batchRuns db batch.id).getLast? := by simp [shape]
    rw [← planned.last_eq member last.member named final_run ends]
    exact (final final_run ends).2
  · exact passed clean

theorem sequenced : Sequenced db := by
  refine ⟨?_,planned.named,?_,fun batch member => (planned.lines batch member).steps,planned.chained.single,
    fun root member => planned.chained.retries_le member,?_⟩
  · intro plan held batch member home
    constructor
    · intro active
      obtain ⟨owner,there,named,busy⟩ := planned.owned batch member active
      rwa [Table.eq_of_key planned.planIds held there (home.symm.trans named.symm)]
    · intro busy
      obtain ⟨other,there,named,_,active⟩ := planned.named plan held batch.id busy
      rwa [Table.eq_of_key planned.batchIds member there named.symm]
  · intro first left second right one two same
    obtain ⟨owner,there,named,busy⟩ := planned.owned first left one
    obtain ⟨other,present,called,active⟩ := planned.owned second right two
    have equal := Table.eq_of_key planned.planIds there present (named.trans (same.trans called.symm))
    rw [equal,active] at busy
    exact Table.eq_of_key planned.batchIds left right (Option.some.inj busy).symm
  · intro batch member done
    refine ⟨((planned.lines batch member).completed done).2.1,?_⟩
    intro step inside
    exact ⟨planned.step_last inside,fun run last => planned.completed member done inside last⟩

theorem inOrder {after : PlanDb} (change : Change db after) : InOrder db after := by
  intro batchId index new inside _ fresh step before _
  obtain ⟨there,home,none⟩ := mem_stepRuns.mp inside
  refine ⟨planned.step_last before,fun run last => ?_⟩
  have held := planned.last_mem before last
  cases change with
  | settings | added | ended => exact absurd rfl (fresh new there)
  | touched selected runs running updates =>
    obtain ⟨old,present,rfl⟩ := List.mem_map.mp there
    exact absurd (updates old present).origin.id.symm (fresh old present)
  | started plan batch first set _ _ _ newBatch stepOf =>
    obtain present | same := List.mem_append.mp there
    · exact absurd rfl (fresh new present)
    · rw [List.mem_singleton.mp same,stepOf.planBatchId] at home
      obtain ⟨other,known,named⟩ := planned.homed step (mem_stepRuns.mp before).1 batchId (mem_stepRuns.mp before).2.1
      exact absurd (named.trans (Option.some.inj home).symm) (newBatch other known)
  | advanced batch previous next failed member _ previousIn lastRunId decided _ stepOf =>
    obtain present | same := List.mem_append.mp there
    · exact absurd rfl (fresh new present)
    · rw [List.mem_singleton.mp same,stepOf.planBatchId] at home
      have named : batch.id = batchId := Option.some.inj home
      rw [← named] at held
      obtain ends | ⟨ended,settled,_⟩ := planned.childless member held last.childless
      · rw [Table.eq_of_key planned.chained.ids last.member previousIn (ends.trans lastRunId.symm)]
        exact ⟨planned.chained.settled previous previousIn decided.1,decided⟩
      · exact ⟨ended,settled⟩
  | retried now child member _ _ _ retries =>
    obtain present | same := List.mem_append.mp there
    · obtain ⟨old,known,rfl⟩ := Table.mem_update.mp present
      refine absurd ?_ (fresh old known)
      split <;> rfl
    · rw [List.mem_singleton.mp same,retries.retryOf] at none
      cases none
  | created other _ _ outside =>
    obtain present | same := List.mem_append.mp there
    · exact absurd rfl (fresh new present)
    · rw [List.mem_singleton.mp same,outside] at home
      cases home

end

def Closed (db : PlanDb) (batchId : String) : Prop := ∃ batch ∈ db.batches, batch.id = batchId ∧ batch.status ≠ .running

theorem Closed.change {batchId : String} (closed : Closed db batchId) {after : PlanDb} (change : Change db after) : Closed after batchId := by
  obtain ⟨batch,member,named,stopped⟩ := closed
  obtain ⟨now,there,origin,_,status⟩ := change.batch_kept member
  exact ⟨now,there,origin.id.trans named,status stopped⟩

theorem filter_elsewhere {batchId : String} {runs : List Run} {run : Run} (elsewhere : run.planBatchId ≠ some batchId) :
    (runs++[run]).filter (·.planBatchId = some batchId) = runs.filter (·.planBatchId = some batchId) := by
  rw [filter_push,if_neg elsewhere,List.append_nil]

theorem filter_update_ids {batchId : String} {runs : List Run} {update : Run → Run} (updates : ∀ run ∈ runs, run.Updates (update run)) :
    ((runs.map update).filter (·.planBatchId = some batchId)).map (·.id) = (runs.filter (·.planBatchId = some batchId)).map (·.id) := by
  rw [filter_update updates,List.map_map]
  apply List.map_congr_left
  intro run member
  exact (updates run (List.mem_of_mem_filter member)).origin.id

theorem closed_runs (planned : Planned db) {batchId : String} (closed : Closed db batchId) {after : PlanDb} (change : Change db after) :
    (batchRuns after batchId).map (·.id) = (batchRuns db batchId).map (·.id) := by
  obtain ⟨batch,member,rfl,stopped⟩ := closed
  have unstarted {other : Batch} (held : other ∈ db.batches) (running : other.status = .running) : some other.id ≠ some batch.id := by
    intro same
    have equal := Table.eq_of_key planned.batchIds held member (Option.some.inj same)
    subst equal
    exact stopped running
  simp only [batchRuns]
  cases change with
  | settings | added | ended => rfl
  | touched selected runs running updates => exact filter_update_ids updates
  | started plan other run set _ _ _ newBatch stepOf =>
    rw [filter_elsewhere]
    rw [stepOf.planBatchId]
    intro same
    exact newBatch batch member (Option.some.inj same).symm
  | advanced other previous run failed held running _ _ _ _ stepOf =>
    rw [filter_elsewhere]
    rw [stepOf.planBatchId]
    exact unstarted held running
  | retried now child held undecided ended _ retries _ running =>
    rw [filter_elsewhere]
    · exact filter_update_ids (planned.chained.decide_updates held undecided ended .retried)
    · intro home
      obtain ⟨other,there,named,going⟩ := running batch.id (retries.planBatchId.symm.trans home)
      exact unstarted there going (congrArg some named)
  | created run _ _ outside =>
    rw [filter_elsewhere]
    rw [outside]
    exact (Option.some_ne_none _).symm

end Planned

theorem stopBatch_closed {db : PlanDb} (planned : Planned db) {plan : TestPlan} (member : plan ∈ db.plans) {batchId : String}
    (busy : plan.activeBatchId = some batchId) :
    Planned.Closed (stopBatch db plan.id) batchId ∧
      (batchRuns (stopBatch db plan.id) batchId).map (·.id) = (batchRuns db batchId).map (·.id) := by
  have found : (fetchPlan db plan.id).bind (·.activeBatchId) = some batchId := by
    cases fetched : fetchPlan db plan.id with
    | none => exact absurd rfl (Table.fetch_none.mp fetched plan member)
    | some row =>
      have same := Table.eq_of_fetch planned.planIds fetched member rfl
      rw [← same]
      exact busy
  obtain ⟨batch,held,rfl,_⟩ := planned.named plan member batchId busy
  refine ⟨?_,?_⟩
  · simp only [stopBatch,found]
    refine ⟨_,Table.mem_update.mpr ⟨batch,held,rfl⟩,?_⟩
    split
    case isTrue => exact ⟨rfl,fun running => by cases running⟩
    case isFalse unselected => exact ⟨rfl,fun running => unselected ⟨rfl,running⟩⟩
  · simp only [stopBatch,found,batchRuns]
    rw [Table.update,List.filter_map,List.map_map]
    have kept (run : Run) : (if run.pendingRetry batch.id then {run with status := .cancelled, followup := .done} else run).id = run.id ∧
        (if run.pendingRetry batch.id then {run with status := .cancelled, followup := .done} else run).planBatchId = run.planBatchId := by
      split <;> exact ⟨rfl,rfl⟩
    simp [Function.comp_def,kept]

theorem closed_for_good {planner : Planner} (sound : Sound planner) {batchId : String} (closed : Planned.Closed planner.db batchId)
    (later : List PlanOp) :
    (batchRuns (Runs.exec planStep planner later).db batchId).map (·.id) = (batchRuns planner.db batchId).map (·.id) := by
  induction later generalizing planner with
  | nil => rfl
  | cons op later ih =>
    rw [Runs.exec_cons]
    obtain same | change := planStep_steps sound op
    · rw [ih (sound.planStep op) (by rwa [same]),same]
    · rw [ih (sound.planStep op) (closed.change change)]
      exact sound.planned.closed_runs closed change

/-- The batches of every plan, over every interleaving of the planners, the users and the runs. -/
theorem plan_batches_are_sequenced (ops : List PlanOp) :
    Sequenced (Runs.exec planStep emptyPlanner ops).db ∧
      (∀ op, InOrder (Runs.exec planStep emptyPlanner ops).db (planStep op (Runs.exec planStep emptyPlanner ops)).db) ∧
      ∀ plan ∈ (Runs.exec planStep emptyPlanner ops).db.plans, ∀ batchId, plan.activeBatchId = some batchId → ∀ later,
        (batchRuns (Runs.exec planStep emptyPlanner (ops++.stopBatch plan.id :: later)).db batchId).map (·.id) =
          (batchRuns (Runs.exec planStep emptyPlanner ops).db batchId).map (·.id) := by
  have sound := exec_sound ops
  refine ⟨sound.planned.sequenced,fun op => ?_,?_⟩
  · obtain same | change := planStep_steps sound op
    · rw [same]
      intro batchId index new inside _ fresh
      exact absurd rfl (fresh new (Planned.mem_stepRuns.mp inside).1)
    · exact sound.planned.inOrder change
  · intro plan member batchId busy later
    obtain ⟨closed,runs⟩ := stopBatch_closed sound.planned member busy
    rw [Runs.exec_append,Runs.exec_cons,← runs]
    exact closed_for_good (sound.planStep (.stopBatch plan.id)) closed later

end GmsRemoteTest.Automation
