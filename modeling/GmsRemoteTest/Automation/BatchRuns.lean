import Mathlib.Data.List.Chain
import GmsRemoteTest.Automation.PlanChanges

/-! The runs of a batch form one line: a run is followed by its retry, or, once it is settled, by the
run of the next step. -/
namespace GmsRemoteTest.Automation

def batchRuns (db : PlanDb) (batchId : String) : List Run := db.runs.filter (·.planBatchId = some batchId)

def stepRuns (db : PlanDb) (batchId : String) : List Run := (batchRuns db batchId).filter (·.retryOf = none)

structure Follows (hadFailures : Bool) (run next : Run) : Prop where
  ended : run.status.terminal = true
  settled : run.followup = .retried ∧ next.retryOf = some run.id ∨
    run.followup.decided ∧ next.retryOf = none ∧ (hadFailures = false → run.passed)

structure Line (batch : Batch) (runs : List Run) : Prop where
  steps : (runs.filter (·.retryOf = none)).map (·.sourceKey) = (List.range batch.nextStep).map (planKey batch.id)
  last : runs.getLast?.map (·.id) = some batch.lastRunId
  chain : runs.IsChain (Follows batch.hadFailures)
  completed : batch.status = .completed → batch.hadFailures = false ∧ batch.stepCount ≤ batch.nextStep ∧
    ∀ run ∈ runs.getLast?, run.followup.decided ∧ run.passed

structure Chained (runs : List Run) : Prop where
  ids : (runs.map (·.id)).Nodup
  settled : ∀ run ∈ runs, run.followup ≠ .undecided → run.status.terminal = true
  parents : ∀ child ∈ runs, ∀ id, child.retryOf = some id → ∃ run ∈ runs, run.id = id ∧ run.followup = .retried ∧ child.Retries run
  single : ∀ first ∈ runs, ∀ second ∈ runs, first.retryOf = second.retryOf → first.retryOf ≠ none → first = second
  roots : ∀ run ∈ runs, run.retryOf = none → run.retryRoot = none ∧ run.retryIndex = 0

structure Planned (db : PlanDb) : Prop where
  planIds : (db.plans.map (·.id)).Nodup
  batchIds : (db.batches.map (·.id)).Nodup
  named : ∀ plan ∈ db.plans, ∀ id, plan.activeBatchId = some id →
    ∃ batch ∈ db.batches, batch.id = id ∧ batch.planId = plan.id ∧ batch.active
  owned : ∀ batch ∈ db.batches, batch.active → ∃ plan ∈ db.plans, plan.id = batch.planId ∧ plan.activeBatchId = some batch.id
  homed : ∀ run ∈ db.runs, ∀ id, run.planBatchId = some id → ∃ batch ∈ db.batches, batch.id = id
  chained : Chained db.runs
  lines : ∀ batch ∈ db.batches, Line batch (batchRuns db batch.id)

theorem Run.Updates.refl (run : Run) : run.Updates run :=
  ⟨⟨rfl,rfl,rfl,rfl,rfl,rfl,rfl⟩,fun _ => rfl,fun _ => rfl,fun after before => absurd before after⟩

theorem Run.frozen_eq {first second : Run} (same : first.frozen = second.frozen) :
    first.status = second.status ∧ first.summary = second.summary ∧ first.SameOrigin second := by
  simp only [frozen,Run.mk.injEq] at same
  obtain ⟨id,_,key,status,_,_,_,_,_,summary,of_,root,index,limit,_,_,batch⟩ := same
  exact ⟨status,summary,id.symm,key.symm,of_.symm,root.symm,index.symm,limit.symm,batch.symm⟩

theorem Run.passed_frozen {first second : Run} (same : first.frozen = second.frozen) : first.passed ↔ second.passed := by
  obtain ⟨status,summary,_⟩ := frozen_eq same
  rw [passed,passed,status,summary]

theorem Follows.update {had : Bool} {run next run' next' : Run} (follows : Follows had run next)
    (first : run.Updates run') (second : next.SameOrigin next') : Follows had run' next' := by
  have same := first.ended follows.ended
  have settled : run.followup ≠ .undecided := by
    obtain ⟨retried,_⟩ | ⟨decided,_⟩ := follows.settled
    · rw [retried]
      decide
    · exact decided.1
  have kept := first.kept settled
  refine ⟨?_,?_⟩
  · rw [(Run.frozen_eq same).1]
    exact follows.ended
  · rw [kept,second.retryOf,first.origin.id,Run.passed_frozen same]
    exact follows.settled

theorem Follows.weaken {had had' : Bool} {run next : Run} (follows : Follows had run next)
    (weaker : had' = false → had = false) : Follows had' run next := by
  refine ⟨follows.ended,follows.settled.imp_right fun settled => ?_⟩
  exact ⟨settled.1,settled.2.1,fun clean => settled.2.2 (weaker clean)⟩

section
variable {batch : Batch} {runs : List Run}

section
variable (line : Line batch runs)
include line

theorem Line.last_run : ∃ front run, runs = front++[run] ∧ run.id = batch.lastRunId := by
  obtain rfl | ⟨front,run,rfl⟩ := List.eq_nil_or_concat runs
  · have last := line.last
    simp at last
  · have last := line.last
    exact ⟨front,run,by simp,by simpa using last⟩

theorem Line.followed {run : Run} (member : run ∈ runs) :
    run.id = batch.lastRunId ∨ ∃ next ∈ runs, Follows batch.hadFailures run next := by
  obtain ⟨before,after,rfl⟩ := List.append_of_mem member
  cases after with
  | nil =>
    have last := line.last
    exact .inl (by simpa using last)
  | cons next after =>
    refine .inr ⟨next,by simp,?_⟩
    have joined := line.chain
    rw [List.isChain_append] at joined
    exact (List.isChain_cons_cons.mp joined.2.1).1

theorem Line.map {update : Run → Run} (updates : ∀ run ∈ runs, run.Updates (update run)) :
    Line batch (runs.map update) := by
  have steps : (runs.map update).filter (·.retryOf = none) = (runs.filter (·.retryOf = none)).map update := by
    rw [List.filter_map]
    congr 1
    apply List.filter_congr
    intro run member
    simp [(updates run member).origin.retryOf]
  refine ⟨?_,?_,?_,fun completed => ?_⟩
  · rw [steps,List.map_map,← line.steps]
    apply List.map_congr_left
    intro run member
    exact (updates run (List.mem_of_mem_filter member)).origin.sourceKey
  · have last := line.last
    obtain ⟨front,run,rfl,_⟩ := line.last_run
    have same := (updates run (by simp)).origin.id
    simpa [same] using last
  · rw [List.isChain_map]
    refine line.chain.imp_of_mem_imp ?_
    intro run next left right follows
    exact follows.update (updates run left) (updates next right).origin
  · obtain ⟨clean,all,final⟩ := line.completed completed
    refine ⟨clean,all,?_⟩
    obtain ⟨front,run,rfl,_⟩ := line.last_run
    have decided := final run (by simp)
    have updated := updates run (by simp)
    have terminal : run.status.terminal = true := by
      rw [decided.2.1]
      rfl
    have passed := (Run.passed_frozen (updated.ended terminal)).mpr decided.2
    have kept := updated.kept decided.1.1
    intro last member
    have same : update run = last := by simpa using member
    rw [← same,kept]
    exact ⟨decided.1,passed⟩

theorem Line.push {next : Batch} {run : Run} (id : next.id = batch.id) (last : next.lastRunId = run.id)
    (weaker : next.hadFailures = false → batch.hadFailures = false)
    (follows : ∀ final ∈ runs.getLast?, Follows next.hadFailures final run) (unfinished : next.status ≠ .completed)
    (step : run.retryOf = none ∧ run.sourceKey = planKey batch.id batch.nextStep ∧ next.nextStep = batch.nextStep+1 ∨
      run.retryOf ≠ none ∧ next.nextStep = batch.nextStep) :
    Line next (runs++[run]) := by
  refine ⟨?_,?_,?_,fun completed => absurd completed unfinished⟩
  · rw [List.filter_append,List.map_append,line.steps,id]
    obtain ⟨none,key,count⟩ | ⟨some,count⟩ := step
    · simp [none,key,count,List.range_succ]
    · simp [some,count]
  · simp [last]
  · rw [List.isChain_append]
    refine ⟨line.chain.imp fun _ _ before => before.weaken weaker,List.isChain_singleton run,?_⟩
    intro final member first head
    have same : run = first := by simpa using head
    exact same ▸ follows final member

theorem Line.status (status : BatchStatus)
    (completed : status = .completed → batch.hadFailures = false ∧ batch.stepCount ≤ batch.nextStep ∧
      ∀ run ∈ runs.getLast?, run.followup.decided ∧ run.passed) :
    Line {batch with status := status} runs :=
  ⟨line.steps,line.last,line.chain,completed⟩

end

end

theorem filter_push (runs : List Run) (run : Run) (id : String) :
    (runs++[run]).filter (·.planBatchId = some id) =
      runs.filter (·.planBatchId = some id) ++ if run.planBatchId = some id then [run] else [] := by
  rw [List.filter_append]
  congr 1
  by_cases home : run.planBatchId = some id
  · simp [home]
  · simp [home]

theorem filter_update {runs : List Run} {update : Run → Run} (updates : ∀ run ∈ runs, run.Updates (update run)) (id : String) :
    (runs.map update).filter (·.planBatchId = some id) = (runs.filter (·.planBatchId = some id)).map update := by
  rw [List.filter_map]
  congr 1
  apply List.filter_congr
  intro run member
  simp [(updates run member).origin.planBatchId]

namespace Chained

variable {runs : List Run}

theorem start (chained : Chained runs) {run : Run} (fresh : ∀ old ∈ runs, old.id ≠ run.id) (starts : run.Starts) :
    Chained (runs++[run]) := by
  have members {row : Run} : row ∈ runs++[run] ↔ row ∈ runs ∨ row = run := by simp
  refine ⟨Table.nodup_insert chained.ids fresh,?_,?_,?_,?_⟩
  · intro row member decided
    obtain held | rfl := members.mp member
    · exact chained.settled row held decided
    · exact absurd starts.undecided decided
  · intro row member id retries
    obtain held | rfl := members.mp member
    · obtain ⟨parent,inside,rest⟩ := chained.parents row held id retries
      exact ⟨parent,members.mpr (.inl inside),rest⟩
    · rw [starts.retryOf] at retries
      cases retries
  · intro first left second right same retries
    obtain held | rfl := members.mp left
    · obtain inside | rfl := members.mp right
      · exact chained.single first held second inside same retries
      · rw [same,starts.retryOf] at retries
        exact absurd rfl retries
    · exact absurd starts.retryOf retries
  · intro row member retries
    obtain held | rfl := members.mp member
    · exact chained.roots row held retries
    · exact ⟨starts.retryRoot,starts.retryIndex⟩

theorem retries_update {child run child' run' : Run} (retries : child.Retries run) (first : child.SameOrigin child')
    (second : run.SameOrigin run') : child'.Retries run' := by
  constructor
  · rw [first.retryOf,second.id,retries.retryOf]
  · rw [first.retryRoot,second.retryRoot,second.id,retries.retryRoot]
  · rw [first.retryIndex,second.retryIndex,retries.retryIndex]
  · rw [first.retryLimit,second.retryLimit,retries.retryLimit]
  · rw [second.retryIndex,second.retryLimit]
    exact retries.within
  · rw [first.planBatchId,second.planBatchId,retries.planBatchId]

section
variable (chained : Chained runs)
include chained

theorem map {update : Run → Run} (updates : ∀ run ∈ runs, run.Updates (update run)) :
    Chained (runs.map update) := by
  refine ⟨?_,?_,?_,?_,?_⟩
  · rw [List.map_map]
    have same : runs.map ((fun run => run.id) ∘ update) = runs.map (·.id) := by
      apply List.map_congr_left
      intro run member
      exact (updates run member).origin.id
    rw [same]
    exact chained.ids
  · intro row member decided
    obtain ⟨run,held,rfl⟩ := List.mem_map.mp member
    have updated := updates run held
    by_cases before : run.followup = .undecided
    · exact updated.decides decided before
    · have ended := chained.settled run held before
      rw [(Run.frozen_eq (updated.ended ended)).1]
      exact ended
  · intro row member id retries
    obtain ⟨child,held,rfl⟩ := List.mem_map.mp member
    rw [(updates child held).origin.retryOf] at retries
    obtain ⟨run,inside,named,retried,rest⟩ := chained.parents child held id retries
    have updated := updates run inside
    refine ⟨update run,List.mem_map_of_mem inside,updated.origin.id.trans named,?_,?_⟩
    · rw [updated.kept (by rw [retried]; decide),retried]
    · exact retries_update rest (updates child held).origin updated.origin
  · intro first left second right same retries
    obtain ⟨child,held,rfl⟩ := List.mem_map.mp left
    obtain ⟨other,inside,rfl⟩ := List.mem_map.mp right
    rw [(updates child held).origin.retryOf] at same retries
    rw [(updates other inside).origin.retryOf] at same
    rw [chained.single child held other inside same retries]
  · intro row member retries
    obtain ⟨run,held,rfl⟩ := List.mem_map.mp member
    have origin := (updates run held).origin
    rw [origin.retryOf] at retries
    rw [origin.retryRoot,origin.retryIndex]
    exact chained.roots run held retries

theorem child {run child : Run} (member : run ∈ runs) (retried : run.followup = .retried)
    (retries : child.Retries run) (waiting : child.followup = .undecided) (fresh : ∀ old ∈ runs, old.id ≠ child.id)
    (first : ∀ old ∈ runs, old.retryOf ≠ some run.id) : Chained (runs++[child]) := by
  have members {row : Run} : row ∈ runs++[child] ↔ row ∈ runs ∨ row = child := by simp
  refine ⟨Table.nodup_insert chained.ids fresh,?_,?_,?_,?_⟩
  · intro row member decided
    obtain held | rfl := members.mp member
    · exact chained.settled row held decided
    · exact absurd waiting decided
  · intro row member id same
    obtain held | rfl := members.mp member
    · obtain ⟨parent,inside,rest⟩ := chained.parents row held id same
      exact ⟨parent,members.mpr (.inl inside),rest⟩
    · have named : run.id = id := by simpa [retries.retryOf] using same
      exact ⟨run,members.mpr (.inl ‹run ∈ runs›),named,retried,retries⟩
  · intro left leftIn right rightIn same some
    obtain leftOld | rfl := members.mp leftIn
    · obtain rightOld | rfl := members.mp rightIn
      · exact chained.single left leftOld right rightOld same some
      · exact absurd (same.trans retries.retryOf) (first left leftOld)
    · obtain rightOld | rfl := members.mp rightIn
      · exact absurd (same.symm.trans retries.retryOf) (first right rightOld)
      · rfl
  · intro row member none
    obtain held | rfl := members.mp member
    · exact chained.roots row held none
    · rw [retries.retryOf] at none
      cases none

theorem decide_updates {now : Run} (member : now ∈ runs) (undecided : now.followup = .undecided)
    (ended : now.status.terminal = true) (decision : Followup) :
    ∀ run ∈ runs, run.Updates (if run.id = now.id then {run with followup := decision} else run) := by
  intro run held
  by_cases same : run.id = now.id
  · have equal := Table.eq_of_key chained.ids held member same
    subst equal
    rw [if_pos same]
    exact ⟨⟨rfl,rfl,rfl,rfl,rfl,rfl,rfl⟩,fun _ => rfl,fun decided => absurd undecided decided,fun _ _ => ended⟩
  · rw [if_neg same]
    exact .refl run

theorem retry {now child : Run} (member : now ∈ runs) (undecided : now.followup = .undecided)
    (ended : now.status.terminal = true) (fresh : ∀ old ∈ runs, old.id ≠ child.id) (retries : child.Retries now)
    (waiting : child.followup = .undecided) :
    Chained (Table.update (·.id = now.id) (fun row => {row with followup := .retried}) runs++[child]) := by
  have updates := chained.decide_updates member undecided ended .retried
  have updated := chained.map updates
  have chosen : {now with followup := .retried} ∈ Table.update (·.id = now.id) (fun row => {row with followup := .retried}) runs :=
    Table.mem_update.mpr ⟨now,member,if_pos rfl⟩
  refine updated.child chosen rfl (retries_update retries ⟨rfl,rfl,rfl,rfl,rfl,rfl,rfl⟩ ⟨rfl,rfl,rfl,rfl,rfl,rfl,rfl⟩) waiting ?_ ?_
  · intro row inside
    obtain ⟨old,held,rfl⟩ := List.mem_map.mp inside
    rw [(updates old held).origin.id]
    exact fresh old held
  · -- a run with a retry is decided, and this one was not
    intro row inside same
    obtain ⟨old,held,rfl⟩ := List.mem_map.mp inside
    rw [(updates old held).origin.retryOf] at same
    obtain ⟨parent,there,named,retried,_⟩ := chained.parents old held now.id same
    rw [Table.eq_of_key chained.ids there member named,undecided] at retried
    cases retried

end

end Chained

namespace Planned

variable {db : PlanDb}

section
variable (planned : Planned db)
include planned

theorem last_eq {batch : Batch} (member : batch ∈ db.batches) {previous : Run} (held : previous ∈ db.runs)
    (lastRunId : previous.id = batch.lastRunId) :
    ∀ final ∈ (batchRuns db batch.id).getLast?, final = previous := by
  intro final last
  have line := planned.lines batch member
  have inside : final ∈ db.runs := List.mem_of_mem_filter (List.mem_of_mem_getLast? last)
  apply Table.eq_of_key planned.chained.ids inside held
  have named := line.last
  rw [Option.mem_def.mp last] at named
  rw [lastRunId]
  simpa using named

theorem settings (plans : List TestPlan)
    (same : plans.map (fun plan => (plan.id,plan.activeBatchId)) = db.plans.map fun plan => (plan.id,plan.activeBatchId)) :
    Planned {db with plans := plans} := by
  have pairs (plan : TestPlan) : (∃ row ∈ plans, row.id = plan.id ∧ row.activeBatchId = plan.activeBatchId) ↔
      ∃ row ∈ db.plans, row.id = plan.id ∧ row.activeBatchId = plan.activeBatchId := by
    have listed : (plan.id,plan.activeBatchId) ∈ plans.map (fun plan => (plan.id,plan.activeBatchId)) ↔
        (plan.id,plan.activeBatchId) ∈ db.plans.map fun plan => (plan.id,plan.activeBatchId) := by rw [same]
    simpa only [List.mem_map,Prod.mk.injEq] using listed
  refine {planned with planIds := ?_, named := ?_, owned := ?_}
  · have ids := congrArg (List.map Prod.fst) same
    simp only [List.map_map,Function.comp_def] at ids
    change (plans.map (·.id)).Nodup
    rw [ids]
    exact planned.planIds
  · intro plan member id active
    obtain ⟨row,held,ids,actives⟩ := (pairs plan).mp ⟨plan,member,rfl,rfl⟩
    rw [← ids]
    exact planned.named row held id (actives.trans active)
  · intro batch member active
    obtain ⟨plan,held,ids,actives⟩ := planned.owned batch member active
    obtain ⟨row,inside,rowId,rowActive⟩ := (pairs plan).mpr ⟨plan,held,rfl,rfl⟩
    exact ⟨row,inside,rowId.trans ids,rowActive.trans actives⟩

theorem added (plan : TestPlan) (fresh : ∀ old ∈ db.plans, old.id ≠ plan.id) (idle : plan.activeBatchId = none) :
    Planned {db with plans := db.plans++[plan]} := by
  refine {planned with planIds := ?_, named := ?_, owned := ?_}
  · exact Table.nodup_insert planned.planIds fresh
  · intro row member id active
    obtain held | new := List.mem_append.mp member
    · exact planned.named row held id active
    · rw [List.mem_singleton.mp new,idle] at active
      cases active
  · intro batch member active
    obtain ⟨row,held,rest⟩ := planned.owned batch member active
    exact ⟨row,List.mem_append_left _ held,rest⟩

theorem alone {run : Run} (chained : Chained (db.runs++[run])) (outside : run.planBatchId = none) :
    Planned {db with runs := db.runs++[run]} := by
  refine {planned with homed := ?_, chained := chained, lines := ?_}
  · intro row member id home
    obtain held | new := List.mem_append.mp member
    · exact planned.homed row held id home
    · rw [List.mem_singleton.mp new,outside] at home
      cases home
  · intro batch member
    have line := planned.lines batch member
    rw [batchRuns] at line ⊢
    rw [filter_push,outside]
    simpa using line

theorem pushed {run : Run} {plans : List TestPlan} {batches : List Batch} {batchId : String}
    (home : run.planBatchId = some batchId) (chained : Chained (db.runs++[run])) (planIds : (plans.map (·.id)).Nodup)
    (batchIds : (batches.map (·.id)).Nodup) (kept : ∀ old ∈ db.batches, ∃ batch ∈ batches, batch.id = old.id)
    (held : ∃ batch ∈ batches, batch.id = batchId)
    (named : ∀ plan ∈ plans, ∀ id, plan.activeBatchId = some id → ∃ batch ∈ batches, batch.id = id ∧ batch.planId = plan.id ∧ batch.active)
    (owned : ∀ batch ∈ batches, batch.active → ∃ plan ∈ plans, plan.id = batch.planId ∧ plan.activeBatchId = some batch.id)
    (others : ∀ batch ∈ batches, batch.id ≠ batchId → batch ∈ db.batches)
    (line : ∀ batch ∈ batches, batch.id = batchId → Line batch (batchRuns db batchId++[run])) :
    Planned ⟨plans,batches,db.runs++[run]⟩ := by
  refine ⟨planIds,batchIds,named,owned,?_,chained,?_⟩
  · intro row member id inside
    obtain old | new := List.mem_append.mp member
    · obtain ⟨batch,there,same⟩ := planned.homed row old id inside
      obtain ⟨next,present,equal⟩ := kept batch there
      exact ⟨next,present,equal.trans same⟩
    · rw [List.mem_singleton.mp new,home] at inside
      cases inside
      exact held
  · intro batch member
    rw [batchRuns]
    change Line batch ((db.runs++[run]).filter _)
    rw [filter_push,home]
    by_cases same : batch.id = batchId
    · have added := line batch member same
      rw [batchRuns] at added
      simpa [same] using added
    · have before := planned.lines batch (others batch member same)
      rw [batchRuns] at before
      have different : ¬ batchId = batch.id := fun equal => same equal.symm
      simpa [different] using before

theorem touched (selected : Batch → Prop) [DecidablePred selected] {update : Run → Run}
    (running : ∀ row, selected row → row.status = .running) (updates : ∀ run ∈ db.runs, run.Updates (update run)) :
    Planned ⟨db.plans,Table.update selected (fun row => {row with status := .stopping}) db.batches,db.runs.map update⟩ := by
  have batches (old : Batch) : ∃ status, (if selected old then {old with status := .stopping} else old) = {old with status := status} ∧
      (status = .completed → old.status = .completed) ∧ (({old with status := status} : Batch).active ↔ old.active) := by
    by_cases chosen : selected old
    · refine ⟨.stopping,if_pos chosen,?_,?_⟩
      · intro impossible
        cases impossible
      · simp [Batch.active,running old chosen]
    · exact ⟨old.status,if_neg chosen,id,Iff.rfl⟩
  refine ⟨planned.planIds,?_,?_,?_,?_,planned.chained.map updates,?_⟩
  · change ((Table.update selected _ db.batches).map (·.id)).Nodup
    rw [Table.map_update]
    · exact planned.batchIds
    · intro row _
      rfl
  · intro plan member id active
    obtain ⟨batch,held,named,home,going⟩ := planned.named plan member id active
    obtain ⟨status,same,_,still⟩ := batches batch
    exact ⟨{batch with status := status},Table.mem_update.mpr ⟨batch,held,same⟩,named,home,still.mpr going⟩
  · intro batch member active
    obtain ⟨old,held,rfl⟩ := Table.mem_update.mp member
    obtain ⟨status,same,_,still⟩ := batches old
    rw [same] at active ⊢
    exact planned.owned old held (still.mp active)
  · intro row member id home
    obtain ⟨run,held,rfl⟩ := List.mem_map.mp member
    rw [(updates run held).origin.planBatchId] at home
    obtain ⟨batch,there,named⟩ := planned.homed run held id home
    obtain ⟨status,same,_,_⟩ := batches batch
    exact ⟨{batch with status := status},Table.mem_update.mpr ⟨batch,there,same⟩,named⟩
  · intro batch member
    obtain ⟨old,held,rfl⟩ := Table.mem_update.mp member
    obtain ⟨status,same,finished,_⟩ := batches old
    rw [same,batchRuns]
    change Line _ ((db.runs.map update).filter (·.planBatchId = some old.id))
    rw [filter_update updates]
    have inside : ∀ run ∈ db.runs.filter (·.planBatchId = some old.id), run.Updates (update run) :=
      fun run member => updates run (List.mem_of_mem_filter member)
    have line := (planned.lines old held).map inside
    exact line.status status fun completed => line.completed (finished completed)

theorem ended {batch : Batch} {previous : Run} {status : BatchStatus} {message : String}
    (member : batch ∈ db.batches) (last : previous ∈ db.runs) (lastRunId : previous.id = batch.lastRunId)
    (decided : previous.followup.decided) (halted : status ≠ .running ∧ status ≠ .stopping)
    (honest : status = .completed → batch.hadFailures = false ∧ previous.passed ∧ batch.stepCount ≤ batch.nextStep) :
    Planned ⟨Table.update (fun row : TestPlan => row.id = batch.planId ∧ row.activeBatchId = some batch.id)
        (fun row => {row with activeBatchId := none, lastError := message}) db.plans,
      Table.update (·.id = batch.id) (fun row => {row with status := status}) db.batches,db.runs⟩ := by
  have unique {old : Batch} (held : old ∈ db.batches) (same : old.id = batch.id) : old = batch :=
    Table.eq_of_key planned.batchIds held member same
  refine ⟨?_,?_,?_,?_,?_,planned.chained,?_⟩
  · change ((Table.update _ _ db.plans).map (·.id)).Nodup
    rw [Table.map_update]
    · exact planned.planIds
    · intro row _
      rfl
  · change ((Table.update _ _ db.batches).map (·.id)).Nodup
    rw [Table.map_update]
    · exact planned.batchIds
    · intro row _
      rfl
  · intro plan held id active
    obtain ⟨old,inside,rfl⟩ := Table.mem_update.mp held
    by_cases cleared : old.id = batch.planId ∧ old.activeBatchId = some batch.id
    · rw [if_pos cleared] at active
      cases active
    · rw [if_neg cleared] at active ⊢
      obtain ⟨other,there,named,home,going⟩ := planned.named old inside id active
      have different : other.id ≠ batch.id := by
        intro same
        have equal := unique there same
        subst equal
        exact cleared ⟨home.symm,active.trans (congrArg some named.symm)⟩
      exact ⟨other,Table.mem_update.mpr ⟨other,there,if_neg different⟩,named,home,going⟩
  · intro row held active
    obtain ⟨old,inside,rfl⟩ := Table.mem_update.mp held
    by_cases same : old.id = batch.id
    · rw [if_pos same] at active
      exact absurd active (by simp [Batch.active,halted])
    · rw [if_neg same] at active ⊢
      obtain ⟨plan,there,named,busy⟩ := planned.owned old inside active
      have kept : ¬ (plan.id = batch.planId ∧ plan.activeBatchId = some batch.id) := by
        rintro ⟨_,other⟩
        rw [busy] at other
        exact same (Option.some.inj other)
      exact ⟨plan,Table.mem_update.mpr ⟨plan,there,if_neg kept⟩,named,busy⟩
  · intro run held id home
    obtain ⟨old,there,named⟩ := planned.homed run held id home
    refine ⟨_,Table.mem_update.mpr ⟨old,there,rfl⟩,?_⟩
    split
    · exact named
    · exact named
  · intro row held
    obtain ⟨old,inside,rfl⟩ := Table.mem_update.mp held
    by_cases same : old.id = batch.id
    · have equal := unique inside same
      subst equal
      rw [if_pos rfl]
      refine (planned.lines old inside).status status fun completed => ?_
      obtain ⟨clean,passed,all⟩ := honest completed
      refine ⟨clean,all,?_⟩
      intro final there
      rw [planned.last_eq inside last lastRunId final there]
      exact ⟨decided,passed⟩
    · rw [if_neg same]
      exact planned.lines old inside

theorem extended {batch : Batch} {run : Run} {set : Batch → Batch} (member : batch ∈ db.batches)
    (active : batch.active) (home : run.planBatchId = some batch.id) (chained : Chained (db.runs++[run]))
    (origin : (set batch).id = batch.id ∧ (set batch).planId = batch.planId ∧ (set batch).status = batch.status)
    (line : Line (set batch) (batchRuns db batch.id++[run])) {selected : Batch → Prop} [DecidablePred selected]
    (chosen : ∀ row ∈ db.batches, selected row ↔ row.id = batch.id) :
    Planned ⟨db.plans,Table.update selected set db.batches,db.runs++[run]⟩ := by
  have selects (old : Batch) (held : old ∈ db.batches) :
      (if selected old then set old else old) = set batch ∧ old = batch ∨
        (if selected old then set old else old) = old ∧ old.id ≠ batch.id := by
    by_cases same : old.id = batch.id
    · have equal := Table.eq_of_key planned.batchIds held member same
      exact .inl ⟨by rw [if_pos ((chosen old held).mpr same),equal],equal⟩
    · exact .inr ⟨if_neg fun wrong => same ((chosen old held).mp wrong),same⟩
  have present : set batch ∈ Table.update selected set db.batches :=
    Table.mem_update.mpr ⟨batch,member,if_pos ((chosen batch member).mpr rfl)⟩
  have keeps (old : Batch) (held : old ∈ db.batches) : ∃ next ∈ Table.update selected set db.batches,
      next.id = old.id ∧ next.planId = old.planId ∧ next.status = old.status := by
    obtain ⟨same,rfl⟩ | ⟨same,_⟩ := selects old held
    · exact ⟨set old,present,origin⟩
    · exact ⟨old,Table.mem_update.mpr ⟨old,held,same⟩,rfl,rfl,rfl⟩
  have comes (row : Batch) (held : row ∈ Table.update selected set db.batches) : row = set batch ∨ row ∈ db.batches ∧ row.id ≠ batch.id := by
    obtain ⟨old,inside,rfl⟩ := Table.mem_update.mp held
    obtain ⟨same,_⟩ | ⟨same,different⟩ := selects old inside
    · exact .inl same
    · rw [same]
      exact .inr ⟨inside,different⟩
  refine planned.pushed home chained planned.planIds ?_ ?_ ⟨set batch,present,origin.1⟩ ?_ ?_ ?_ ?_
  · have ids : (Table.update selected set db.batches).map (·.id) = db.batches.map (·.id) := by
      rw [Table.update,List.map_map]
      apply List.map_congr_left
      intro old held
      change (if selected old then set old else old).id = old.id
      obtain ⟨same,rfl⟩ | ⟨same,_⟩ := selects old held
      · rw [same]
        exact origin.1
      · rw [same]
    rw [ids]
    exact planned.batchIds
  · intro old held
    obtain ⟨next,there,same,_⟩ := keeps old held
    exact ⟨next,there,same⟩
  · intro plan held id busy
    obtain ⟨old,inside,named,owner,going⟩ := planned.named plan held id busy
    obtain ⟨next,there,sameId,samePlan,sameStatus⟩ := keeps old inside
    refine ⟨next,there,sameId.trans named,samePlan.trans owner,?_⟩
    rw [Batch.active,sameStatus]
    exact going
  · intro row held going
    obtain rfl | ⟨inside,_⟩ := comes row held
    · obtain ⟨plan,there,rest⟩ := planned.owned batch member active
      rw [origin.1,origin.2.1]
      exact ⟨plan,there,rest⟩
    · exact planned.owned row inside going
  · intro row held different
    obtain rfl | ⟨inside,_⟩ := comes row held
    · exact absurd origin.1 different
    · exact inside
  · intro row held same
    obtain rfl | ⟨_,different⟩ := comes row held
    · exact line
    · exact absurd same different

theorem advanced {batch : Batch} {previous run : Run} {failed : Bool} (member : batch ∈ db.batches)
    (running : batch.status = .running) (last : previous ∈ db.runs) (lastRunId : previous.id = batch.lastRunId)
    (decided : previous.followup.decided) (fresh : Fresh db run) (step : run.StepOf batch.id batch.nextStep)
    (honest : failed = false → previous.passed) :
    Planned ⟨db.plans,Table.update (·.id = batch.id)
      (fun row => {row with nextStep := row.nextStep+1, lastRunId := run.id, hadFailures := row.hadFailures || failed}) db.batches,
      db.runs++[run]⟩ := by
  have chained := planned.chained.start fresh step.starts
  refine planned.extended member (.inl running) step.planBatchId chained ⟨rfl,rfl,rfl⟩ ?_ (fun _ _ => Iff.rfl)
  refine (planned.lines batch member).push rfl rfl ?_ ?_ ?_ ?_
  · intro clean
    exact (Bool.or_eq_false_iff.mp clean).1
  · intro final there
    rw [planned.last_eq member last lastRunId final there]
    refine ⟨planned.chained.settled previous last decided.1,.inr ⟨decided,step.starts.retryOf,?_⟩⟩
    intro clean
    exact honest (Bool.or_eq_false_iff.mp clean).2
  · change batch.status ≠ .completed
    rw [running]
    decide
  · exact .inl ⟨step.starts.retryOf,step.sourceKey,rfl⟩

theorem started {plan : TestPlan} {batch : Batch} {run : Run} {set : TestPlan → TestPlan} (member : plan ∈ db.plans)
    (idle : plan.activeBatchId = none) (fresh : Fresh db run) (newBatch : ∀ old ∈ db.batches, old.id ≠ batch.id)
    (step : run.StepOf batch.id 0) (planId : batch.planId = plan.id) (running : batch.status = .running)
    (nextStep : batch.nextStep = 1) (lastRunId : batch.lastRunId = run.id)
    (sets : ∀ row, (set row).id = row.id ∧ (set row).activeBatchId = some batch.id) :
    Planned ⟨Table.update (·.id = plan.id) set db.plans,db.batches++[batch],db.runs++[run]⟩ := by
  have members {row : Batch} : row ∈ db.batches++[batch] ↔ row ∈ db.batches ∨ row = batch := by simp
  refine planned.pushed step.planBatchId (planned.chained.start fresh step.starts) ?_ (Table.nodup_insert planned.batchIds newBatch)
    ?_ ⟨batch,members.mpr (.inr rfl),rfl⟩ ?_ ?_ ?_ ?_
  · rw [Table.map_update]
    · exact planned.planIds
    · intro row _
      exact (sets row).1
  · intro old held
    exact ⟨old,members.mpr (.inl held),rfl⟩
  · intro row held id busy
    obtain ⟨old,inside,rfl⟩ := Table.mem_update.mp held
    by_cases same : old.id = plan.id
    · rw [if_pos same] at busy ⊢
      rw [(sets old).2] at busy
      refine ⟨batch,members.mpr (.inr rfl),Option.some.inj busy,?_,.inl running⟩
      rw [planId,(sets old).1,same]
    · rw [if_neg same] at busy ⊢
      obtain ⟨other,there,rest⟩ := planned.named old inside id busy
      exact ⟨other,members.mpr (.inl there),rest⟩
  · intro row held going
    obtain inside | rfl := members.mp held
    · obtain ⟨other,there,named,busy⟩ := planned.owned row inside going
      have different : other.id ≠ plan.id := by
        intro same
        rw [Table.eq_of_key planned.planIds there member same,idle] at busy
        cases busy
      exact ⟨other,Table.mem_update.mpr ⟨other,there,if_neg different⟩,named,busy⟩
    · exact ⟨set plan,Table.mem_update.mpr ⟨plan,member,if_pos rfl⟩,(sets plan).1.trans planId.symm,(sets plan).2⟩
  · intro row held different
    obtain inside | rfl := members.mp held
    · exact inside
    · exact absurd rfl different
  · intro row held same
    obtain inside | rfl := members.mp held
    · exact absurd same (newBatch row inside)
    · have nothing : batchRuns db row.id = [] := by
        apply List.filter_eq_nil_iff.mpr
        intro old there home
        obtain ⟨other,present,named⟩ := planned.homed old there row.id (of_decide_eq_true home)
        exact newBatch other present named
      rw [nothing,List.nil_append]
      refine ⟨?_,?_,List.isChain_singleton run,?_⟩
      · simp [step.starts.retryOf,step.sourceKey,nextStep]
      · simp [lastRunId]
      · intro completed
        rw [running] at completed
        cases completed

theorem updated {update : Run → Run} (updates : ∀ run ∈ db.runs, run.Updates (update run)) :
    Planned {db with runs := db.runs.map update} := by
  have touched := planned.touched (fun _ => False) (fun _ impossible => impossible.elim) updates
  rwa [Table.update_eq_self fun _ _ => not_false] at touched

theorem retried {now child : Run} (member : now ∈ db.runs) (undecided : now.followup = .undecided)
    (ended : now.status.terminal = true) (fresh : Fresh db child) (retries : child.Retries now) (waiting : child.followup = .undecided)
    (running : ∀ id, now.planBatchId = some id → ∃ batch ∈ db.batches, batch.id = id ∧ batch.status = .running) :
    Planned ⟨db.plans,Table.update (fun row : Batch => some row.id = now.planBatchId ∧ row.lastRunId = now.id ∧ row.status = .running)
        (fun row => {row with lastRunId := child.id}) db.batches,
      Table.update (·.id = now.id) (fun row => {row with followup := .retried}) db.runs++[child]⟩ := by
  have updates := planned.chained.decide_updates member undecided ended .retried
  have decided := planned.updated updates
  have chained := planned.chained.retry member undecided ended fresh retries waiting
  cases home : now.planBatchId with
  | none =>
    have nothing : Table.update (fun row : Batch => some row.id = none ∧ row.lastRunId = now.id ∧ row.status = .running)
        (fun row => {row with lastRunId := child.id}) db.batches = db.batches := by
      apply Table.update_eq_self
      rintro row _ ⟨impossible,_⟩
      cases impossible
    rw [nothing]
    exact decided.alone chained (retries.planBatchId.trans home)
  | some id =>
    obtain ⟨batch,held,rfl,going⟩ := running id home
    -- an undecided run of a batch is its last one
    have last : now.id = batch.lastRunId := by
      have inside : now ∈ batchRuns db batch.id := by simp [batchRuns,member,home]
      obtain last | ⟨next,_,follows⟩ := (planned.lines batch held).followed inside
      · exact last
      · obtain ⟨retried,_⟩ | ⟨settled,_⟩ := follows.settled
        · rw [undecided] at retried
          cases retried
        · exact absurd undecided settled.1
    have chosen : ∀ row ∈ db.batches,
        (some row.id = some batch.id ∧ row.lastRunId = now.id ∧ row.status = .running) ↔ row.id = batch.id := by
      intro row inside
      refine ⟨fun selected => Option.some.inj selected.1,fun same => ?_⟩
      have equal := Table.eq_of_key planned.batchIds inside held same
      subst equal
      exact ⟨rfl,last.symm,going⟩
    refine decided.extended held (.inl going) (retries.planBatchId.trans home) chained ⟨rfl,rfl,rfl⟩ ?_ chosen
    have parent : {now with followup := .retried} ∈ db.runs.map fun row => if row.id = now.id then {row with followup := .retried} else row :=
      List.mem_map.mpr ⟨now,member,if_pos rfl⟩
    refine (decided.lines batch held).push rfl rfl id ?_ ?_ (.inr ⟨?_,rfl⟩)
    · intro final there
      rw [decided.last_eq held parent last final there]
      exact ⟨ended,.inl ⟨rfl,retries.retryOf⟩⟩
    · change batch.status ≠ .completed
      rw [going]
      decide
    · rw [retries.retryOf]
      exact Option.some_ne_none _

theorem change {after : PlanDb} (change : Change db after) : Planned after := by
  cases change with
  | settings plans same => exact planned.settings plans same
  | added plan fresh idle => exact planned.added plan fresh idle
  | started plan batch run set member idle fresh newBatch step planId running nextStep lastRunId sets =>
    exact planned.started member idle fresh newBatch step planId running nextStep lastRunId sets
  | advanced batch previous run failed member running last lastRunId decided fresh step honest =>
    exact planned.advanced member running last lastRunId decided fresh step honest
  | ended batch previous status message member active last lastRunId decided halted honest =>
    exact planned.ended member last lastRunId decided halted honest
  | touched selected runs running updates => exact planned.touched selected running updates
  | retried now child member undecided ended fresh retries waiting running =>
    exact planned.retried member undecided ended fresh retries waiting running
  | created run fresh starts outside => exact planned.alone (planned.chained.start fresh starts) outside

end

end Planned

end GmsRemoteTest.Automation
