import GmsRemoteTest.Lib.Rotation
import GmsRemoteTest.Automation.Orchestrator

/-! Consecutive calls of `advance_next` by one process while no one else writes. The queue is ordered by
`updated_at`, and a call moves its run to the back only when its stage returns and the row is written. -/
namespace GmsRemoteTest.Automation

/-- A step of one call of `advance_next`: the call goes on, or its heartbeat renews the claim. -/
inductive CallStep (Input : Type)
  | go (input : Input) (now expiry : String)
  | renew (expiry : String)

/-- One call with the clock of its claim; an exception ends it like a return. -/
structure NextCall (Input : Type) where
  now : String
  expiry : String
  steps : List (CallStep Input)

def Phase.runId {Local : Type} : Phase Local → Option String
  | .idle => none
  | .found id _ | .claimed id _ | .leaving id => some id
  | .calling run _ _ _ | .moving run _ _ | .failing run _ _ _ | .swapping run _ _ _ => some run.id

def Phase.atRest {Local : Type} : Phase Local → Prop
  | .idle => True
  | _ => False

instance {Local : Type} (phase : Phase Local) : Decidable phase.atRest := by
  unfold Phase.atRest
  split <;> infer_instance

section
variable {Env Local Input : Type} (executor : Executor Env Local Input) (owner : String → String) (caller : String)

def claimedId (world : World Env Local) (call : NextCall Input) : Option String :=
  (RunStore.claimNextActive world.runs (owner caller) call.now call.expiry).1

def afterClaim (world : World Env Local) (call : NextCall Input) : World Env Local :=
  pipelineStep executor owner (.advanceNext caller call.now call.expiry) world

def callTurn (world : World Env Local) : CallStep Input → World Env Local
  | .go input now expiry => pipelineStep executor owner (.go caller input now expiry) world
  | .renew expiry => match (world.phases caller).runId with
    | none => world
    | some id => pipelineStep executor owner (.renewClaim caller id expiry) world

def afterCall (world : World Env Local) (call : NextCall Input) : World Env Local :=
  call.steps.foldl (callTurn executor owner caller) (afterClaim executor owner caller world call)

def claims : World Env Local → List (NextCall Input) → List (Option String)
  | _, [] => []
  | world, call :: calls => claimedId owner caller world call :: claims (afterCall executor owner caller world call) calls

/-- Every call runs to its end, at a clock that stands no earlier than `first`. -/
def Finished (first : String) : World Env Local → List (NextCall Input) → Prop
  | _, [] => True
  | world, call :: calls => first ≤ call.now ∧ ((afterCall executor owner caller world call).phases caller).atRest ∧
    Finished first (afterCall executor owner caller world call) calls

instance (first : String) : ∀ (world : World Env Local) (calls : List (NextCall Input)),
    Decidable (Finished executor owner caller first world calls)
  | _, [] => inferInstanceAs (Decidable True)
  | world, call :: calls =>
    have := instDecidableFinished first (afterCall executor owner caller world call) calls
    inferInstanceAs (Decidable (_ ∧ _ ∧ Finished executor owner caller first (afterCall executor owner caller world call) calls))

def raised {Local : Type} : Local ⊕ Option Answer → Bool
  | .inr none => true
  | _ => false

def Steady (waiting : List String) (world : World Env Local) : CallStep Input → Prop
  | .renew _ => True
  | .go input now _ => match world.phases caller with
    | .calling run call .stage state => raised (executor.proceed call run state input world.env).2 = false
    | .swapping run _ _ _ => ∀ other ∈ world.runs, other.id ∈ waiting → other.id ≠ run.id →
      RunStore.queueKey other < toLex (now,toLex (run.createdAt,run.id))
    | _ => True

instance (waiting : List String) (world : World Env Local) (step : CallStep Input) :
    Decidable (Steady executor caller waiting world step) := by
  unfold Steady
  repeat' split
  all_goals infer_instance

/-- In each of the calls but the last, every step is steady; a run waits until it is claimed. -/
def Rotates : World Env Local → List String → List (NextCall Input) → Prop
  | _, _, [] => True
  | world, waiting, call :: calls =>
    (calls.isEmpty = true ∨ Runs.Along (callTurn executor owner caller) (Steady executor caller waiting)
      (afterClaim executor owner caller world call) call.steps) ∧
    Rotates (afterCall executor owner caller world call) (waiting.erase ((claimedId owner caller world call).getD "")) calls

instance : ∀ (world : World Env Local) (waiting : List String) (calls : List (NextCall Input)),
    Decidable (Rotates executor owner caller world waiting calls)
  | _, _, [] => inferInstanceAs (Decidable True)
  | world, waiting, call :: calls =>
    have := instDecidableRotates (afterCall executor owner caller world call)
      (waiting.erase ((claimedId owner caller world call).getD "")) calls
    inferInstanceAs (Decidable ((_ ∨ _) ∧ Rotates executor owner caller (afterCall executor owner caller world call)
      (waiting.erase ((claimedId owner caller world call).getD "")) calls))

end

def placeOf (runs : List AutomationRun) (id : String) : String ×ₗ String ×ₗ String :=
  ((RunStore.getRun runs id).map RunStore.queueKey).getD (toLex ("",toLex ("","")))

section
variable {runs : List AutomationRun} (distinct : (runs.map (·.id)).Nodup) {run : AutomationRun} (member : run ∈ runs)
include distinct member

theorem getRun_eq :
    RunStore.getRun runs run.id = some run := by
  obtain ⟨found,first⟩ := Table.fetch_isSome (fun other : AutomationRun => other.id = run.id) member rfl
  have key := Table.fetch_selects first
  have same : found = run := Table.eq_of_key distinct (Table.fetch_mem first) member key
  exact same ▸ first

theorem placeOf_eq :
    placeOf runs run.id = RunStore.queueKey run := by
  rw [placeOf,getRun_eq distinct member]
  rfl

end

structure Sole (before after : List AutomationRun) (id : String) : Prop where
  distinct : (after.map (·.id)).Nodup
  others : ∀ row, row.id ≠ id → (row ∈ after ↔ row ∈ before)

section
variable {before after : List AutomationRun} {id : String}

theorem Sole.place (sole : Sole before after id) (distinct : (before.map (·.id)).Nodup) {other : String} (different : other ≠ id) :
    placeOf after other = placeOf before other := by
  by_cases present : ∃ row ∈ before, row.id = other
  · obtain ⟨row,member,rfl⟩ := present
    rw [placeOf_eq distinct member,placeOf_eq sole.distinct ((sole.others row different).mpr member)]
  · have absent : RunStore.getRun before other = none := Table.fetch_none.mpr fun row member same => present ⟨row,member,same⟩
    have gone : RunStore.getRun after other = none := by
      refine Table.fetch_none.mpr fun row member same => present ⟨row,?_,same⟩
      exact (sole.others row (same ▸ different)).mp member
    rw [placeOf,placeOf,absent,gone]

theorem Sole.update (sole : Sole before after id) {selects : AutomationRun → Prop} [DecidablePred selects]
    {set : AutomationRun → AutomationRun} (own : ∀ row, selects row → row.id = id) (kept : ∀ row, (set row).id = row.id) :
    Sole before (Table.update selects set after) id := by
  refine ⟨?_,fun row different => ?_⟩
  · rw [Table.map_update (fun run : AutomationRun => run.id) fun row _ => kept row]
    exact sole.distinct
  · rw [← sole.others row different,Table.mem_update]
    constructor
    · rintro ⟨old,member,rfl⟩
      split
      · rename_i chosen
        rw [if_pos chosen,kept] at different
        exact absurd (own old chosen) different
      · exact member
    · intro member
      exact ⟨row,member,if_neg fun chosen => different (own row chosen)⟩

end

section
variable {runs : List AutomationRun} {owner now expiry : String}

theorem claimNextActive_first (waits : ∃ run ∈ runs, RunStore.Eligible now run) : ∃ run ∈ runs, RunStore.Eligible now run ∧
    (∀ other ∈ runs, RunStore.Eligible now other → RunStore.queueKey run ≤ RunStore.queueKey other) ∧
    RunStore.claimNextActive runs owner now expiry = (some run.id,
      Table.update (fun row => row.id = run.id ∧ RunStore.leaseFree now row) (RunStore.claimed owner now expiry) runs) := by
  have total : Std.Total fun first second : AutomationRun => RunStore.queueKey first ≤ RunStore.queueKey second :=
    ⟨fun _ _ => le_total _ _⟩
  have trans : IsTrans AutomationRun fun first second => RunStore.queueKey first ≤ RunStore.queueKey second :=
    ⟨fun _ _ _ => le_trans⟩
  have ascending := List.pairwise_insertionSort (fun first second : AutomationRun => RunStore.queueKey first ≤ RunStore.queueKey second)
    (Table.select (RunStore.Eligible now) runs)
  have listed : ∀ run, run ∈ (Table.select (RunStore.Eligible now) runs).insertionSort
      (fun first second => RunStore.queueKey first ≤ RunStore.queueKey second) ↔ run ∈ runs ∧ RunStore.Eligible now run := by
    intro run
    rw [List.mem_insertionSort,Table.mem_select]
  unfold RunStore.claimNextActive
  generalize (Table.select (RunStore.Eligible now) runs).insertionSort
    (fun first second => RunStore.queueKey first ≤ RunStore.queueKey second) = queue at ascending listed ⊢
  cases queue with
  | nil =>
    obtain ⟨run,member,eligible⟩ := waits
    cases (listed run).mpr ⟨member,eligible⟩
  | cons run queue =>
    obtain ⟨member,eligible⟩ := (listed run).mp (List.mem_cons_self ..)
    refine ⟨run,member,eligible,fun other inside waits => ?_,rfl⟩
    rcases List.mem_cons.mp ((listed other).mpr ⟨inside,waits⟩) with rfl | later
    · exact le_refl _
    · exact (List.pairwise_cons.mp ascending).1 other later

theorem RunStore.Eligible.later {first : String} {run : AutomationRun} (eligible : RunStore.Eligible first run) (passed : first ≤ now) :
    RunStore.Eligible now run :=
  ⟨eligible.1,eligible.2.1.imp_right fun reached => reached.trans passed,
    eligible.2.2.imp_right fun free => free.imp_right fun halted => halted.trans_le passed⟩

end

/-- The run stands behind the runs that wait. -/
def Served (runs : List AutomationRun) (waiting : List String) (id : String) : Prop :=
  ∃ row ∈ runs, row.id = id ∧ ∀ other ∈ runs, other.id ∈ waiting → other.id ≠ id → RunStore.queueKey other < RunStore.queueKey row

def Current (runs : List AutomationRun) (run : AutomationRun) : Prop :=
  run.status.terminal = false ∧ ∃ row ∈ runs, row.id = run.id ∧ row.status = run.status ∧ row.createdAt = run.createdAt

def Purpose.allowed (purpose : Purpose) (run : AutomationRun) : Prop :=
  match purpose with
  | .stage => True
  | .cleanup => False
  | .release target _ | .report target _ _ => run.status.allows target

def Phase.turning {Local : Type} (runs : List AutomationRun) (waiting : List String) (id : String) : Phase Local → Prop
  | .idle => Served runs waiting id
  | .leaving other => other = id ∧ Served runs waiting id
  | .found _ _ => False
  | .claimed other task => other = id ∧ task = .advance ∧ ∃ row ∈ runs, row.id = id ∧ row.status.terminal = false
  | .calling run _ purpose _ => run.id = id ∧ Current runs run ∧ purpose.allowed run
  | .moving run target _ | .failing run target _ _ | .swapping run target _ _ =>
    run.id = id ∧ Current runs run ∧ run.status.allows target

theorem opening_ended {aoaEnabled : AutomationRun → Bool} {run : AutomationRun} (halted : opening aoaEnabled run = .ended) :
    run.status.terminal = true := by
  cases status : run.status <;> simp only [opening,RunStatus.stageCall,status,reduceCtorEq] at halted <;> rfl

structure Waits (before after : AutomationRun) : Prop where
  id : after.id = before.id
  status : after.status = before.status
  createdAt : after.createdAt = before.createdAt
  updatedAt : after.updatedAt = before.updatedAt

theorem Waits.place {before after : AutomationRun} (waits : Waits before after) :
    RunStore.queueKey after = RunStore.queueKey before := by
  simp only [RunStore.queueKey,waits.id,waits.createdAt,waits.updatedAt]

section
variable {runs : List AutomationRun} {waiting : List String} {id : String} {selects : AutomationRun → Prop}
  [DecidablePred selects] {set : AutomationRun → AutomationRun}

theorem updated_waits (waits : ∀ row, Waits row (set row)) (row : AutomationRun) : Waits row (if selects row then set row else row) := by
  split
  · exact waits row
  · exact ⟨rfl,rfl,rfl,rfl⟩

theorem Served.update (served : Served runs waiting id) (waits : ∀ row, Waits row (set row)) :
    Served (Table.update selects set runs) waiting id := by
  obtain ⟨row,member,named,behind⟩ := served
  have same : ∀ row, Waits row (if selects row then set row else row) := updated_waits waits
  refine ⟨_,Table.mem_update.mpr ⟨row,member,rfl⟩,(same row).id.trans named,?_⟩
  intro other inside waiting different
  obtain ⟨old,held,rfl⟩ := Table.mem_update.mp inside
  rw [(same old).place,(same row).place]
  rw [(same old).id] at waiting different
  exact behind old held waiting different

theorem Current.update {run : AutomationRun} (current : Current runs run) (waits : ∀ row, Waits row (set row)) :
    Current (Table.update selects set runs) run := by
  obtain ⟨unfinished,row,member,named,status,created⟩ := current
  have same : Waits row (if selects row then set row else row) := updated_waits waits row
  exact ⟨unfinished,_,Table.mem_update.mpr ⟨row,member,rfl⟩,same.id.trans named,same.status.trans status,same.createdAt.trans created⟩

theorem Phase.turning.update {Local : Type} {phase : Phase Local} (turning : phase.turning runs waiting id)
    (waits : ∀ row, Waits row (set row)) : phase.turning (Table.update selects set runs) waiting id := by
  cases phase with
  | idle => exact Served.update turning waits
  | leaving other => exact ⟨turning.1,turning.2.update waits⟩
  | found other task => exact turning
  | claimed other task =>
    obtain ⟨same,advance,row,member,named,unfinished⟩ := turning
    have kept : Waits row (if selects row then set row else row) := updated_waits waits row
    exact ⟨same,advance,_,Table.mem_update.mpr ⟨row,member,rfl⟩,kept.id.trans named,kept.status ▸ unfinished⟩
  | calling run call purpose state => exact ⟨turning.1,turning.2.1.update waits,turning.2.2⟩
  | moving run target columns => exact ⟨turning.1,turning.2.1.update waits,turning.2.2⟩
  | failing run target error reconcile => exact ⟨turning.1,turning.2.1.update waits,turning.2.2⟩
  | swapping run target columns reconcile => exact ⟨turning.1,turning.2.1.update waits,turning.2.2⟩

theorem Current.swap {run : AutomationRun} (current : Current runs run) {target : RunStatus}
    (allowed : run.status.allows target) (columns : Columns) (now : String)
    (behind : ∀ other ∈ runs, other.id ∈ waiting → other.id ≠ run.id →
      RunStore.queueKey other < toLex (now,toLex (run.createdAt,run.id))) :
    Served (RunStore.updateRunIfStatus runs run.id run.status target columns now).2 waiting run.id := by
  obtain ⟨_,row,member,named,status,created⟩ := current
  rw [RunStore.updateRunIfStatus,if_pos allowed]
  refine ⟨_,Table.mem_update.mpr ⟨row,member,if_pos ⟨named,status⟩⟩,named,?_⟩
  intro other inside waits different
  obtain ⟨old,held,rfl⟩ := Table.mem_update.mp inside
  have place : RunStore.queueKey (RunStore.written target columns now row) = toLex (now,toLex (run.createdAt,run.id)) := by
    rw [← named,← created]
    rfl
  rw [place]
  split at waits
  · rename_i chosen
    rw [if_pos chosen] at different
    exact absurd chosen.1 different
  · rename_i spared
    rw [if_neg spared] at different ⊢
    exact behind old held waits different

end

section
variable {Env Local Input : Type} {executor : Executor Env Local Input} {runs : List AutomationRun} {waiting : List String}
  {id : String} {run : AutomationRun}

theorem Current.ended (distinct : (runs.map (·.id)).Nodup) (current : Current runs run) : Automation.ended runs run.id = false := by
  obtain ⟨unfinished,row,member,named,status,_⟩ := current
  rw [Automation.ended,← named,getRun_eq distinct member]
  simp [status,unfinished]

section
variable (named : run.id = id) (current : Current runs run)
include named current

theorem turning_reporting {target : RunStatus} (allowed : run.status.allows target)
    (error : String) (reconcile : Bool) (now : String) :
    (reporting executor run target error reconcile now).turning runs waiting id := by
  unfold reporting
  split
  · exact ⟨named,current,allowed⟩
  · exact ⟨named,current,allowed⟩

theorem turning_begin :
    (begin executor run .advance).turning runs waiting id := by
  simp only [begin]
  split
  · rename_i halted
    have unfinished := current.1
    rw [opening_ended halted] at unfinished
    cases unfinished
  · rename_i target moved
    exact ⟨named,current,opening_allowed moved⟩
  · exact ⟨named,current,trivial⟩

theorem turning_afterAnswer {call : ExecutorCall} {purpose : Purpose}
    (allowed : purpose.allowed run) {answer : Option Answer} (answers : purpose = .stage → answer ≠ none) (now : String) :
    (afterAnswer executor run call now purpose answer).turning runs waiting id := by
  cases purpose with
  | stage =>
    cases answer with
    | none => exact absurd rfl (answers rfl)
    | some answer =>
      simp only [afterAnswer]
      split
      · exact ⟨named,current,.inl rfl⟩
      · rename_i target columns moved
        exact ⟨named,current,settle_allowed moved⟩
      · rename_i target error reconcile failed
        exact ⟨named,current,(settle_fail failed).2⟩
  | cleanup => exact allowed.elim
  | release target error => exact turning_reporting named current allowed error false now
  | report target error reconcile => exact ⟨named,current,allowed⟩

end

theorem answers_of_steady {Local : Type} {outcome : Local ⊕ Option Answer} {answer : Option Answer} (answered : outcome = .inr answer)
    (sound : raised outcome = false) : answer ≠ none := by
  rintro rfl
  rw [answered] at sound
  cases sound

variable {owner : String → String} {caller : String} {before : List AutomationRun}

structure Turning (caller : String) (before : List AutomationRun) (waiting : List String) (id : String) (world : World Env Local) :
    Prop where
  sole : Sole before world.runs id
  phase : (world.phases caller).turning world.runs waiting id

section
variable {world : World Env Local} (turning : Turning caller before waiting id world)
include turning

theorem Turning.go (input : Input) (now expiry : String)
    (steady : Steady executor caller waiting world (.go input now expiry)) :
    Turning caller before waiting id (pipelineStep executor owner (.go caller input now expiry) world) := by
  have lifted : ∀ next : Shared Env × Phase Local, Sole before next.1.runs id → next.2.turning next.1.runs waiting id →
      Turning caller before waiting id ⟨next.1,Function.update world.phases caller next.2⟩ := by
    intro next sole phase
    exact ⟨sole,by simpa using phase⟩
  obtain ⟨sole,phase⟩ := turning
  refine lifted _ ?_ ?_
  · -- a call writes the row of its own run
    cases held : world.phases caller with
    | idle => exact sole
    | found other task =>
      rw [held] at phase
      exact phase.elim
    | claimed other task =>
      simp only [proceed]
      split <;> exact sole
    | calling run call purpose state =>
      simp only [proceed]
      split <;> exact sole
    | moving run target columns => exact sole
    | failing run target error reconcile => exact sole
    | swapping run target columns reconcile =>
      rw [held] at phase
      simp only [proceed,RunStore.updateRunIfStatus]
      split
      · exact sole.update (fun row chosen => chosen.1.trans phase.1) fun _ => rfl
      · exact sole
    | leaving other =>
      rw [held] at phase
      exact sole.update (fun row chosen => chosen.1.trans phase.1) fun _ => rfl
  · cases held : world.phases caller with
    | idle =>
      rw [held] at phase
      exact phase
    | found other task =>
      rw [held] at phase
      exact phase.elim
    | claimed other task =>
      rw [held] at phase
      obtain ⟨rfl,rfl,row,member,named,unfinished⟩ := phase
      have found := getRun_eq sole.distinct member
      rw [named] at found
      simp only [proceed,found,unfinished]
      exact turning_begin named ⟨unfinished,row,member,rfl,rfl,rfl⟩
    | calling run call purpose state =>
      rw [held] at phase
      obtain ⟨named,current,allowed⟩ := phase
      simp only [proceed]
      split
      · exact ⟨named,current,allowed⟩
      · rename_i answer answered
        refine turning_afterAnswer named current allowed ?_ now
        rintro rfl
        simp only [Steady,held] at steady
        exact answers_of_steady answered steady
    | moving run target columns =>
      rw [held] at phase
      simp only [proceed,phase.2.1.ended sole.distinct]
      exact phase
    | failing run target error reconcile =>
      rw [held] at phase
      simp only [proceed,phase.2.1.ended sole.distinct]
      split
      · rename_i halted
        cases halted
      · split
        · exact turning_reporting phase.1 phase.2.1 phase.2.2 error reconcile now
        · exact phase
    | swapping run target columns reconcile =>
      rw [held] at phase
      obtain ⟨rfl,current,allowed⟩ := phase
      simp only [Steady,held] at steady
      exact ⟨rfl,current.swap allowed columns now steady⟩
    | leaving other =>
      rw [held] at phase
      exact phase.2.update fun _ => ⟨rfl,rfl,rfl,rfl⟩

theorem Turning.step (step : CallStep Input)
    (steady : Steady executor caller waiting world step) :
    Turning caller before waiting id (callTurn executor owner caller world step) := by
  cases step with
  | go input now expiry => exact turning.go input now expiry steady
  | renew expiry =>
    simp only [callTurn]
    split
    · exact turning
    · rename_i other holds
      have own : other = id := by
        have phase := turning.phase
        cases held : world.phases caller <;> rw [held] at holds phase <;> simp only [Phase.runId,reduceCtorEq,Option.some.injEq] at holds
        · exact phase.elim
        all_goals exact holds.symm.trans phase.1
      exact ⟨turning.sole.update (fun row chosen => chosen.1.trans own) fun _ => rfl,
        turning.phase.update fun _ => ⟨rfl,rfl,rfl,rfl⟩⟩

end

theorem atRest_idle {Local : Type} {phase : Phase Local} (rest : phase.atRest) : phase = .idle := by
  cases phase <;> first | rfl | exact rest.elim

theorem Turning.call {world : World Env Local} (distinct : (world.runs.map (·.id)).Nodup) (rest : (world.phases caller).atRest)
    {call : NextCall Input} {run : AutomationRun} (member : run ∈ world.runs) (eligible : RunStore.Eligible call.now run)
    (claim : RunStore.claimNextActive world.runs (owner caller) call.now call.expiry = (some run.id,
      Table.update (fun row => row.id = run.id ∧ RunStore.leaseFree call.now row)
        (RunStore.claimed (owner caller) call.now call.expiry) world.runs))
    (steady : Runs.Along (callTurn executor owner caller) (Steady executor caller waiting)
      (afterClaim executor owner caller world call) call.steps)
    (halted : ((afterCall executor owner caller world call).phases caller).atRest) :
    Sole world.runs (afterCall executor owner caller world call).runs run.id ∧
      Served (afterCall executor owner caller world call).runs waiting run.id := by
  have opened : Turning caller world.runs waiting run.id (afterClaim executor owner caller world call) := by
    simp only [afterClaim,pipelineStep,claim,opens,atRest_idle rest]
    refine ⟨Sole.update ⟨distinct,fun _ _ => .rfl⟩ (fun row chosen => chosen.1) fun _ => rfl,?_⟩
    simp only [Function.update_self]
    exact ⟨rfl,rfl,_,Table.mem_update.mpr ⟨run,member,if_pos ⟨rfl,eligible.2.2⟩⟩,rfl,eligible.1⟩
  have ended := Runs.foldl_invariant (Turning caller world.runs waiting run.id)
    (fun world step turning steady => turning.step step steady) call.steps opened steady
  refine ⟨ended.sole,?_⟩
  have phase := ended.phase
  rw [show (call.steps.foldl (callTurn executor owner caller) (afterClaim executor owner caller world call)).phases caller = .idle
    from atRest_idle halted] at phase
  exact phase

theorem calls_turn {first : String} {calls : List (NextCall Input)} {world : World Env Local} {waiting : List String}
    (distinct : (world.runs.map (·.id)).Nodup) (rest : (world.phases caller).atRest) (nodup : waiting.Nodup)
    (waits : ∀ id ∈ waiting, ∃ run ∈ world.runs, run.id = id ∧ RunStore.Eligible first run)
    (enough : calls.length ≤ waiting.length) (finished : Finished executor owner caller first world calls)
    (rotates : Rotates executor owner caller world waiting calls) :
    ∃ ids, claims executor owner caller world calls = ids.map some ∧ Rotation.Turns (placeOf world.runs) waiting ids := by
  induction calls generalizing world waiting with
  | nil => exact ⟨[],rfl,.none _ _⟩
  | cons call calls ih =>
    obtain ⟨passed,halted,finished⟩ := finished
    obtain ⟨steady,rotates⟩ := rotates
    obtain ⟨id,listed⟩ := List.exists_mem_of_ne_nil waiting
      (List.ne_nil_of_length_pos (Nat.lt_of_lt_of_le (Nat.succ_pos _) enough))
    obtain ⟨oldest,present,_,eligible⟩ := waits id listed
    obtain ⟨run,member,eligible,least,claim⟩ := @claimNextActive_first world.runs (owner caller) call.now call.expiry
      ⟨oldest,present,eligible.later passed⟩
    have claimed : claimedId owner caller world call = some run.id := by rw [claimedId,claim]
    have front : ∀ other ∈ waiting, placeOf world.runs run.id ≤ placeOf world.runs other := by
      intro other waiting
      obtain ⟨row,inside,rfl,eligible⟩ := waits other waiting
      rw [placeOf_eq distinct member,placeOf_eq distinct inside]
      exact least row inside (eligible.later passed)
    rcases steady with last | steady
    · rw [List.isEmpty_iff.mp last]
      exact ⟨[run.id],by simp [claims,claimed],.last front⟩
    · obtain ⟨sole,served⟩ := Turning.call distinct rest member eligible claim steady halted
      rw [claimed,Option.getD_some] at rotates
      have later : ∀ id ∈ waiting.erase run.id, ∃ row ∈ (afterCall executor owner caller world call).runs,
          row.id = id ∧ RunStore.Eligible first row := by
        intro id left
        obtain ⟨different,waiting⟩ := nodup.mem_erase_iff.mp left
        obtain ⟨row,inside,rfl,eligible⟩ := waits id waiting
        exact ⟨row,(sole.others row different).mpr inside,rfl,eligible⟩
      have length : (waiting.erase run.id).length = _ := List.length_erase
      have enough : calls.length ≤ (waiting.erase run.id).length := by
        rw [List.length_cons] at enough
        split at length <;> omega
      obtain ⟨ids,taken,turns⟩ := ih sole.distinct halted (nodup.erase run.id) later enough finished rotates
      refine ⟨run.id::ids,by rw [claims,claimed,taken,List.map_cons],.turn front (fun other different => sole.place distinct different) ?_ turns⟩
      intro other waiting different
      obtain ⟨row,inside,rfl,_⟩ := waits other waiting
      obtain ⟨own,written,named,behind⟩ := served
      have kept := (sole.others row different).mpr inside
      rw [placeOf_eq sole.distinct kept,← named,placeOf_eq sole.distinct written]
      exact behind row kept waiting different

end

/-- As many consecutive calls of `advance_next` as there were eligible runs claim different runs, as long as in all but the last
the stage returns and is written with a time that puts its run behind those not claimed yet. -/
theorem calls_claim_different {Env Local Input : Type} (executor : Executor Env Local Input) (owner : String → String)
    (caller first : String) (world : World Env Local) (calls : List (NextCall Input))
    (distinct : (world.runs.map (·.id)).Nodup) (rest : (world.phases caller).atRest)
    (count : calls.length = (Table.select (RunStore.Eligible first) world.runs).length)
    (finished : Finished executor owner caller first world calls)
    (rotates : Rotates executor owner caller world ((Table.select (RunStore.Eligible first) world.runs).map (·.id)) calls) :
    ∃ ids : List String, claims executor owner caller world calls = ids.map some ∧ ids.Nodup := by
  have nodup : ((Table.select (RunStore.Eligible first) world.runs).map (·.id)).Nodup :=
    distinct.sublist (List.filter_sublist.map _)
  have waits : ∀ id ∈ (Table.select (RunStore.Eligible first) world.runs).map (·.id),
      ∃ run ∈ world.runs, run.id = id ∧ RunStore.Eligible first run := by
    intro id listed
    obtain ⟨run,chosen,named⟩ := List.mem_map.mp listed
    obtain ⟨member,eligible⟩ := Table.mem_select.mp chosen
    exact ⟨run,member,named,eligible⟩
  have enough : calls.length ≤ ((Table.select (RunStore.Eligible first) world.runs).map (·.id)).length := by
    rw [List.length_map,count]
  obtain ⟨ids,taken,turns⟩ := calls_turn distinct rest nodup waits enough finished rotates
  refine ⟨ids,taken,turns.distinct nodup ?_⟩
  have lengths := congrArg List.length taken
  have all : ∀ (calls : List (NextCall Input)) world, (claims executor owner caller world calls).length = calls.length := by
    intro calls
    induction calls with
    | nil => exact fun _ => rfl
    | cons call calls ih => exact fun world => congrArg Nat.succ (ih _)
  rw [all,List.length_map] at lengths
  rw [← lengths]
  exact enough

def polledRun (id updatedAt : String) : AutomationRun :=
  {({} : RunRequest).toRunDict id "t0" with
    status := .testRunning
    currentStage := .testRunning
    clusterJobId := "job-1"
    updatedAt := updatedAt}

def polledQueue : World Unit Unit := ⟨⟨[polledRun "run-1" "t1",polledRun "run-2" "t2"],(),[]⟩,fun _ => .idle⟩

def pollCall (answer : Option Answer) (now : String) : NextCall (Option Answer) := ⟨now,"z",List.replicate 4 (.go answer now "z")⟩

theorem calls_claim_different_polled : ∃ ids : List String,
    claims scripted id "worker" polledQueue [pollCall (some {success := .truthy, running := .truthy}) "t3",
      pollCall (some {success := .truthy, running := .truthy}) "t4"] = ids.map some ∧ ids.Nodup :=
  calls_claim_different scripted id "worker" "t3" polledQueue _ (by decide +kernel) trivial (by decide +kernel) (by decide +kernel)
    (by decide +kernel)

/-- The poll of the first run raises, as `raise_for_status` does on an error response: the second
call claims the same run again. -/
theorem raising_stage_claimed_again : ¬ ∀ (world : World Unit Unit) (first : String) (calls : List (NextCall (Option Answer))),
    (world.runs.map (·.id)).Nodup → (world.phases "worker").atRest →
    calls.length = (Table.select (RunStore.Eligible first) world.runs).length → Finished scripted id "worker" first world calls →
    ∃ ids : List String, claims scripted id "worker" world calls = ids.map some ∧ ids.Nodup := by
  intro always
  obtain ⟨ids,taken,distinct⟩ := always polledQueue "t3" [pollCall none "t3",pollCall none "t4"] (by decide +kernel) trivial
    (by decide +kernel) (by decide +kernel)
  have same : claims scripted id "worker" polledQueue [pollCall none "t3",pollCall none "t4"] = [some "run-1",some "run-1"] := by
    decide +kernel
  have twice : ids.map some = ["run-1","run-1"].map some := taken.symm.trans same
  rw [List.map_injective_iff.mpr (Option.some_injective _) twice] at distinct
  revert distinct
  decide

end GmsRemoteTest.Automation
