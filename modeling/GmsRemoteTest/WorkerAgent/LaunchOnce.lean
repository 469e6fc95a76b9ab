import GmsRemoteTest.WorkerAgent.Handling

/-! How often a delivered command takes effect, over every interleaving of deliveries, threads,
crashes and restarts. -/
namespace GmsRemoteTest.WorkerAgent
open Cluster

def Recorded (db : WorkerDb) (id : String) : Prop := previousCommand db id ≠ none

instance (db : WorkerDb) (id : String) : Decidable (Recorded db id) :=
  inferInstanceAs (Decidable (previousCommand db id ≠ none))

def Grows (before after : WorkerDb) : Prop := ∀ id, Recorded before id → Recorded after id

theorem recorded_iff {db : WorkerDb} {id : String} : Recorded db id ↔ ∃ row ∈ db.commands, row.id = id := by
  unfold Recorded previousCommand
  rw [ne_eq,Table.fetch_none]
  push Not
  rfl

theorem Grows.refl (db : WorkerDb) : Grows db db := fun _ recorded => recorded

theorem Grows.trans {first second third : WorkerDb} (left : Grows first second) (right : Grows second third) :
    Grows first third := fun id recorded => right id (left id recorded)

theorem Grows.of_commands {before after : WorkerDb} (same : after.commands = before.commands) : Grows before after := by
  intro id recorded
  rw [recorded_iff] at recorded ⊢
  rwa [same]

theorem Grows.of_update {before after : WorkerDb} {selects : CommandRow → Prop} [DecidablePred selects]
    {set : CommandRow → CommandRow} (kept : ∀ row, (set row).id = row.id)
    (same : after.commands = Table.update selects set before.commands) : Grows before after := by
  intro id recorded
  rw [recorded_iff] at recorded ⊢
  obtain ⟨row,member,named⟩ := recorded
  refine ⟨if selects row then set row else row,same ▸ Table.mem_update.mpr ⟨row,member,rfl⟩,?_⟩
  split
  · exact (kept row).trans named
  · exact named

section
variable (db : WorkerDb) (id : String) (status : CommandStatus) (result : CommandResult) (error : String)

theorem saveCommand_grows :
    Grows db (saveCommand db id status result error) := by
  unfold saveCommand
  cases previousCommand db id with
  | none =>
    intro other recorded
    rw [recorded_iff] at recorded ⊢
    obtain ⟨row,member,named⟩ := recorded
    exact ⟨row,List.mem_append_left _ member,named⟩
  | some row =>
    refine Grows.of_update ?_ rfl
    intro row
    rfl

theorem saveCommand_recorded :
    Recorded (saveCommand db id status result error) id := by
  cases found : previousCommand db id with
  | none =>
    rw [recorded_iff]
    refine ⟨⟨id,status,result,error,false⟩,?_,rfl⟩
    simp [saveCommand,found]
  | some row =>
    apply saveCommand_grows
    rw [Recorded,found]
    exact Option.some_ne_none row

end

theorem ackCommand_grows (db : WorkerDb) (id : String) (delivered : Bool) : Grows db (ackCommand db id delivered) := by
  unfold ackCommand
  split
  · refine Grows.of_update ?_ rfl
    intro row
    rfl
  · exact .refl db

theorem revokeSuperseded_commands (db : WorkerDb) (attempts : List String) :
    (revokeSuperseded db attempts).commands = db.commands := by
  unfold revokeSuperseded
  induction attempts generalizing db with
  | nil => rfl
  | cons attempt attempts ih =>
    rw [List.foldl_cons,ih]
    split <;> rfl

theorem releaseAttemptFencing_commands (db : WorkerDb) (attemptId : String) :
    (releaseAttemptFencing db attemptId).commands = db.commands := by
  unfold releaseAttemptFencing
  split <;> rfl

theorem releaseFencing_grows (db : WorkerDb) (command : Delivery) : Grows db (releaseFencing db command) := .of_commands rfl

def Stage.early : Stage → Prop
  | .received | .admitted _ | .validated => True
  | _ => False

def Stage.late : Stage → Prop
  | .saved | .acknowledged => True
  | _ => False

inductive Effect (agent after : Agent) : Prop
  | quiet (grows : Grows agent.db after.db) (handling : after.handling = agent.handling) (threads : after.threads = agent.threads)
      (launched : after.launched = agent.launched) (executed : after.executed = agent.executed)
  | receives (command : Delivery) (idle : agent.handling = none) (unknown : ¬ Recorded agent.db command.id)
      (same : after = {agent with handling := some (command,.received)})
  | moves (command : Delivery) (stage next : Stage) (held : agent.handling = some (command,stage)) (grows : Grows agent.db after.db)
      (handling : after.handling = some (command,next)) (early : next.early → stage.early)
      (late : next.late → stage.late ∨ Recorded after.db command.id) (threads : after.threads = agent.threads)
      (launched : after.launched = agent.launched) (executed : after.executed = agent.executed)
  | launches (command : Delivery) (pid : Nat) (held : agent.handling = some (command,.validated))
      (same : after = {agent with launched := agent.launched++[command.id], handling := some (command,.launched pid)})
  | starts (command : Delivery) (held : agent.handling = some (command,.acknowledged))
      (same : after = {agent with threads := agent.threads++[command], handling := none})
  | finishes (command : Delivery) (stage : Stage) (held : agent.handling = some (command,stage)) (grows : Grows agent.db after.db)
      (recorded : stage.late ∨ Recorded after.db command.id) (handling : after.handling = none)
      (threads : after.threads = agent.threads) (launched : after.launched = agent.launched)
      (executed : after.executed = agent.executed)
  | works (command : Delivery) (member : command ∈ agent.threads) (same : after = work agent command)

section
variable {config : WorkerConfig} {agent : Agent}

theorem handle_effect (command : Delivery) (delivered : Bool) (idle : agent.handling = none) :
    Effect agent (handle agent command delivered) := by
  unfold handle
  cases found : previousCommand agent.db command.id with
  | none =>
    refine .receives command idle ?_ rfl
    rw [Recorded,found]
    exact not_not.mpr rfl
  | some previous =>
    refine .quiet ?_ rfl rfl rfl rfl
    dsimp only
    split
    · exact (releaseFencing_grows _ _).trans (ackCommand_grows _ _ _)
    · exact ackCommand_grows _ _ _

theorem dispatch_effect {command : Delivery} (held : agent.handling = some (command,.validated)) (outcome : Except String Nat) :
    Effect agent (dispatch agent command outcome) := by
  have saved : ∀ status, Effect agent
      {agent with db := saveCommand agent.db command.id status {} "", handling := some (command,.saved)} := fun status =>
    .moves command .validated .saved held (saveCommand_grows _ _ _ _ _) rfl (fun early => nomatch early)
      (fun _ => .inr (saveCommand_recorded _ _ _ _ _)) rfl rfl rfl
  have raised : ∀ error, Effect agent {agent with handling := some (command,.raised error)} := fun error =>
    .moves command .validated (.raised error) held (.refl _) rfl (fun early => nomatch early) (fun late => nomatch late) rfl rfl rfl
  unfold dispatch
  cases command.route with
  | background => exact saved .running
  | start => cases outcome with
    | error error => exact raised error
    | ok pid => exact .launches command pid held rfl
  | inline => cases outcome with
    | error error => exact raised error
    | ok _ => exact saved .completed

theorem startThread_effect {command : Delivery} (held : agent.handling = some (command,.acknowledged)) :
    Effect agent (startThread agent command) := by
  unfold startThread
  cases command.route with
  | background => exact .starts command held rfl
  | start | inline => exact .finishes command .acknowledged held (.refl _) (.inl trivial) rfl rfl rfl rfl

theorem proceed_effect {command : Delivery} {stage : Stage} (held : agent.handling = some (command,stage))
    (outcome : Except String Nat) : Effect agent (proceed config agent command outcome stage) := by
  have raised : ∀ error, Effect agent {agent with handling := some (command,.raised error)} := fun error =>
    .moves command stage (.raised error) held (.refl _) rfl (fun early => nomatch early) (fun late => nomatch late) rfl rfl rfl
  cases stage with
  | received =>
    dsimp only [proceed]
    split
    · exact raised _
    · split
      · exact raised _
      · exact .moves command .received _ held (.of_commands rfl) rfl (fun _ => trivial) (fun late => nomatch late) rfl rfl rfl
  | admitted revoked =>
    exact .moves command _ .validated held (.of_commands (revokeSuperseded_commands _ _)) rfl (fun _ => trivial)
      (fun late => nomatch late) rfl rfl rfl
  | validated => exact dispatch_effect held outcome
  | launched pid => cases outcome with
    | error error => exact raised error
    | ok _ =>
      exact .moves command _ .recorded held (.of_commands rfl) rfl (fun early => nomatch early) (fun late => nomatch late)
        rfl rfl rfl
  | recorded =>
    exact .moves command _ .saved held (saveCommand_grows _ _ _ _ _) rfl (fun early => nomatch early)
      (fun _ => .inr (saveCommand_recorded _ _ _ _ _)) rfl rfl rfl
  | saved =>
    exact .moves command _ .acknowledged held (ackCommand_grows _ _ _) rfl (fun early => nomatch early)
      (fun _ => .inl trivial) rfl rfl rfl
  | acknowledged => cases outcome with
    | error error => exact raised error
    | ok _ => exact startThread_effect held
  | raised error =>
    have saved := saveCommand_grows agent.db command.id .failed {} error
    have recorded := saveCommand_recorded agent.db command.id .failed {} error
    dsimp only [proceed]
    split
    · have further := (releaseFencing_grows (saveCommand agent.db command.id .failed {} error) command).trans
        (ackCommand_grows _ command.id outcome.isOk)
      exact .finishes command _ held (saved.trans further) (.inr (further _ recorded)) rfl rfl rfl rfl
    · have further := ackCommand_grows (saveCommand agent.db command.id .failed {} error) command.id outcome.isOk
      exact .finishes command _ held (saved.trans further) (.inr (further _ recorded)) rfl rfl rfl rfl

theorem report_effect (command : Delivery) (status : CommandStatus) (error : String) :
    Effect agent (report agent command status error) := by
  have saved := saveCommand_grows agent.db command.id status {} error
  unfold report
  dsimp only
  split
  · split
    · exact .quiet (saved.trans (releaseFencing_grows _ _)) rfl rfl rfl rfl
    · exact .quiet saved rfl rfl rfl rfl
  · exact .quiet saved rfl rfl rfl rfl

theorem bootStep_effect (alive : JobRow → Bool) : Effect agent (bootStep agent alive) := by
  unfold bootStep
  cases agent.boot with
  | pruning | recovering => exact .quiet (.of_commands rfl) rfl rfl rfl rfl
  | interrupting =>
    refine .quiet ?_ rfl rfl rfl rfl
    refine Grows.of_update ?_ rfl
    intro row
    rfl
  | up => exact .quiet (.refl _) rfl rfl rfl rfl

theorem agentStep_effect {step : AgentStep} (live : step ≠ .crash) : Effect agent (agentStep config step agent) := by
  have idle : Effect agent agent := .quiet (.refl _) rfl rfl rfl rfl
  cases step with
  | deliver command delivered =>
    dsimp only [agentStep]
    split
    · rename_i ready
      exact handle_effect command delivered ready.2
    · exact idle
  | proceed outcome =>
    dsimp only [agentStep]
    cases held : agent.handling with
    | none => exact idle
    | some current => exact proceed_effect held outcome
  | work command =>
    dsimp only [agentStep]
    split
    · rename_i member
      exact .works command member rfl
    · exact idle
  | report command status error =>
    dsimp only [agentStep]
    split
    · exact report_effect command status error
    · exact idle
  | exit workerJobId status error => exact .quiet (.of_commands rfl) rfl rfl rfl rfl
  | settle job status error =>
    dsimp only [agentStep]
    split
    · refine .quiet ?_ rfl rfl rfl rfl
      exact (saveCommand_grows _ _ _ _ _).trans (.of_commands (releaseAttemptFencing_commands _ _))
    · exact idle
  | crash => exact absurd rfl live
  | boot alive => exact bootStep_effect alive

structure RunsOnce (agent : Agent) : Prop where
  started : ∀ command ∈ agent.threads, Recorded agent.db command.id
  ran : ∀ id ∈ agent.executed, Recorded agent.db id
  distinct : (agent.threads.map (·.id)++agent.executed).Nodup
  handled : ∀ command stage, agent.handling = some (command,stage) → command.id ∉ agent.threads.map (·.id)++agent.executed
  saved : ∀ command stage, agent.handling = some (command,stage) → stage.late → Recorded agent.db command.id

theorem RunsOnce.recorded (once : RunsOnce agent) {id : String} (member : id ∈ agent.threads.map (·.id)++agent.executed) :
    Recorded agent.db id := by
  rcases List.mem_append.mp member with thread | done
  · obtain ⟨command,present,rfl⟩ := List.mem_map.mp thread
    exact once.started command present
  · exact once.ran id done

theorem RunsOnce.grown (once : RunsOnce agent) {after : Agent} (grows : Grows agent.db after.db) (threads : after.threads = agent.threads)
    (executed : after.executed = agent.executed)
    (handled : ∀ command stage, after.handling = some (command,stage) → command.id ∉ agent.threads.map (·.id)++agent.executed)
    (saved : ∀ command stage, after.handling = some (command,stage) → stage.late → Recorded after.db command.id) : RunsOnce after := by
  refine ⟨?_,?_,?_,?_,saved⟩
  · rw [threads]
    exact fun command member => grows _ (once.started command member)
  · rw [executed]
    exact fun id member => grows _ (once.ran id member)
  · rw [threads,executed]
    exact once.distinct
  · rw [threads,executed]
    exact handled

theorem RunsOnce.effect (once : RunsOnce agent) {after : Agent} (effect : Effect agent after) : RunsOnce after := by
  cases effect with
  | quiet grows handling threads launched executed =>
    refine once.grown grows threads executed ?_ ?_
    · rw [handling]
      exact once.handled
    · rw [handling]
      exact fun command stage held late => grows _ (once.saved command stage held late)
  | receives command idle unknown same =>
    subst same
    refine ⟨once.started,once.ran,once.distinct,?_,?_⟩
    · rintro other stage held member
      cases held
      exact unknown (once.recorded member)
    · rintro other stage held late
      cases held
      cases late
  | moves command stage next held grows handling early late threads launched executed =>
    refine once.grown grows threads executed ?_ ?_
    · rw [handling]
      rintro other later here
      cases here
      exact once.handled command stage held
    · rw [handling]
      rintro other later here
      cases here
      intro reached
      rcases late reached with before | recorded
      · exact grows _ (once.saved command stage held before)
      · exact recorded
  | launches command pid held same =>
    subst same
    refine ⟨once.started,once.ran,once.distinct,?_,?_⟩
    · rintro other stage here
      cases here
      exact once.handled command _ held
    · rintro other stage here late
      cases here
      cases late
  | starts command held same =>
    subst same
    have fresh := once.handled command _ held
    refine ⟨?_,once.ran,?_,fun _ _ none => (by cases none),fun _ _ none => (by cases none)⟩
    · intro other member
      rcases List.mem_append.mp member with old | new
      · exact once.started other old
      · exact List.mem_singleton.mp new ▸ once.saved command _ held trivial
    · have moved : ((agent.threads++[command]).map (·.id)++agent.executed).Perm
          (command.id::(agent.threads.map (·.id)++agent.executed)) := by
        simp
      exact moved.nodup_iff.mpr (List.nodup_cons.mpr ⟨fresh,once.distinct⟩)
  | finishes command stage held grows recorded handling threads launched executed =>
    refine once.grown grows threads executed ?_ ?_
    · rw [handling]
      exact fun _ _ none => (by cases none)
    · rw [handling]
      exact fun _ _ none => (by cases none)
  | works command member same =>
    subst same
    have moved : ((agent.threads.erase command).map (·.id)++(agent.executed++[command.id])).Perm
        (agent.threads.map (·.id)++agent.executed) := by
      have taken : (agent.threads.map (·.id)).Perm (command.id::(agent.threads.erase command).map (·.id)) :=
        (List.perm_cons_erase member).map (·.id)
      have shifted : ((agent.threads.erase command).map (·.id)++(agent.executed++[command.id])).Perm
          (command.id::((agent.threads.erase command).map (·.id)++agent.executed)) := by
        rw [← List.append_assoc]
        exact List.perm_append_singleton _ _
      exact shifted.trans (taken.symm.append_right agent.executed)
    refine ⟨?_,?_,moved.nodup_iff.mpr once.distinct,?_,once.saved⟩
    · exact fun other present => once.started other (List.mem_of_mem_erase present)
    · intro id present
      rcases List.mem_append.mp present with old | new
      · exact once.ran id old
      · exact List.mem_singleton.mp new ▸ once.started command member
    · intro other stage held present
      exact once.handled other stage held (moved.mem_iff.mp present)

theorem RunsOnce.step (once : RunsOnce agent) (step : AgentStep) : RunsOnce (agentStep config step agent) := by
  by_cases crashed : step = .crash
  · subst crashed
    refine ⟨fun _ member => (nomatch member),once.ran,?_,fun _ _ none => (by cases none),fun _ _ none => (by cases none)⟩
    exact (List.nodup_append.mp once.distinct).2.1
  · exact once.effect (agentStep_effect crashed)

def Exposed (agent : Agent) : Prop :=
  ∃ current ∈ agent.handling, current.1.id ∈ agent.launched ∧ ¬ Recorded agent.db current.1.id

instance (agent : Agent) : Decidable (Exposed agent) :=
  inferInstanceAs (Decidable (∃ current ∈ agent.handling, current.1.id ∈ agent.launched ∧ ¬ Recorded agent.db current.1.id))

/-- No crash falls between a launch and the row of its command. -/
def Covered (agent : Agent) : AgentStep → Prop
  | .crash => ¬ Exposed agent
  | _ => True

instance (agent : Agent) : ∀ step, Decidable (Covered agent step)
  | .crash => inferInstanceAs (Decidable (¬ Exposed agent))
  | .deliver _ _ | .proceed _ | .work _ | .report _ _ _ | .exit _ _ _ | .settle _ _ _ | .boot _ => isTrue trivial

structure LaunchesOnce (agent : Agent) : Prop where
  distinct : agent.launched.Nodup
  known : ∀ id ∈ agent.launched, Recorded agent.db id ∨ ∃ command stage, agent.handling = some (command,stage) ∧ command.id = id
  fresh : ∀ command stage, agent.handling = some (command,stage) → stage.early → command.id ∉ agent.launched

theorem LaunchesOnce.effect (launches : LaunchesOnce agent) (once : RunsOnce agent) {after : Agent} (effect : Effect agent after) :
    LaunchesOnce after := by
  cases effect with
  | quiet grows handling threads launched executed =>
    refine ⟨launched ▸ launches.distinct,?_,?_⟩
    · rw [launched,handling]
      exact fun id member => (launches.known id member).imp_left (grows id)
    · rw [launched,handling]
      exact launches.fresh
  | receives command idle unknown same =>
    subst same
    have absent : command.id ∉ agent.launched := by
      intro member
      rcases launches.known command.id member with recorded | ⟨other,stage,held,_⟩
      · exact unknown recorded
      · rw [idle] at held
        cases held
    refine ⟨launches.distinct,?_,?_⟩
    · intro id member
      rcases launches.known id member with recorded | ⟨other,stage,held,_⟩
      · exact .inl recorded
      · rw [idle] at held
        cases held
    · rintro other stage held _
      cases held
      exact absent
  | moves command stage next held grows handling early late threads launched executed =>
    refine ⟨launched ▸ launches.distinct,?_,?_⟩
    · rw [launched,handling]
      intro id member
      rcases launches.known id member with recorded | ⟨other,at_,here,named⟩
      · exact .inl (grows id recorded)
      · rw [held] at here
        cases here
        exact .inr ⟨command,next,rfl,named⟩
    · rw [launched,handling]
      rintro other later here before
      cases here
      exact launches.fresh command stage held (early before)
  | launches command pid held same =>
    subst same
    have absent := launches.fresh command _ held trivial
    refine ⟨?_,?_,?_⟩
    · exact (List.perm_append_singleton command.id agent.launched).nodup_iff.mpr
        (List.nodup_cons.mpr ⟨absent,launches.distinct⟩)
    · intro id member
      rcases List.mem_append.mp member with old | new
      · rcases launches.known id old with recorded | ⟨other,stage,here,named⟩
        · exact .inl recorded
        · rw [held] at here
          cases here
          exact .inr ⟨command,_,rfl,named⟩
      · exact .inr ⟨command,_,rfl,(List.mem_singleton.mp new).symm⟩
    · rintro other stage here early
      cases here
      cases early
  | starts command held same =>
    subst same
    refine ⟨launches.distinct,?_,fun _ _ none => (by cases none)⟩
    intro id member
    rcases launches.known id member with recorded | ⟨other,stage,here,named⟩
    · exact .inl recorded
    · rw [held] at here
      cases here
      exact .inl (named ▸ once.saved command _ held trivial)
  | finishes command stage held grows recorded handling threads launched executed =>
    refine ⟨launched ▸ launches.distinct,?_,?_⟩
    · rw [launched,handling]
      intro id member
      rcases launches.known id member with before | ⟨other,at_,here,named⟩
      · exact .inl (grows id before)
      · rw [held] at here
        cases here
        rcases recorded with late | written
        · exact .inl (named ▸ grows _ (once.saved command stage held late))
        · exact .inl (named ▸ written)
    · rw [handling]
      exact fun _ _ none => (by cases none)
  | works command member same =>
    subst same
    exact ⟨launches.distinct,launches.known,launches.fresh⟩

theorem LaunchesOnce.step (launches : LaunchesOnce agent) (once : RunsOnce agent) (step : AgentStep)
    (covered : Covered agent step) : LaunchesOnce (agentStep config step agent) := by
  by_cases crashed : step = .crash
  · subst crashed
    refine ⟨launches.distinct,?_,fun _ _ none => (by cases none)⟩
    intro id member
    rcases launches.known id member with recorded | ⟨command,stage,held,named⟩
    · exact .inl recorded
    · by_contra lost
      have bare : ¬ Recorded agent.db command.id := fun recorded => lost (.inl (named ▸ recorded))
      exact covered ⟨_,held,named ▸ member,bare⟩
  · exact launches.effect once (agentStep_effect crashed)

end

theorem runsOnce_start : RunsOnce {} :=
  ⟨fun _ member => (nomatch member),fun _ member => (nomatch member),List.nodup_nil,fun _ _ none => (by cases none),
    fun _ _ none => (by cases none)⟩

theorem launchesOnce_start : LaunchesOnce {} :=
  ⟨List.nodup_nil,fun _ member => (nomatch member),fun _ _ none => (by cases none)⟩

/-- In whatever order deliveries, redeliveries, crashes and restarts come, a background command is executed at most once; and the
process of a start_test is launched at most once where no crash falls between a launch and the row of its command. -/
theorem delivered_command_takes_effect_once (config : WorkerConfig) (agent : Agent) (id : String) :
    (Runs.Reached (agentStep config) (fun _ _ => True) {} agent → agent.executed.count id ≤ 1) ∧
    (Runs.Reached (agentStep config) Covered {} agent → agent.launched.count id ≤ 1) := by
  constructor
  · intro reached
    have once : RunsOnce agent := reached.invariant _ runsOnce_start fun _ step holds _ => holds.step step
    exact List.nodup_iff_count_le_one.mp (List.nodup_append.mp once.distinct).2.1 id
  · intro reached
    have both : RunsOnce agent ∧ LaunchesOnce agent := by
      refine reached.invariant (fun agent => RunsOnce agent ∧ LaunchesOnce agent) ⟨runsOnce_start,launchesOnce_start⟩ ?_
      intro before step holds covered
      exact ⟨holds.1.step step,holds.2.step holds.1 step covered⟩
    exact List.nodup_iff_count_le_one.mp both.2.distinct id

def startDelivery : Delivery :=
  { id := "c1", kind := .startTest, jobId := "j1", attemptId := "a1", devices := ["w:ABC"]
    leaseTokens := [⟨"w:ABC","claim-1","a1",1⟩] }

def restart : List AgentStep := [.boot fun _ => true,.boot fun _ => true,.boot fun _ => true]

def proceeds (count : Nat) : List AgentStep := List.replicate count (.proceed (.ok 7))

theorem delivered_command_takes_effect_once_redelivered :
    let steps := restart++[.deliver startDelivery true]++proceeds 5++[.crash]++restart++[.deliver startDelivery true]
    let agent := Runs.exec (agentStep ⟨"w",true⟩) {} steps
    agent.launched = ["c1"] ∧ agent.launched.count "c1" ≤ 1 := by
  intro steps agent
  have reached : Runs.Reached (agentStep ⟨"w",true⟩) Covered {} agent := Runs.Reached.start.along steps (by decide +kernel)
  exact ⟨by decide +kernel,(delivered_command_takes_effect_once ⟨"w",true⟩ agent "c1").2 reached⟩

/-- The process stops between the launch and the row of the command: the redelivered command launches again. -/
theorem redelivered_test_launches_twice :
    ¬ ∀ (config : WorkerConfig) (steps : List AgentStep) (id : String),
      (Runs.exec (agentStep config) {} steps).launched.count id ≤ 1 ∧
      (Runs.exec (agentStep config) {} steps).executed.count id ≤ 1 := by
  intro always
  have once := (always ⟨"w",true⟩ (restart++[.deliver startDelivery true]++proceeds 4++[.crash]++restart++
    [.deliver startDelivery true]++proceeds 3) "c1").1
  revert once
  decide +kernel

end GmsRemoteTest.WorkerAgent
