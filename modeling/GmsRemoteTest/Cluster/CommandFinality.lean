import GmsRemoteTest.Lib.Runs
import GmsRemoteTest.Cluster.LocalReceipts

/-! Statements of several Controller processes on the command table. A transaction under `BEGIN IMMEDIATE` is one step;
every other statement is a step of its own, and what a caller has read is kept until its next. -/
namespace GmsRemoteTest.Cluster
open DeviceClaims

def ackSelect (db : Db) (workerId commandId : String) : Option Command :=
  Table.fetch (fun command => command.id = commandId ∧ command.workerId = workerId) db.commands

def ackProceeds (current : Command) (data : CommandAck) : Prop :=
  ¬ (current.status.terminal = true ∨ data.status.rank < current.status.rank)

instance (current : Command) (data : CommandAck) : Decidable (ackProceeds current data) :=
  inferInstanceAs (Decidable (¬ (current.status.terminal = true ∨ data.status.rank < current.status.rank)))

def ackUpdate (db : Db) (workerId commandId : String) (current : Command) (data : CommandAck) (now : Nat) : Db :=
  let commands := Table.update (fun command => command.id = commandId ∧ command.workerId = workerId)
    (fun command => {command with
      status := data.status, result := data.result, error := data.error
      acknowledgedAt := some now, updatedAt := now}) db.commands
  let event := commandEvent current "command.acknowledged" "worker" current.status.text data.status.text
    ("Worker command " ++ current.commandType.text ++ " is " ++ data.status.text)
    (if data.status = .failed then "error" else "info") now
  {db with commands := commands}.append event

inductive Pending
  | idle
  | acking (workerId commandId : String) (data : CommandAck) (current : Command)
  | failing (rows : List Command) (sources : List String)
  | releasing (deviceKey localWorkerId : String) (claim : Claim)
  | cancelling (deviceKey : String) (claim : Claim) (commandId : String) (payload : CommandPayload)
  | revoking (deviceKey : String) (claim : Claim)

structure Processes (Caller : Type) where
  state : State
  pending : Caller → Pending

inductive Statement
  | ack (workerId commandId : String) (data : CommandAck)
  | poll (workerId : String) (limit redeliverySeconds now : Nat)
  | compensate (jobId reason attemptId : String) (now : Nat)
  | startLocal (commandId : String) (now : Nat)
  | failStale (maxAgeSeconds now : Nat)
  | forceRelease (deviceKey localWorkerId : String) (now : Nat)
  | next (now : Nat)

def openCall (state : State) : Statement → Pending × State
  | .ack workerId commandId data => match ackSelect state.db workerId commandId with
    | none => (.idle,state)
    | some current => (if ackProceeds current data then .acking workerId commandId data current else .idle,state)
  | .poll workerId limit redeliverySeconds now => (.idle,(pollCommands state workerId limit redeliverySeconds now).2)
  | .compensate jobId reason attemptId now => (.idle,(compensateFailedDispatch state jobId reason attemptId now).2)
  | .startLocal commandId now => (.idle,{state with db := (startLocalCommand state.db commandId now).2})
  | .failStale maxAgeSeconds now => (.failing (staleLocalDeviceActions state.db maxAgeSeconds now) [],state)
  | .forceRelease deviceKey localWorkerId now =>
    let read := activeClaim state.claims deviceKey now
    match read.1 with
    | none => (.idle,{state with claims := read.2})
    | some claim =>
      (if localAoaClaim claim localWorkerId then .releasing deviceKey localWorkerId claim else .idle,
        {state with claims := read.2})
  | .next _ => (.idle,state)

def continueCall (state : State) (now : Nat) : Pending → Pending × State
  | .idle => (.idle,state)
  | .acking workerId commandId data current =>
    (.idle,{state with db := ackUpdate state.db workerId commandId current data now})
  | .failing [] [] => (.idle,state)
  | .failing [] (source::sources) =>
    (.failing [] sources,{state with claims := (release state.claims source .failed [] now).2})
  | .failing (row::rows) sources =>
    let claimed := failStaleLocalDeviceAction state.db row now
    let sources := if claimed.1 = true ∧ row.payload.claimSourceId ≠ "" then sources++[row.payload.claimSourceId] else sources
    (.failing rows sources,{state with db := claimed.2})
  | .releasing deviceKey localWorkerId claim =>
    let command := Table.fetch (fun command => command.workerId = localWorkerId ∧
      command.operationId = claimedOperation claim) state.db.commands
    match forceVerdict command claim deviceKey with
    | .refuse _ => (.idle,state)
    | .revoke => (.revoking deviceKey claim,state)
    | .cancel payload => (.cancelling deviceKey claim ((command.map (·.id)).getD "") payload,state)
  | .cancelling deviceKey claim commandId payload =>
    (.revoking deviceKey claim,{state with db := cancelReceipt state.db commandId payload now})
  | .revoking deviceKey claim =>
    let released := releaseOperationIfCurrent state.claims deviceKey claim.id claim.generation claim.sourceId now
    (.idle,{state with claims := released.2})

section
variable {Caller : Type} [DecidableEq Caller]

/-- One statement of one caller; a caller with a call under way opens no other. -/
def statementStep (step : Caller × Statement) (world : Processes Caller) : Processes Caller :=
  let outcome := match step.2, world.pending step.1 with
    | .next now, pending => continueCall world.state now pending
    | statement, .idle => openCall world.state statement
    | _, pending => (pending,world.state)
  ⟨outcome.2,Function.update world.pending step.1 outcome.1⟩

end

def statusOf (db : Db) (commandId : String) : Option CommandStatus := (findCommand db commandId).map (·.status)

structure Settles (before after : Db) : Prop where
  distinct : (before.commands.map (·.id)).Nodup → (after.commands.map (·.id)).Nodup
  final : ∀ commandId status, statusOf before commandId = some status → status.terminal = true →
    statusOf after commandId = some status

theorem Settles.refl (db : Db) : Settles db db := ⟨id,fun _ _ held _ => held⟩

theorem Settles.trans {first second third : Db} (left : Settles first second) (right : Settles second third) :
    Settles first third :=
  ⟨right.distinct ∘ left.distinct,fun commandId status held ended => right.final commandId status (left.final commandId status held ended) ended⟩

theorem Settles.of_commands {before after : Db} (same : after.commands = before.commands) : Settles before after := by
  constructor
  · rw [same]
    exact id
  · intro commandId status held _
    unfold statusOf findCommand at held ⊢
    rwa [same]

theorem Settles.of_update {before after : Db} {selects : Command → Prop} [DecidablePred selects] {set : Command → Command}
    (same : after.commands = Table.update selects set before.commands) (kept : ∀ row, selects row → (set row).id = row.id)
    (spares : ∀ row ∈ before.commands, selects row → row.status.terminal = true → (set row).status = row.status) :
    Settles before after := by
  constructor
  · intro distinct
    rw [same,Table.map_update Command.id kept]
    exact distinct
  · intro commandId status held ended
    unfold statusOf findCommand at held ⊢
    rw [same,Table.fetch_update kept]
    cases found : Table.fetch (fun command => command.id = commandId) before.commands with
    | none =>
      rw [found] at held
      cases held
    | some row =>
      rw [found] at held
      have own : row.status = status := Option.some.inj held
      rw [Option.map_some,Option.map_some]
      split
      · rename_i chosen
        rw [spares row (Table.fetch_mem found) chosen (own ▸ ended),own]
      · rw [own]

theorem transitionJobConn_commands (db : Db) (jobId : String) (toStatus : JobStatus) (note : TransitionNote) (now : Nat) :
    (transitionJobConn db jobId toStatus note now).2.commands = db.commands := by
  unfold transitionJobConn casTransition
  split
  · rfl
  · rfl
  · dsimp only
    split <;> rfl

theorem pollCommands_settles (state : State) (distinct : (state.db.commands.map (·.id)).Nodup) (workerId : String)
    (limit redeliverySeconds now : Nat) :
    Settles state.db (pollCommands state workerId limit redeliverySeconds now).2.db := by
  have requeued : Settles state.db {state.db with commands := requeue state.db.commands workerId redeliverySeconds now} := by
    refine Settles.of_update rfl (fun _ _ => rfl) ?_
    rintro row _ ⟨_,delivered,_⟩ ended
    rw [delivered] at ended
    cases ended
  refine requeued.trans (Settles.of_update rfl (fun _ _ => rfl) ?_)
  intro row member chosen ended
  obtain ⟨queued,listed,named⟩ := List.mem_map.mp chosen
  have sorted := List.mem_of_mem_take listed
  rw [List.mem_insertionSort] at sorted
  obtain ⟨inside,_,waiting⟩ := Table.mem_select.mp sorted
  rw [Table.eq_of_key (requeued.distinct distinct) member inside named.symm,waiting] at ended
  cases ended

theorem compensated_settles {db : Db} {job : Job} {error : String} {now : Nat} {after : Db}
    (done : compensated db job error now = .ok after) : Settles db after := by
  have moved := transitionJobConn_commands db job.id .failed (compensateNote error) now
  unfold compensated at done
  generalize transitionJobConn db job.id .failed (compensateNote error) now = outcome at moved done
  obtain ⟨answer,failed⟩ := outcome
  cases answer with
  | error failure => cases done
  | ok _ =>
    cases done
    refine (Settles.of_commands moved).trans (Settles.of_update rfl (fun _ _ => rfl) ?_)
    rintro row _ ⟨_,_,_,queued,_⟩ ended
    rw [queued] at ended
    cases ended

theorem compensateFailedDispatch_settles (state : State) (jobId reason attemptId : String) (now : Nat) :
    Settles state.db (compensateFailedDispatch state jobId reason attemptId now).2.db := by
  unfold compensateFailedDispatch
  split
  · exact .refl _
  · split
    · exact .refl _
    · split
      · exact .of_commands rfl
      · split
        · exact .refl _
        · rename_i done
          exact compensated_settles done

theorem startLocalCommand_settles (db : Db) (commandId : String) (now : Nat) :
    Settles db (startLocalCommand db commandId now).2 := by
  refine Settles.of_update rfl (fun _ _ => rfl) ?_
  rintro row _ ⟨_,accepted⟩ ended
  rw [accepted] at ended
  cases ended

theorem failStaleLocalDeviceAction_settles (db : Db) (row : Command) (now : Nat) :
    Settles db (failStaleLocalDeviceAction db row now).2 := by
  unfold failStaleLocalDeviceAction
  split
  · exact .refl db
  · refine Settles.of_update rfl (fun _ _ => rfl) ?_
    rintro other _ ⟨_,live⟩ ended
    rcases live with accepted | running
    · rw [accepted] at ended
      cases ended
    · rw [running] at ended
      cases ended

theorem cancelReceipt_settles (db : Db) (commandId : String) (payload : CommandPayload) (now : Nat) :
    Settles db (cancelReceipt db commandId payload now) := by
  refine Settles.of_update rfl (fun _ _ => rfl) ?_
  rintro row _ ⟨_,live⟩ ended
  rw [live] at ended
  cases ended

theorem openCall_settles (state : State) (distinct : (state.db.commands.map (·.id)).Nodup) (statement : Statement) :
    Settles state.db (openCall state statement).2.db := by
  cases statement with
  | ack workerId commandId data =>
    dsimp only [openCall]
    split <;> exact .refl _
  | poll workerId limit redeliverySeconds now => exact pollCommands_settles state distinct workerId limit redeliverySeconds now
  | compensate jobId reason attemptId now => exact compensateFailedDispatch_settles state jobId reason attemptId now
  | startLocal commandId now => exact startLocalCommand_settles state.db commandId now
  | failStale maxAgeSeconds now => exact .refl _
  | forceRelease deviceKey localWorkerId now =>
    dsimp only [openCall]
    split <;> exact .refl _
  | next now => exact .refl _

/-- The `UPDATE` of an acknowledgement that comes after another caller has finished the row with
another status than it brings. -/
def Pending.overtaken (pending : Pending) (db : Db) : Prop :=
  match pending with
  | .acking workerId commandId data _ => ∃ row ∈ db.commands, row.id = commandId ∧ row.workerId = workerId ∧
      row.status.terminal = true ∧ row.status ≠ data.status
  | _ => False

instance (pending : Pending) (db : Db) : Decidable (pending.overtaken db) :=
  match pending with
  | .acking workerId commandId data _ => inferInstanceAs (Decidable (∃ row ∈ db.commands, row.id = commandId ∧
      row.workerId = workerId ∧ row.status.terminal = true ∧ row.status ≠ data.status))
  | .idle | .failing _ _ | .releasing _ _ _ | .cancelling _ _ _ _ | .revoking _ _ => isFalse id

theorem ackUpdate_settles {db : Db} {workerId commandId : String} {data : CommandAck} {current : Command}
    (timely : ¬ (Pending.acking workerId commandId data current).overtaken db) (now : Nat) :
    Settles db (ackUpdate db workerId commandId current data now) := by
  refine Settles.of_update rfl (fun _ _ => rfl) ?_
  rintro row member ⟨named,owned⟩ ended
  by_contra changed
  exact timely ⟨row,member,named,owned,ended,fun same => changed same.symm⟩

theorem continueCall_settles (state : State) (now : Nat) {pending : Pending} (timely : ¬ pending.overtaken state.db) :
    Settles state.db (continueCall state now pending).2.db := by
  cases pending with
  | idle => exact .refl _
  | acking workerId commandId data current => exact ackUpdate_settles timely now
  | failing rows sources =>
    cases rows with
    | nil => cases sources <;> exact .refl _
    | cons row rows => exact failStaleLocalDeviceAction_settles state.db row now
  | releasing deviceKey localWorkerId claim =>
    dsimp only [continueCall]
    split <;> exact .refl _
  | cancelling deviceKey claim commandId payload => exact cancelReceipt_settles state.db commandId payload now
  | revoking deviceKey claim => exact .refl _

section
variable {Caller : Type} [DecidableEq Caller]

/-- The step is an acknowledgement that is not overtaken, or none. -/
def Timely (world : Processes Caller) (step : Caller × Statement) : Prop :=
  match step.2 with
  | .next _ => ¬ (world.pending step.1).overtaken world.state.db
  | _ => True

instance (world : Processes Caller) (step : Caller × Statement) : Decidable (Timely world step) := by
  unfold Timely
  split <;> infer_instance

theorem statementStep_settles (world : Processes Caller) (distinct : (world.state.db.commands.map (·.id)).Nodup)
    (step : Caller × Statement) (timely : Timely world step) :
    Settles world.state.db (statementStep step world).state.db := by
  obtain ⟨caller,statement⟩ := step
  dsimp only [statementStep]
  split
  · exact continueCall_settles world.state _ timely
  · exact openCall_settles world.state distinct _
  · exact .refl _

end

/-- In every interleaving in which no acknowledgement is overtaken between its two statements, a command that is completed, failed
or cancelled keeps that status to the end. -/
theorem finished_command_keeps_status {Caller : Type} [DecidableEq Caller] (world : Processes Caller)
    (distinct : (world.state.db.commands.map (·.id)).Nodup) (steps : List (Caller × Statement))
    (timely : Runs.Along (fun world step => statementStep step world) Timely world steps) (commandId : String)
    (status : CommandStatus) (held : statusOf world.state.db commandId = some status) (finished : status.terminal = true) :
    statusOf (Runs.exec statementStep world steps).state.db commandId = some status := by
  induction steps generalizing world with
  | nil => exact held
  | cons step steps ih =>
    have settles := statementStep_settles world distinct step timely.1
    exact ih (statementStep step world) (settles.distinct distinct) timely.2 (settles.final commandId status held finished)

def orphanReceipt : Command :=
  { id := "cmd-1", workerId := "w1", commandType := .deviceAction, jobId := "", attemptId := "", operationId := "device-action-1"
    traceId := "trace-1", status := .running, createdAt := 0, updatedAt := 0
    payload := {ownerId := "alice", action := .aoaSequence, releaseClaimOnTerminal := true} }

def twoProcesses : Processes Bool := ⟨{db := {commands := [orphanReceipt]}},fun _ => .idle⟩

theorem finished_command_keeps_status_late_ack :
    let failed := Runs.exec statementStep twoProcesses [(true,.failStale 0 1080),(true,.next 1080)]
    let steps := [(false,Statement.ack "w1" "cmd-1" ⟨.completed,{},""⟩),(false,.next 1081),(true,.next 1082),(true,.poll "w1" 5 120 1083)]
    statusOf failed.state.db "cmd-1" = some .failed ∧
      statusOf (Runs.exec statementStep failed steps).state.db "cmd-1" = some .failed := by
  intro failed steps
  have held : statusOf failed.state.db "cmd-1" = some .failed := by decide +kernel
  exact ⟨held,finished_command_keeps_status failed (by decide +kernel) steps (by decide +kernel) "cmd-1" .failed held rfl⟩

/-- The acknowledgement reads the running receipt, the watchdog of the other process fails it,
and the acknowledgement then completes it. -/
theorem overtaken_ack_rewrites_finished_command :
    ¬ ∀ (world : Processes Bool) (steps : List (Bool × Statement)) (commandId : String) (status : CommandStatus),
      (world.state.db.commands.map (·.id)).Nodup → statusOf world.state.db commandId = some status →
      status.terminal = true → statusOf (Runs.exec statementStep world steps).state.db commandId = some status := by
  intro always
  have kept := always (Runs.exec statementStep twoProcesses
      [(false,.ack "w1" "cmd-1" ⟨.completed,{},""⟩),(true,.failStale 0 1080),(true,.next 1080)])
    [(false,.next 1081)] "cmd-1" .failed (by decide +kernel) (by decide +kernel) rfl
  revert kept
  decide +kernel

end GmsRemoteTest.Cluster
