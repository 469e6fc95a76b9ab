import GmsRemoteTest.Cluster.Commands

/-! Owner-bound inputs and controls of one AOA playback. The receipt of the playback is a
`device_action` command, and both the single-step debug queue and the last requested
control live in its payload. -/
namespace GmsRemoteTest.Cluster

def updateCommand (db : Db) (id : String) (set : Command → Command) : Db :=
  let commands := Table.update (fun command => command.id = id) set db.commands
  {db with commands := commands}

def setPayload (db : Db) (id : String) (payload : CommandPayload) : Db :=
  updateCommand db id fun command => {command with payload := payload}

def writePayload (db : Db) (id : String) (payload : CommandPayload) (now : Nat) : Db :=
  updateCommand db id fun command => {command with payload := payload, updatedAt := now}

def Command.takesInput (row : Command) : Prop :=
  (row.status = .accepted ∨ row.status = .running) ∧ row.payload.aoaDebugClosed = false ∧
    row.payload.aoaControlAction ≠ some .cancel

instance (row : Command) : Decidable row.takesInput :=
  inferInstanceAs (Decidable ((row.status = .accepted ∨ row.status = .running) ∧
    row.payload.aoaDebugClosed = false ∧ row.payload.aoaControlAction ≠ some .cancel))

def appendAoaDebugCommand (db : Db) (row : Command) (requestId text : String) (now : Nat) :
    Except ClusterError Nat × Db :=
  let queue := row.payload.aoaDebugQueue
  if ¬ row.takesInput then (.error (.conflict "调试连接已结束，请结束调试后重新连接"),db)
  else if 256 ≤ queue.length then
    (.error (.conflict "调试会话已达到 256 条上限，请结束调试后重新连接"),db)
  else
    let sequence := queue.length+1
    let payload := {row.payload with aoaDebugQueue := queue++[⟨sequence,requestId,text⟩]}
    (.ok sequence,writePayload db row.id payload now)

def enqueueAoaDebugCommand (db : Db) (commandId ownerId requestId text : String) (now : Nat) :
    Except ClusterError Nat × Db :=
  match findCommand db commandId with
  | none => (.error (.notFound "AOA debug session not found"),db)
  | some row =>
    if row.payload.aoaDebugSessionId = "" ∨ row.payload.ownerId ≠ ownerId then
      (.error (.notFound "AOA debug session not found"),db)
    else match row.payload.aoaDebugQueue.find? fun entry => entry.requestId = requestId with
    | some entry =>
      if entry.command ≠ text then (.error (.conflict "debug request id is bound to another command"),db)
      else (.ok entry.sequence,db)
    | none => appendAoaDebugCommand db row requestId text now

/-- Closing and enqueueing share a write lock, so each is one step. -/
def readAoaDebugCommand (db : Db) (commandId : String) (cursor : Nat) (close : Bool) :
    Except ClusterError (Option DebugEntry) × Db :=
  match findCommand db commandId with
  | none => (.error (.value "AOA debug operation disappeared"),db)
  | some row =>
    match row.payload.aoaDebugQueue.find? fun entry => cursor < entry.sequence with
    | some entry => (.ok (some entry),db)
    | none =>
      if close then (.ok none,setPayload db commandId {row.payload with aoaDebugClosed := true})
      else (.ok none,db)

def Command.controlled (row : Command) (workerId controlId ownerId : String) : Prop :=
  row.workerId = workerId ∧ row.commandType = .deviceAction ∧ row.payload.playbackControlId = controlId ∧
    row.payload.ownerId = ownerId ∧ row.payload.action = .aoaSequence ∧ row.status.terminal = false

instance (row : Command) (workerId controlId ownerId : String) : Decidable (row.controlled workerId controlId ownerId) :=
  inferInstanceAs (Decidable (row.workerId = workerId ∧ row.commandType = .deviceAction ∧
    row.payload.playbackControlId = controlId ∧ row.payload.ownerId = ownerId ∧ row.payload.action = .aoaSequence ∧
    row.status.terminal = false))

def controlledCommand (db : Db) (workerId controlId ownerId : String) : Option Command :=
  ((Table.select (fun row => row.controlled workerId controlId ownerId) db.commands).mergeSort
    fun first second => second.createdAt ≤ first.createdAt).head?

/-- A cancelled playback stays cancelled: every later request is turned into a cancel. -/
def PlaybackAction.after (action : PlaybackAction) (stored : Option PlaybackAction) : PlaybackAction :=
  if stored = some .cancel then .cancel else action

def requestAoaPlaybackControl (db : Db) (workerId controlId ownerId : String) (action : PlaybackAction) (now : Nat) :
    Option (Command × Nat) × Db :=
  match controlledCommand db workerId controlId ownerId with
  | none => (none,db)
  | some row =>
    let revision := row.payload.aoaControlRevision+1
    let payload := {row.payload with aoaControlAction := some (action.after row.payload.aoaControlAction)
                                     aoaControlRevision := revision}
    (some ({row with payload := payload},revision),writePayload db row.id payload now)

def settleCommand (db : Db) (commandId : String) (status : CommandStatus) (now : Nat) : Db :=
  updateCommand db commandId fun command => {command with status := status, updatedAt := now}

section
variable {db : Db} {id other : String} {set : Command → Command}

theorem findCommand_id {row : Command} (found : findCommand db id = some row) : row.id = id := by
  have selected := Table.fetch_selects found
  exact selected

section
variable (kept : ∀ row, (set row).id = row.id)
include kept

theorem findCommand_updateCommand : findCommand (updateCommand db id set) other =
    (findCommand db other).map fun row => if row.id = id then set row else row :=
  Table.fetch_update (fun row _ => kept row) other db.commands

theorem updateCommand_self {row : Command} (found : findCommand db id = some row) :
    findCommand (updateCommand db id set) id = some (set row) := by
  rw [findCommand_updateCommand kept,found,Option.map_some,if_pos (findCommand_id found)]

theorem updateCommand_other (different : other ≠ id) :
    findCommand (updateCommand db id set) other = findCommand db other := by
  rw [findCommand_updateCommand kept]
  cases found : findCommand db other with
  | none => rfl
  | some row =>
    have unselected : row.id ≠ id := findCommand_id found ▸ different
    rw [Option.map_some,if_neg unselected]

theorem updateCommand_ids :
    (updateCommand db id set).commands.map (·.id) = db.commands.map (·.id) :=
  Table.map_update (·.id) fun row _ => kept row

end

theorem writePayload_ids (payload : CommandPayload) (now : Nat) :
    (writePayload db id payload now).commands.map (·.id) = db.commands.map (·.id) := by
  apply updateCommand_ids
  intro row
  rfl

theorem writePayload_self {row : Command} (found : findCommand db id = some row) (payload : CommandPayload) (now : Nat) :
    findCommand (writePayload db id payload now) id = some {row with payload := payload, updatedAt := now} := by
  apply updateCommand_self _ found
  intro row
  rfl

theorem writePayload_other (different : other ≠ id) (payload : CommandPayload) (now : Nat) :
    findCommand (writePayload db id payload now) other = findCommand db other := by
  apply updateCommand_other _ different
  intro row
  rfl

theorem findCommand_controlled (distinct : (db.commands.map (·.id)).Nodup) {workerId controlId ownerId : String}
    {row : Command} (found : controlledCommand db workerId controlId ownerId = some row) :
    findCommand db row.id = some row ∧ row.controlled workerId controlId ownerId := by
  have listed : row ∈ Table.select (fun row => row.controlled workerId controlId ownerId) db.commands :=
    List.mem_mergeSort.mp (List.mem_of_head? found)
  obtain ⟨member,matching⟩ := Table.mem_select.mp listed
  obtain ⟨first,first_found⟩ := Table.fetch_isSome (fun command : Command => command.id = row.id) member rfl
  have same : row = first := Table.eq_of_fetch distinct first_found member rfl
  exact ⟨same ▸ first_found,matching⟩

end
end GmsRemoteTest.Cluster
