import GmsRemoteTest.Cluster.AoaOperations

/-! Receipts of device actions that run inside a Controller process: their start, the
watchdog for the ones a restart orphaned, and the forced release of an AOA playback. Each
definition is one statement or one decision between two statements. -/
namespace GmsRemoteTest.Cluster
open DeviceClaims Text

def staleLocalDeviceActionSeconds : Nat := 960+120

def startLocalCommand (db : Db) (commandId : String) (now : Nat) : Bool × Db :=
  let commands := Table.update (fun command => command.id = commandId ∧ command.status = .accepted)
    (fun command => {command with status := .running, updatedAt := now}) db.commands
  (decide (∃ command ∈ db.commands, command.id = commandId ∧ command.status = .accepted),{db with commands := commands})

def staleLocalDeviceActions (db : Db) (maxAgeSeconds now : Nat) : List Command :=
  let threshold := if maxAgeSeconds = 0 then staleLocalDeviceActionSeconds else maxAgeSeconds
  Table.select (fun command => command.commandType = .deviceAction ∧
    (command.status = .accepted ∨ command.status = .running) ∧ command.deliveredAt = none ∧
    command.acknowledgedAt = none ∧ command.updatedAt+threshold ≤ now) db.commands

def failStaleLocalDeviceAction (db : Db) (row : Command) (now : Nat) : Bool × Db :=
  if row.payload.releaseClaimOnTerminal = false then (false,db)
  else
    let commands := Table.update (fun command => command.id = row.id ∧ (command.status = .accepted ∨ command.status = .running))
      (fun command => {command with
        status := .failed, updatedAt := now
        error := "local device_action interrupted by a Controller restart; " ++
          "fencing claim released, replay the operation if needed"}) db.commands
    (decide (∃ command ∈ db.commands, command.id = row.id ∧ (command.status = .accepted ∨ command.status = .running)),
      {db with commands := commands})

inductive ForceVerdict
  | refuse (message : String)
  | cancel (payload : CommandPayload)
  | revoke
deriving DecidableEq, Repr

def localAoaClaim (claim : Claim) (localWorkerId : String) : Prop :=
  claim.workerId = localWorkerId ∧ claim.sourceType = "cluster-device-action" ∧ startsWith "operation:" claim.sourceId = true

instance (claim : Claim) (localWorkerId : String) : Decidable (localAoaClaim claim localWorkerId) :=
  inferInstanceAs (Decidable (claim.workerId = localWorkerId ∧ claim.sourceType = "cluster-device-action" ∧
    startsWith "operation:" claim.sourceId = true))

def claimedOperation (claim : Claim) : String := String.ofList (claim.sourceId.toList.drop "operation:".length)

def receiptMatches (command : Command) (claim : Claim) (deviceKey : String) : Prop :=
  command.commandType = .deviceAction ∧ command.jobId = "" ∧ command.payload.claimSourceId = claim.sourceId ∧
    command.payload.releaseClaimOnTerminal = true ∧
    ∃ token ∈ command.payload.leaseTokens, token.deviceId = deviceKey ∧ token.leaseId = .claim claim.id ∧
      token.generation = claim.generation

instance (command : Command) (claim : Claim) (deviceKey : String) : Decidable (receiptMatches command claim deviceKey) :=
  inferInstanceAs (Decidable (command.commandType = .deviceAction ∧ command.jobId = "" ∧
    command.payload.claimSourceId = claim.sourceId ∧ command.payload.releaseClaimOnTerminal = true ∧
    ∃ token ∈ command.payload.leaseTokens, token.deviceId = deviceKey ∧ token.leaseId = .claim claim.id ∧
      token.generation = claim.generation))

def forceVerdict (command : Option Command) (claim : Claim) (deviceKey : String) : ForceVerdict :=
  match command with
  | none => .refuse "无法确认占用对应的独立操作，请先结束原操作后重试"
  | some command =>
    if ¬ receiptMatches command claim deviceKey then .refuse "无法确认占用对应的独立操作，请先结束原操作后重试"
    else if command.status.terminal then .revoke
    else if command.deliveredAt ≠ none ∨ command.acknowledgedAt ≠ none then
      .refuse "该回放由 Worker 执行，请先通过回放停止按钮结束操作"
    else if command.payload.action ≠ .aoaSequence ∨ command.payload.devices.length ≠ 1 then
      .refuse "设备仍在执行其他操作，请等待该操作结束"
    else .cancel {command.payload with
      aoaControlAction := some .cancel, aoaControlRevision := command.payload.aoaControlRevision+1}

def cancelReceipt (db : Db) (commandId : String) (payload : CommandPayload) (now : Nat) : Db :=
  let commands := Table.update (fun command => command.id = commandId ∧ command.status.terminal = false)
    (fun command => {command with
      status := .cancelled, payload := payload, updatedAt := now, acknowledgedAt := some now
      result := {body := "\x7b\"success\": false, \"forced_release\": true, \"reconcile_required\": true\x7d"}
      error := "管理员强制终止 AOA 回放；请核对设备当前页面后再操作"}) db.commands
  {db with commands := commands}

end GmsRemoteTest.Cluster
