import GmsRemoteTest.Cluster.Schema

/-! The Worker's own database: the commands it has seen, the test processes it started and
one fence per device. Every function below is one transaction. -/
namespace GmsRemoteTest.WorkerAgent
open Cluster Text

/-- The command types `handle` tells apart; the ones it answers at once are their name. -/
inductive CommandKind
  | startTest | stopTest | deviceAction | connectVpn | adbProxy | usbipAttach | usbipDetach | suiteAction | suiteExport
  | fileTransfer | reportImport | deviceExport | flashFirmware | flashGsi | uninstallAgent | inline (name : String)
deriving DecidableEq, Repr

def CommandKind.text : CommandKind → String
  | .startTest => "start_test"
  | .stopTest => "stop_test"
  | .deviceAction => "device_action"
  | .connectVpn => "connect_vpn"
  | .adbProxy => "adb_proxy"
  | .usbipAttach => "usbip_attach"
  | .usbipDetach => "usbip_detach"
  | .suiteAction => "suite_action"
  | .suiteExport => "suite_export"
  | .fileTransfer => "file_transfer"
  | .reportImport => "report_import"
  | .deviceExport => "device_export"
  | .flashFirmware => "flash_firmware"
  | .flashGsi => "flash_gsi"
  | .uninstallAgent => "uninstall_agent"
  | .inline name => name

structure FencingToken where
  deviceId : String
  leaseId : String
  attemptId : String
  generation : Int
deriving DecidableEq, Repr

/-- A command as `poll` hands it over. `detached` marks the suite actions that download or extract. -/
structure Delivery where
  id : String
  kind : CommandKind
  jobId : String := ""
  attemptId : String := ""
  workerJobId : String := ""
  devices : List String := []
  leaseTokens : List FencingToken := []
  readOnly : Bool := false
  detached : Bool := false
deriving DecidableEq, Repr

structure CommandRow where
  id : String
  status : CommandStatus
  result : CommandResult := {}
  error : String := ""
  controllerSynced : Bool := false
deriving DecidableEq, Repr

inductive ProcessStatus
  | running | stopping | completed | failed | cancelled
deriving DecidableEq, Repr

structure JobRow where
  workerJobId : String
  jobId : String
  attemptId : String
  pid : Nat
  status : ProcessStatus
  devices : List String
  commandId : String
  error : String := ""
deriving DecidableEq, Repr

structure DeviceFence where
  deviceId : String
  generation : Int
  leaseId : String
  attemptId : String
deriving DecidableEq, Repr

structure WorkerDb where
  commands : List CommandRow := []
  jobs : List JobRow := []
  fences : List DeviceFence := []
deriving DecidableEq, Repr

structure WorkerConfig where
  workerId : String
  requireDeviceFencing : Bool := true
deriving DecidableEq, Repr

def previousCommand (db : WorkerDb) (id : String) : Option CommandRow :=
  Table.fetch (fun row => row.id = id) db.commands

def saveCommand (db : WorkerDb) (id : String) (status : CommandStatus) (result : CommandResult) (error : String) : WorkerDb :=
  match previousCommand db id with
  | none => {db with commands := db.commands++[⟨id,status,result,error,false⟩]}
  | some _ =>
    let commands := Table.update (fun row => row.id = id)
      (fun row => {row with status := status, result := result, error := error, controllerSynced := false}) db.commands
    {db with commands := commands}

def findFence (fences : List DeviceFence) (deviceId : String) : Option DeviceFence :=
  Table.fetch (fun fence => fence.deviceId = deviceId) fences

def FencingToken.fence (token : FencingToken) : DeviceFence :=
  ⟨token.deviceId,token.generation,token.leaseId,token.attemptId⟩

def FencingToken.valid (token : FencingToken) : Prop :=
  token.deviceId ≠ "" ∧ token.leaseId ≠ "" ∧ token.attemptId ≠ "" ∧ 0 < token.generation

instance (token : FencingToken) : Decidable token.valid :=
  inferInstanceAs (Decidable (token.deviceId ≠ "" ∧ token.leaseId ≠ "" ∧ token.attemptId ≠ "" ∧ 0 < token.generation))

def FencingToken.stale (token : FencingToken) (fence : DeviceFence) : Prop :=
  token.generation < fence.generation ∨
    token.generation = fence.generation ∧ (fence.leaseId ≠ token.leaseId ∨ fence.attemptId ≠ token.attemptId)

instance (token : FencingToken) (fence : DeviceFence) : Decidable (token.stale fence) :=
  inferInstanceAs (Decidable (token.generation < fence.generation ∨
    token.generation = fence.generation ∧ (fence.leaseId ≠ token.leaseId ∨ fence.attemptId ≠ token.attemptId)))

inductive FencingError
  | required (kind : CommandKind)
  | mismatch
  | invalid
  | stale (deviceId : String) (generation current : Int)
deriving DecidableEq, Repr

def FencingError.text : FencingError → String
  | .required kind => kind.text ++ " requires a valid device fencing token"
  | .mismatch => "device fencing tokens do not match requested devices"
  | .invalid => "invalid device fencing token"
  | .stale deviceId generation current => "stale fencing token for device " ++ deviceId ++ ": generation " ++
      toString generation ++ ", current generation " ++ toString current

def upsertFence (fences : List DeviceFence) (token : FencingToken) : List DeviceFence :=
  match findFence fences token.deviceId with
  | none => fences++[token.fence]
  | some _ => Table.update (fun fence => fence.deviceId = token.deviceId) (fun _ => token.fence) fences

def admitToken (progress : List DeviceFence × List String) (token : FencingToken) :
    Except FencingError (List DeviceFence × List String) :=
  if ¬ token.valid then .error .invalid
  else match findFence progress.1 token.deviceId with
  | none => .ok (upsertFence progress.1 token,progress.2)
  | some current =>
    if token.stale current then .error (.stale token.deviceId token.generation current.generation)
    else
      let revoked := if current.generation < token.generation then progress.2++[current.attemptId] else progress.2
      .ok (upsertFence progress.1 token,revoked)

def admitTokens (fences : List DeviceFence) (tokens : List FencingToken) :
    Except FencingError (List DeviceFence × List String) :=
  tokens.foldlM admitToken (fences,[])

def CommandKind.protected : CommandKind → Bool
  | .startTest | .deviceAction | .flashFirmware | .flashGsi | .deviceExport | .usbipDetach => true
  | _ => false

def requestedDevices (config : WorkerConfig) (command : Delivery) : List String :=
  ((command.devices.map strip).filter (· ≠ "")).map (qualified config.workerId)

def checkTokens (config : WorkerConfig) (command : Delivery) : Except FencingError Unit :=
  let requested := requestedDevices config command
  let held := command.leaseTokens.map (·.deviceId)
  let guarded := command.kind.protected = true ∧ ¬ (command.kind = .deviceAction ∧ command.readOnly = true)
  if config.requireDeviceFencing = true ∧ guarded ∧ requested ≠ [] then
    if command.leaseTokens = [] then .error (.required command.kind)
    else if ¬ (held ⊆ requested ∧ requested ⊆ held) then .error .mismatch
    else .ok ()
  else .ok ()

def revokeAttempt (db : WorkerDb) (attemptId reason : String) : WorkerDb :=
  let jobs := Table.update (fun job => job.attemptId = attemptId ∧ job.status = .running)
    (fun job => {job with status := .cancelled, error := reason}) db.jobs
  {db with jobs := jobs}

def revokeSuperseded (db : WorkerDb) (attempts : List String) : WorkerDb :=
  attempts.foldl (fun db attemptId =>
    if attemptId = "" then db else revokeAttempt db attemptId "superseded by a newer device fencing generation") db

def validateFencing (config : WorkerConfig) (db : WorkerDb) (command : Delivery) : Except FencingError Unit × WorkerDb :=
  match checkTokens config command with
  | .error error => (.error error,db)
  | .ok _ => match admitTokens db.fences command.leaseTokens with
    | .error error => (.error error,db)
    | .ok (fences,revoked) => (.ok (),revokeSuperseded {db with fences := fences} revoked)

def releaseFencing (db : WorkerDb) (command : Delivery) : WorkerDb :=
  let fences := Table.delete (fun fence => ∃ token ∈ command.leaseTokens, token.fence = fence) db.fences
  {db with fences := fences}

def releaseAttemptFencing (db : WorkerDb) (attemptId : String) : WorkerDb :=
  if attemptId = "" then db
  else
    let fences := Table.delete (fun fence => fence.attemptId = attemptId) db.fences
    {db with fences := fences}

def pruneInactiveFences (db : WorkerDb) : WorkerDb :=
  let fences := Table.delete
    (fun fence => ¬ ∃ job ∈ db.jobs, job.status = .running ∧ job.attemptId = fence.attemptId) db.fences
  {db with fences := fences}

end GmsRemoteTest.WorkerAgent
