import GmsRemoteTest.Devices.TransportOperations
import GmsRemoteTest.Lib.LastWrite
import GmsRemoteTest.Lib.Runs

/-! The writers of the runtime configuration. Each reads it, decides, and writes back one key, two keys, or the whole.
The assignment lock covers some of them from the read to the write, the lock of the file only the write, except that a
client host is read and saved under it. -/
namespace GmsRemoteTest.Devices
open Text

structure DeviceSource where
  source : String
  sourceOs : String := ""
  timestamp : Nat
deriving DecidableEq

/-- `usbip_cluster_assignments`, `usbip_devices_source` and `client_hosts` of the runtime configuration. -/
structure RuntimeConfig where
  assignments : Assignments := Dict.empty
  sources : Dict String DeviceSource := Dict.empty
  clientHosts : Dict String String := Dict.empty

structure ConfigEdits where
  assignments : Edits := []
  sources : List (Dict.Edit String DeviceSource) := []
  clientHosts : List (Dict.Edit String String) := []

def validSerial (serial : String) : Bool :=
  1 ≤ serial.toList.length && serial.toList.length ≤ 128 &&
    serial.toList.all fun c => c.isAlphanum || c == '.' || c == '_' || c == ':' || c == '-'

structure SerialMigration where
  deviceHost : String
  busid : String
  oldSerial : String
  newSerial : String
  expectedGeneration : Option Nat := none
  expectedOperationId : String := ""

def migrateLocalUsbipSerial (migration : SerialMigration) (now : Nat) (config : RuntimeConfig) : Except String (Option ConfigEdits) :=
  let deviceHost := strip migration.deviceHost
  let busid := strip migration.busid
  let oldSerial := strip migration.oldSerial
  let newSerial := strip migration.newSerial
  if deviceHost = "" ∨ busid = "" ∨ oldSerial = "" ∨ newSerial = "" then .error "USB/IP序列号迁移参数不完整"
  else if !validSerial oldSerial ∨ !validSerial newSerial then .error "USB/IP序列号格式无效"
  else if oldSerial = newSerial then .ok none
  else match config.assignments.entries.find? fun (_,value) => strip value.deviceHost = deviceHost ∧ strip value.busid = busid with
    | none => .error ("找不到USB/IP物理分配 " ++ deviceHost ++ "/" ++ busid)
    | some (matchKey,current) =>
      match config.assignments.entries.find? fun (key,value) => key ≠ matchKey ∧ newSerial ∈ cleanSerials value.deviceSerials with
      | some (key,_) => .error ("新序列号 " ++ newSerial ++ " 已属于其他USB/IP物理分配 " ++ key)
      | none =>
        let assigned := cleanSerials current.deviceSerials
        if oldSerial ∉ assigned then
          .error ("USB/IP物理分配已变化：" ++ deviceHost ++ "/" ++ busid ++ " 当前序列号为 " ++
            orElse (", ".intercalate (sorted (fromkeys assigned))) "空")
        else if migration.expectedGeneration.any (· ≠ current.generation) then .error "USB/IP物理分配代次已变化，拒绝迁移旧烧写任务"
        else if migration.expectedOperationId ≠ "" ∧ current.operationId ≠ migration.expectedOperationId then
          .error "USB/IP物理分配操作已变化，拒绝迁移旧烧写任务"
        else
          let oldSource := ((config.sources.get oldSerial).map (·.source)).getD ""
          let newSource := ((config.sources.get newSerial).map (·.source)).getD ""
          if newSource ≠ "" ∧ newSource ≠ deviceHost then .error ("新序列号 " ++ newSerial ++ " 已属于其他USB/IP来源 " ++ newSource)
          else .ok (some
            {assignments := [(matchKey,some {current with deviceSerials := [newSerial],status := .attached,timestamp := now})]
             sources := (if oldSource = "" ∨ oldSource = deviceHost then [(oldSerial,none)] else []) ++
              [(newSerial,some {source := deviceHost,timestamp := now})]})

def persistLocalUsbipSources (deviceHost : String) (serials : List String) (sourceOs : String) (now : Nat) (config : RuntimeConfig) :
    List (Dict.Edit String DeviceSource) :=
  (fromkeys (cleanSerials serials)).filterMap fun serial =>
    let existing := config.sources.get serial
    let existingSource := strip ((existing.map (·.source)).getD "")
    let existingOs := strip ((existing.map (·.sourceOs)).getD "")
    if existingSource ≠ "" ∧ existingSource ≠ deviceHost then none
    else some (serial,some {source := deviceHost,sourceOs := orElse (strip sourceOs) existingOs,timestamp := now})

inductive Writer where
  | assignments (part : Section)
  | migrateSerial (migration : SerialMigration) (now : Nat)
  | persistSources (deviceHost : String) (serials : List String) (sourceOs : String) (now : Nat)
  | removeSources (devices : List String)
  | recordReconnected (deviceHost : String) (devices : List String) (now : Nat)
  | clientHost (ip username : String)

def Writer.edits (config : RuntimeConfig) : Writer → Option ConfigEdits
  | .assignments part => (part.edits config.assignments).map fun edits => {assignments := edits}
  | .migrateSerial migration now => ((migrateLocalUsbipSerial migration now config).toOption).join
  | .persistSources deviceHost serials sourceOs now =>
    let updates := persistLocalUsbipSources deviceHost serials sourceOs now config
    if updates = [] then none else some {sources := updates}
  | .removeSources devices =>
    if devices = [] then none
    else some {sources := (devices.filter fun device => (config.sources.get device).isSome).map fun device => (device,none)}
  | .recordReconnected deviceHost devices now =>
    some {sources := devices.map fun device => (device,some {source := deviceHost,timestamp := now})}
  | .clientHost ip username => some {clientHosts := [(ip,some username)]}

def Writer.save (edits : ConfigEdits) (base config : RuntimeConfig) : Writer → RuntimeConfig
  | .assignments _ => {config with assignments := base.assignments.editAll edits.assignments}
  | .migrateSerial .. =>
    {config with assignments := base.assignments.editAll edits.assignments,sources := base.sources.editAll edits.sources}
  | .persistSources .. => {config with sources := base.sources.editAll edits.sources}
  | .removeSources _ | .recordReconnected .. => {base with sources := base.sources.editAll edits.sources}
  | .clientHost .. => {config with clientHosts := base.clientHosts.editAll edits.clientHosts}

def Writer.begins : Writer → Bool
  | .assignments part => part.begins
  | _ => true

def Writer.locked : Writer → Bool
  | .assignments part => part.locked
  | .migrateSerial .. => true
  | _ => false

def Writer.holdsConfig : Writer → Bool
  | .clientHost .. => true
  | _ => false

def Writer.next (config : RuntimeConfig) : Writer → List Flight
  | .assignments part => part.next config.assignments
  | _ => []

structure Reading where
  writer : Writer
  base : RuntimeConfig

structure Completed where
  writer : Writer
  base : RuntimeConfig
  edits : ConfigEdits
  before : RuntimeConfig

/-- The log has the latest write first. -/
structure World where
  config : RuntimeConfig
  reading : List Reading := []
  flights : List Flight := []
  log : List Completed := []

inductive Event where
  | start (writer : Writer)
  | resume (flight : Nat) (answer : Answer) (now : Nat)
  | write (index : Nat)
  | fail (index : Nat)

def World.free (world : World) (writer : Writer) : Bool :=
  (!writer.locked || world.reading.all fun reading => !reading.writer.locked) &&
    (!writer.holdsConfig || world.reading.all fun reading => !reading.writer.holdsConfig)

def World.mayWrite (world : World) (writer : Writer) : Bool :=
  writer.holdsConfig || world.reading.all fun reading => !reading.writer.holdsConfig

def World.complete (world : World) (index : Nat) (reading : Reading) : World :=
  let rest := {world with reading := world.reading.eraseIdx index,flights := world.flights ++ reading.writer.next reading.base}
  match reading.writer.edits reading.base with
  | none => rest
  | some edits =>
    {rest with
      config := reading.writer.save edits reading.base world.config
      log := ⟨reading.writer,reading.base,edits,world.config⟩ :: world.log}

/-- A writer reads the configuration, an operation goes on, a writer writes, or one fails before its write. -/
def World.apply (event : Event) (world : World) : World :=
  match event with
  | .start writer =>
    if writer.begins && world.free writer then {world with reading := world.reading ++ [⟨writer,world.config⟩]} else world
  | .resume index answer now => match world.flights[index]?.bind fun flight => flight.resume now answer with
    | none => world
    | some part =>
      if world.free (.assignments part) then
        {world with reading := world.reading ++ [⟨.assignments part,world.config⟩],flights := world.flights.eraseIdx index}
      else world
  | .write index => match world.reading[index]? with
    | none => world
    | some reading => if world.mayWrite reading.writer then world.complete index reading else world
  | .fail index => {world with reading := world.reading.eraseIdx index}

def World.start (config : RuntimeConfig) : World := {config}

inductive World.Moves (world : World) (event : Event) : World → Prop
  | idle : World.Moves world event world
  | reads (writer : Writer) (flights : List Flight) (free : world.free writer = true)
      (from_event : event = .start writer ∨ writer.locked = true) :
      World.Moves world event {world with reading := world.reading ++ [⟨writer,world.config⟩],flights}
  | writes (index : Nat) (reading : Reading) (named : event = .write index) (found : world.reading[index]? = some reading)
      (allowed : world.mayWrite reading.writer = true) : World.Moves world event (world.complete index reading)
  | drops (index : Nat) : World.Moves world event {world with reading := world.reading.eraseIdx index}

theorem resume_locked {flight : Flight} {now : Nat} {answer : Answer} {part : Section}
    (resumed : flight.resume now answer = some part) : part.locked = true := by
  unfold Flight.resume at resumed
  split at resumed
  all_goals try split at resumed
  all_goals try split at resumed
  all_goals cases resumed
  all_goals rfl

theorem apply_moves (world : World) (event : Event) : world.Moves event (world.apply event) := by
  cases event with
  | start writer =>
    unfold World.apply
    dsimp only
    split
    · rename_i begins
      exact .reads writer world.flights (Bool.and_eq_true_iff.mp begins).2 (.inl rfl)
    · exact .idle
  | resume index answer now =>
    unfold World.apply
    dsimp only
    split
    · exact .idle
    · rename_i part resumed
      split
      · rename_i free
        obtain ⟨flight,_,goes⟩ := Option.bind_eq_some_iff.mp resumed
        exact .reads (.assignments part) _ free (.inr (resume_locked goes))
      · exact .idle
  | write index =>
    unfold World.apply
    dsimp only
    split
    · exact .idle
    · rename_i reading found
      split
      · rename_i allowed
        exact .writes index reading rfl found allowed
      · exact .idle
  | fail index => exact .drops index

theorem complete_saved {world : World} {reading : Reading} {edits : ConfigEdits} (index : Nat)
    (saves : reading.writer.edits reading.base = some edits) : world.complete index reading =
      {config := reading.writer.save edits reading.base world.config,reading := world.reading.eraseIdx index
       flights := world.flights ++ reading.writer.next reading.base
       log := ⟨reading.writer,reading.base,edits,world.config⟩ :: world.log} := by
  unfold World.complete
  rw [saves]

theorem complete_unsaved {world : World} {reading : Reading} (index : Nat) (saves : reading.writer.edits reading.base = none) :
    world.complete index reading =
      {world with reading := world.reading.eraseIdx index,flights := world.flights ++ reading.writer.next reading.base} := by
  unfold World.complete
  rw [saves]

end GmsRemoteTest.Devices
