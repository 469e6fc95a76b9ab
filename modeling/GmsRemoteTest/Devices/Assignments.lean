import GmsRemoteTest.Foundation.Text
import GmsRemoteTest.Lib.Dict

/-! The stored USB/IP assignments (`usbip_cluster_assignments`) and what each writer makes of them: the edits it
puts into the map that it has read, or none when it saves nothing. Times are in milliseconds; `now` is the clock
at a step and `clock` the one a generation is drawn from. -/
namespace GmsRemoteTest.Devices
open Text

inductive TransportStatus where
  | attaching | attached | unknown | cleanupRequired | detaching
deriving DecidableEq

structure Assignment where
  deviceHost : String
  sourceHost : String := ""
  sourceOs : String := ""
  workerId : String
  busid : String
  deviceSerials : List String := []
  status : TransportStatus
  generation : Nat
  operationId : String
  timestamp : Nat
deriving DecidableEq

abbrev Assignments := Dict String Assignment
abbrev Edits := List (Dict.Edit String Assignment)

def usbipAssignmentKey (deviceHost busid : String) : String := deviceHost ++ "|" ++ busid

def nextTransportGeneration (clock : Nat) (assignments : Assignments) : Nat :=
  max clock ((assignments.values.map (·.generation)).foldr max 0 + 1)

theorem generation_lt_next (clock : Nat) {assignments : Assignments} {key : String} {stored : Assignment}
    (found : assignments.get key = some stored) : stored.generation < nextTransportGeneration clock assignments := by
  have below : ∀ generations : List Nat, ∀ generation ∈ generations, generation ≤ generations.foldr max 0 := by
    intro generations
    induction generations with
    | nil => simp
    | cons first rest ih =>
      intro generation member
      rcases List.mem_cons.mp member with rfl | member
      · exact Nat.le_max_left _ _
      · exact le_trans (ih generation member) (Nat.le_max_right _ _)
  have listed := below _ _ (List.mem_map_of_mem (f := Assignment.generation) (Dict.mem_values.mpr ⟨key,found⟩))
  exact lt_of_lt_of_le (Nat.lt_succ_of_le listed) (Nat.le_max_right _ _)

def validBusid (busid : String) : Bool :=
  1 ≤ busid.toList.length && busid.toList.length ≤ 64 &&
    busid.toList.all fun c => c.isAlphanum || c == '.' || c == '_' || c == '-'

/-- The bus ids of a request after `_validated_usbip_busids`. -/
structure Busids where
  names : List String
  valid : ∀ busid ∈ names, validBusid busid = true
  distinct : names.Nodup

/-- A connect request with its source host resolved, `sourceDevices` the bus ids and serials that its source
reported. `remote` says that it is for another worker than the controller's own. -/
structure ConnectRequest where
  deviceHost : String
  workerId : String
  busids : Busids
  sourceDevices : List (String × String) := []
  remote : Bool

structure DisconnectRequest where
  deviceHost : String
  workerId : String
  busids : Busids

def ConnectRequest.keys (request : ConnectRequest) : List String :=
  request.busids.names.map (usbipAssignmentKey request.deviceHost)

def DisconnectRequest.keys (request : DisconnectRequest) : List String :=
  request.busids.names.map (usbipAssignmentKey request.deviceHost)

def cleanSerials (serials : List String) : List String := (serials.map strip).filter (· ≠ "")

def ConnectRequest.sourceSerials (request : ConnectRequest) : Dict String String :=
  request.sourceDevices.foldl (fun serials (busid,serial) => serials.put busid (strip serial)) Dict.empty

def ConnectRequest.busidSerials (request : ConnectRequest) (attached busids : List String) (busid : String) : List String :=
  match request.sourceSerials.get busid with
  | some serial => if serial ≠ "" then [serial] else if busids.length = 1 then attached else []
  | none => if busids.length = 1 then attached else []

def serialByBusid (sourceDevices : List (String × String)) : Dict String String :=
  sourceDevices.foldl (fun serials (busid,serial) =>
    if busid ≠ "" ∧ strip serial ≠ "" then serials.put busid (strip serial) else serials) Dict.empty

def contains (part text : String) : Bool := text.toList.tails.any fun rest => part.toList.isPrefixOf rest

def saveChanged (edits : Edits) : Option Edits := if edits = [] then none else some edits

def pruneStaleUnknownUsbipAssignments (deviceHost : String) (currentBusids : List String) (assignments : Assignments) : Option Edits :=
  saveChanged <| assignments.editItems fun item =>
    if item.deviceHost = deviceHost ∧ item.status = .unknown ∧ item.busid ∉ currentBusids then some none else none

def Assignment.withSerial (assignment : Assignment) (serial sourceOs : String) : Assignment :=
  {assignment with
    deviceSerials := [serial]
    sourceOs := if strip sourceOs ≠ "" ∧ strip assignment.sourceOs = "" then strip sourceOs else assignment.sourceOs}

def reconcileUsbipAssignmentSerials (deviceHost : String) (sourceDevices : List (String × String)) (sourceOs : String)
    (assignments : Assignments) : Option Edits :=
  saveChanged <| assignments.editItems fun assignment =>
    if assignment.deviceHost ≠ deviceHost then none
    else match (serialByBusid sourceDevices).get assignment.busid with
      | none => none
      | some serial =>
        if assignment.withSerial serial sourceOs ≠ assignment then some (some (assignment.withSerial serial sourceOs)) else none

def adbEnumerationGrace : Nat := 45000

def reconcileClusterUsbipHeartbeat (workerId : String) (online : List String) (now : Nat) (assignments : Assignments) : Option Edits :=
  saveChanged <| assignments.editItems fun assignment =>
    if assignment.workerId ≠ workerId ∨ assignment.status ∉ [.attached,.unknown] ∨ cleanSerials assignment.deviceSerials = [] then none
    else
      let visible := (cleanSerials assignment.deviceSerials).all (· ∈ online)
      let status : TransportStatus := if visible then .attached else .unknown
      if assignment.status = .attached ∧ !visible ∧ assignment.timestamp ≤ now ∧ now - assignment.timestamp ≤ adbEnumerationGrace then none
      else if assignment.status = status then none
      else some (some {assignment with status,timestamp := now})

def usbipAttachingStale : Nat := 1800000

def siblingStatuses : List TransportStatus := [.attaching,.attached,.unknown,.cleanupRequired]

def hasActiveSiblings (request : ConnectRequest) (assignments : Assignments) : Bool :=
  assignments.values.any fun item =>
    item.deviceHost == request.deviceHost && item.busid ∉ request.busids.names && item.status ∈ siblingStatuses

def conflictText (request : ConnectRequest) (conflicts : List String) (assignments : Assignments) : String :=
  let target := fun busid => ((assignments.get (usbipAssignmentKey request.deviceHost busid)).map (·.workerId)).getD ""
  let targets := sorted (fromkeys ((conflicts.map target).filter (· ≠ "")))
  "USB设备已接入其他主机: " ++ ", ".intercalate conflicts ++
    (if targets = [] then "" else " → " ++ ", ".intercalate targets)

def takenElsewhere (request : ConnectRequest) (assignments : Assignments) (busid : String) : Bool :=
  match assignments.get (usbipAssignmentKey request.deviceHost busid) with
  | some current => current.workerId != "" && current.workerId != request.workerId
  | none => false

def staleAttaching (now : Nat) (assignments : Assignments) : Edits :=
  assignments.editItems fun value =>
    if value.status = .attaching ∧ usbipAttachingStale < now - value.timestamp then some none else none

def reserve (request : ConnectRequest) (operationId : String) (now clock : Nat) (assignments : Assignments) : Except String Edits :=
  let stale := staleAttaching now assignments
  let fresh := assignments.editAll stale
  let pending := fun busid => match fresh.get (usbipAssignmentKey request.deviceHost busid) with
    | some current => current.status ∈ [TransportStatus.attaching,.unknown,.cleanupRequired]
    | none => false
  let conflicts := request.busids.names.filter fun busid => takenElsewhere request fresh busid || pending busid
  if conflicts ≠ [] then .error (conflictText request conflicts fresh)
  else .ok (stale ++ request.busids.names.map fun busid => (usbipAssignmentKey request.deviceHost busid,some
    {deviceHost := request.deviceHost,workerId := request.workerId,busid,status := .attaching
     generation := nextTransportGeneration clock fresh,operationId,timestamp := now}))

def preserveUsbipAssignmentAfterError (timeout : Bool) (detail : String) : Option TransportStatus :=
  if timeout then some .unknown
  else if contains "回滚未完成" detail then some .cleanupRequired else none

def attachFailed (request : ConnectRequest) (preserved : Option TransportStatus) (sourceHost : String) (now : Nat)
    (assignments : Assignments) : Edits :=
  assignments.editEach request.keys fun current =>
    if current.workerId = request.workerId ∧ current.status = .attaching then
      some (preserved.map fun status => {current with sourceHost,status,timestamp := now})
    else none

structure Attach (request : ConnectRequest) where
  sourceHost : String
  sourceOs : String
  busids : List String
  serials : List String
  bound : ∀ busid ∈ busids, busid ∈ request.busids.names
  complete : ∀ busid ∈ request.busids.names, busid ∈ busids

def attached (request : ConnectRequest) (generation : Nat) (operationId : String) (attach : Attach request) (now : Nat) : Edits :=
  (request.busids.names.filter (· ∉ attach.busids)).map (fun busid => (usbipAssignmentKey request.deviceHost busid,none)) ++
    attach.busids.map fun busid => (usbipAssignmentKey request.deviceHost busid,some
      {deviceHost := request.deviceHost,sourceHost := attach.sourceHost,sourceOs := orElse attach.sourceOs "windows"
       workerId := request.workerId,busid,deviceSerials := request.busidSerials attach.serials attach.busids busid
       status := .attached,generation,operationId,timestamp := now})

structure LocalAttach where
  sourceHost : String
  sourceOs : String
  serials : List String

def attachedLocal (request : ConnectRequest) (attach : LocalAttach) (operationId : String) (now clock : Nat)
    (assignments : Assignments) : Edits :=
  request.busids.names.map fun busid => (usbipAssignmentKey request.deviceHost busid,some
    {deviceHost := request.deviceHost,sourceHost := attach.sourceHost,sourceOs := orElse attach.sourceOs "windows"
     workerId := request.workerId,busid,deviceSerials := request.busidSerials attach.serials request.busids.names busid
     status := .attached,generation := nextTransportGeneration clock assignments,operationId,timestamp := now})

def invalidAssignments (request : DisconnectRequest) (assignments : Assignments) : List String :=
  request.busids.names.filter fun busid => match assignments.get (usbipAssignmentKey request.deviceHost busid) with
    | some current => current.workerId ≠ request.workerId || current.status ∈ [TransportStatus.attaching,.detaching]
    | none => true

structure Selection where
  request : DisconnectRequest
  read : Assignments
  operationId : String
  clock : Nat

def Selection.generation (selection : Selection) : Nat := nextTransportGeneration selection.clock selection.read

def markDetaching (selection : Selection) (now : Nat) (assignments : Assignments) : Edits :=
  assignments.editEach selection.request.keys fun current =>
    if current.workerId = selection.request.workerId then
      some (some {current with
        status := .detaching,generation := selection.generation,operationId := selection.operationId,timestamp := now})
    else none

def markGeneration (deviceHost : String) (busids : List String) (workerId : String) (generation : Nat) (status : TransportStatus)
    (now : Nat) (assignments : Assignments) : Edits :=
  assignments.editEach (busids.map (usbipAssignmentKey deviceHost)) fun current =>
    if current.workerId = workerId ∧ current.generation = generation then some (some {current with status,timestamp := now}) else none

def markUsbipDetachUnknown (deviceHost : String) (busids : List String) (workerId : String) (generation now : Nat)
    (assignments : Assignments) : Edits :=
  markGeneration deviceHost busids workerId generation .unknown now assignments

def verified (deviceHost workerId : String) (generation : Nat) (busids : List String) (now : Nat) (assignments : Assignments) : Edits :=
  markGeneration deviceHost busids workerId generation .attached now assignments

def detached (request : DisconnectRequest) (assignments : Assignments) : Edits :=
  assignments.editEach request.keys fun current => if current.workerId = request.workerId then some none else none

def localAssignments (deviceHost localWorker : String) (assignments : Assignments) : List Assignment :=
  assignments.values.filter fun item =>
    item.deviceHost == deviceHost && item.workerId == localWorker && item.status ∈ siblingStatuses

def retire (deviceHost : String) (items : List Assignment) (physical : List String) : Option Edits :=
  let here := fun item : Assignment => cleanSerials item.deviceSerials ≠ [] ∧ ∀ serial ∈ cleanSerials item.deviceSerials, serial ∈ physical
  if ∀ item ∈ items, ∀ serial ∈ cleanSerials item.deviceSerials, serial ∈ physical then
    saveChanged ((items.filter here).map fun item => (usbipAssignmentKey deviceHost (strip item.busid),none))
  else none

inductive CommandType where
  | usbipAttach | usbipDetach | other
deriving DecidableEq

inductive CommandStatus where
  | completed | failed | cancelled | running
deriving DecidableEq

/-- A cluster command with its result; a text or number that it lacks is empty or zero. -/
structure Command where
  commandType : CommandType
  status : CommandStatus
  workerId : String
  deviceHost : String := ""
  sourceHost : String := ""
  busids : List String
  generation : Nat := 0
  newDevices : List String := []
  error : String := ""
deriving DecidableEq

def Command.attachedSerials (command : Command) : List String := fromkeys (cleanSerials command.newDevices)

def Command.concerns (command : Command) (current : Assignment) : Bool :=
  current.workerId == command.workerId && current.busid ∈ cleanSerials command.busids &&
    (command.deviceHost == "" || current.deviceHost == command.deviceHost) &&
    (command.sourceHost == "" || current.sourceHost == "" || current.sourceHost == command.sourceHost) &&
    (command.generation == 0 || current.generation == command.generation)

def Command.completes (command : Command) (now : Nat) (current : Assignment) : Assignment :=
  {current with
    sourceHost := orElse command.sourceHost current.sourceHost
    deviceSerials := if command.attachedSerials ≠ [] then command.attachedSerials else current.deviceSerials
    status := .attached,timestamp := now}

def Command.change (command : Command) (now : Nat) (current : Assignment) : Option (Option Assignment) :=
  if !command.concerns current then none
  else match command.commandType, command.status with
    | .usbipDetach, .completed => some none
    | .usbipAttach, .completed => some (some (command.completes now current))
    | .usbipAttach, _ =>
      if current.status ∈ [TransportStatus.attaching,.unknown] then
        if contains "回滚未完成" command.error then some (some {current with status := .cleanupRequired,timestamp := now})
        else some none
      else none
    | _, _ => none

def reconcileClusterUsbipCommand (command : Command) (now : Nat) (assignments : Assignments) : Option Edits :=
  if command.commandType = .other ∨ command.status = .running then none
  else saveChanged (assignments.editItems (command.change now))

structure BusidMigration where
  deviceHost : String
  oldBusid : String
  newBusid : String
  expectedSerials : List String
  operationId : String

def migrateLocalUsbipBusid (migration : BusidMigration) (now : Nat) (assignments : Assignments) : Except String Edits :=
  let deviceHost := strip migration.deviceHost
  let oldBusid := strip migration.oldBusid
  let newBusid := strip migration.newBusid
  let expected := cleanSerials migration.expectedSerials
  if deviceHost = "" ∨ !validBusid oldBusid ∨ !validBusid newBusid ∨ oldBusid = newBusid ∨ expected = [] then
    .error "USB/IP BUSID迁移参数无效"
  else match assignments.get (usbipAssignmentKey deviceHost oldBusid) with
    | none => .error ("找不到USB/IP物理分配 " ++ deviceHost ++ "/" ++ oldBusid)
    | some current =>
      let assigned := cleanSerials current.deviceSerials
      if current.status ∉ siblingStatuses then .error "USB/IP物理分配已不再活动"
      else if ¬ ((∀ serial ∈ assigned, serial ∈ expected) ∧ ∀ serial ∈ expected, serial ∈ assigned) then
        .error "USB/IP物理分配序列号已变化，拒绝迁移"
      else if (assignments.get (usbipAssignmentKey deviceHost newBusid)).isSome then
        .error ("新BUSID " ++ newBusid ++ " 已存在USB/IP分配")
      else .ok
        [(usbipAssignmentKey deviceHost oldBusid,none),
         (usbipAssignmentKey deviceHost newBusid,some {current with
            busid := newBusid,status := .unknown,generation := (assignments.values.map (·.generation)).foldr max 0 + 1
            operationId := migration.operationId,timestamp := now})]

end GmsRemoteTest.Devices
