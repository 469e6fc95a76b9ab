import Mathlib.Data.List.Dedup
import GmsRemoteTest.Devices.Assignments

/-! The operations on the assignments as the sections they read and save them in, and what is under way between
two sections: a transport command, a probe, or a request that has passed a check. -/
namespace GmsRemoteTest.Devices
open Text

inductive Flight where
  | connecting (request : ConnectRequest)
  | attaching (request : ConnectRequest) (generation : Nat) (operationId : String)
  | attachingLocal (request : ConnectRequest)
  | selected (selection : Selection)
  | detaching (selection : Selection)
  | detachingLocal (request : DisconnectRequest) (seen : Assignments)
  | probing (deviceHost : String) (items : List Assignment)
  | verifying (deviceHost workerId : String) (generation : Nat) (busids : List String)

/-- What an operation goes on with: nothing but the next clock reading, or the answer it waited for. -/
inductive Answer where
  | proceed (operationId : String) (clock : Nat)
  | attached (sourceHost sourceOs : String) (busids serials : List String)
  | attachedLocal (attach : LocalAttach) (operationId : String) (clock : Nat)
  | failed (timeout : Bool) (detail sourceHost : String)
  | detached (settled : Bool)
  | physical (serials : List String)

inductive Section where
  | checkSiblings (request : ConnectRequest)
  | checkLocal (request : ConnectRequest)
  | reserve (request : ConnectRequest) (operationId : String) (now clock : Nat)
  | attachFailed (request : ConnectRequest) (generation : Nat) (preserved : Option TransportStatus) (sourceHost : String) (now : Nat)
  | attached (request : ConnectRequest) (generation : Nat) (operationId : String) (attach : Attach request) (now : Nat)
  | attachedLocal (request : ConnectRequest) (attach : LocalAttach) (operationId : String) (now clock : Nat)
  | select (request : DisconnectRequest) (operationId : String) (clock : Nat)
  | markDetaching (selection : Selection) (now : Nat)
  | detachUnknown (selection : Selection) (now : Nat)
  | detached (selection : Selection)
  | surveyLocal (request : DisconnectRequest)
  | detachedLocal (request : DisconnectRequest) (seen : Assignments)
  | surveyStatus (deviceHost localWorker : String)
  | retire (deviceHost : String) (items : List Assignment) (physical : List String)
  | verified (deviceHost workerId : String) (generation : Nat) (busids : List String) (now : Nat)
  | prune (deviceHost : String) (currentBusids : List String)
  | reconcileSerials (deviceHost : String) (sourceDevices : List (String × String)) (sourceOs : String)
  | heartbeat (workerId : String) (online : List String) (now : Nat)
  | command (sent : Command) (now : Nat)
  | migrateBusid (migration : BusidMigration) (now : Nat)

def Section.begins : Section → Bool
  | .checkSiblings _ | .select .. | .surveyLocal _ | .surveyStatus .. | .prune .. | .reconcileSerials .. | .heartbeat ..
  | .command .. | .migrateBusid .. => true
  | _ => false

def Section.locked : Section → Bool
  | .checkSiblings _ | .surveyLocal _ | .surveyStatus .. => false
  | _ => true

def Section.edits (assignments : Assignments) : Section → Option Edits
  | .checkSiblings _ | .checkLocal _ | .select .. | .surveyLocal _ | .surveyStatus .. => none
  | .reserve request operationId now clock => (Devices.reserve request operationId now clock assignments).toOption
  | .attachFailed request _ preserved sourceHost now => some (Devices.attachFailed request preserved sourceHost now assignments)
  | .attached request generation operationId attach now => some (Devices.attached request generation operationId attach now)
  | .attachedLocal request attach operationId now clock =>
    some (Devices.attachedLocal request attach operationId now clock assignments)
  | .markDetaching selection now => some (Devices.markDetaching selection now assignments)
  | .detachUnknown selection now => some (markUsbipDetachUnknown selection.request.deviceHost selection.request.busids.names
      selection.request.workerId selection.generation now assignments)
  | .detached selection => some (Devices.detached selection.request assignments)
  | .detachedLocal request _ =>
    if request.workerId ≠ "" ∧ request.busids.names ≠ [] then some (Devices.detached request assignments) else none
  | .retire deviceHost items physical => Devices.retire deviceHost items physical
  | .verified deviceHost workerId generation busids now => some (Devices.verified deviceHost workerId generation busids now assignments)
  | .prune deviceHost currentBusids => pruneStaleUnknownUsbipAssignments deviceHost currentBusids assignments
  | .reconcileSerials deviceHost sourceDevices sourceOs => reconcileUsbipAssignmentSerials deviceHost sourceDevices sourceOs assignments
  | .heartbeat workerId online now => reconcileClusterUsbipHeartbeat workerId online now assignments
  | .command sent now => reconcileClusterUsbipCommand sent now assignments
  | .migrateBusid migration now => (migrateLocalUsbipBusid migration now assignments).toOption

def normalizeHost (host : String) : String :=
  let chars := (strip host).toList
  if '@' ∈ chars then String.ofList ((chars.dropWhile (· ≠ '@')).drop 1) else strip host

def verifyGroups (deviceHost localWorker : String) (assignments : Assignments) : List Flight :=
  let items := assignments.values.filter fun item =>
    item.deviceHost == deviceHost && item.status == .unknown && strip item.busid != "" && item.workerId != "" &&
      item.workerId != localWorker
  let group := fun item : Assignment => (item.workerId,normalizeHost item.sourceHost,item.generation)
  (items.map group).dedup.map fun shared =>
    .verifying deviceHost shared.1 shared.2.2 ((items.filter fun item => group item = shared).map fun item => strip item.busid)

/-- What is under way after a section, from the assignments that it read. -/
def Section.next (assignments : Assignments) : Section → List Flight
  | .checkSiblings request => if request.busids.names ≠ [] ∧ hasActiveSiblings request assignments then [] else [.connecting request]
  | .checkLocal request => if request.busids.names.any (takenElsewhere request assignments) then [] else [.attachingLocal request]
  | .reserve request operationId now clock => match Devices.reserve request operationId now clock assignments with
    | .ok _ => [.attaching request (nextTransportGeneration clock (assignments.editAll (staleAttaching now assignments))) operationId]
    | .error _ => []
  | .select request operationId clock =>
    if invalidAssignments request assignments = [] then [.selected {request,read := assignments,operationId,clock}] else []
  | .markDetaching selection _ => [.detaching selection]
  | .surveyLocal request => [.detachingLocal request assignments]
  | .surveyStatus deviceHost localWorker =>
    .probing deviceHost (localAssignments deviceHost localWorker assignments) :: verifyGroups deviceHost localWorker assignments
  | _ => []

def Flight.resume (now : Nat) : Flight → Answer → Option Section
  | .connecting request, .proceed operationId clock =>
    if request.workerId = "" ∨ request.busids.names = [] then none
    else if request.remote then some (.reserve request operationId now clock) else some (.checkLocal request)
  | .attaching request generation operationId, .attached sourceHost sourceOs busids serials =>
    if bound : (∀ busid ∈ busids, busid ∈ request.busids.names) ∧ ∀ busid ∈ request.busids.names, busid ∈ busids then
      some (.attached request generation operationId {sourceHost,sourceOs,busids,serials,bound := bound.1,complete := bound.2} now)
    else some (.attachFailed request generation none sourceHost now)
  | .attaching request generation _, .failed timeout detail sourceHost =>
    some (.attachFailed request generation (preserveUsbipAssignmentAfterError timeout detail) sourceHost now)
  | .attachingLocal request, .attachedLocal attach operationId clock => some (.attachedLocal request attach operationId now clock)
  | .selected selection, .proceed .. => some (.markDetaching selection now)
  | .detaching selection, .detached settled => if settled then some (.detached selection) else some (.detachUnknown selection now)
  | .detaching selection, .failed .. => some (.detachUnknown selection now)
  | .detachingLocal request seen, .detached _ => some (.detachedLocal request seen)
  | .probing deviceHost items, .physical serials => some (.retire deviceHost items serials)
  | .verifying deviceHost workerId generation busids, .attached .. => some (.verified deviceHost workerId generation busids now)
  | _, _ => none

end GmsRemoteTest.Devices
