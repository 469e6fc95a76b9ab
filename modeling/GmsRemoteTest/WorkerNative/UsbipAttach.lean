import GmsRemoteTest.WorkerNative.UsbipPorts
import GmsRemoteTest.Lib.Calls
import Mathlib.Data.List.Dedup

/-! The `attach` operation of the native Worker: the selected busids are attached one by one, a partial attachment is rolled back, and a whole
one is verified in two listings. -/
namespace GmsRemoteTest.WorkerUsbip
open Calls

structure CommandOutput where
  code : ℤ
  stdout : String := ""
  stderr : String := ""
  errorCode : Option String := none

structure StepFailure where
  code : String
  exitCode : ℤ
  message : String

def trim (text : String) : String :=
  String.ofList ((text.toList.dropWhile isWhitespace).reverse.dropWhile isWhitespace).reverse

def outputError (output : CommandOutput) (fallback : String) : String :=
  let value := if trim output.stderr = "" then trim output.stdout else trim output.stderr
  if value = "" then fallback else value

def StepFailure.fromOutput (output : CommandOutput) (fallback : String) : StepFailure where
  code := output.errorCode.getD "USBIP_HELPER_EXITED"
  exitCode := output.code
  message := outputError output fallback

abbrev Failures := List (String × StepFailure)

def Failures.insert (key : String) (failure : StepFailure) : Failures → Failures
  | [] => [(key,failure)]
  | (first,held) :: rest =>
    if key = first then (key,failure) :: rest
    else if key < first then (key,failure) :: (first,held) :: rest
    else (first,held) :: Failures.insert key failure rest

def Failures.remove (key : String) (failures : Failures) : Failures := failures.filter fun entry => entry.1 ≠ key

/-- A value of `details`. -/
inductive Detail
  | text (value : String)
  | optional (value : Option String)
  | number (value : ℤ)
  | names (values : List String)
  | failures (value : Failures)

structure NativeError where
  code : String
  message : String
  retryable : Bool
  remediation : String
  details : List (String × Detail)

def portQueryError (output : CommandOutput) (context : String) : NativeError where
  code := "USBIP_PORT_QUERY_FAILED"
  message := outputError output "usbip port failed"
  retryable := true
  remediation := "Verify the Worker USB/IP helper, kernel vhci driver, and sudo policy"
  details := [("context",.text context),("exit_code",.number output.code),("helper_error_code",.optional output.errorCode)]

structure Device where
  serial : String
  rest : List (String × String) := []

structure OperationResult where
  attachedBusids : List String
  alreadyAttachedBusids : List String
  devices : List Device
  newDevices : List String
  enumerationPending : Bool
  transportState : String
  protocolState : String
  readiness : String
  generation : Nat

structure UsbipPayload where
  sourceHost : String
  generation : Nat := 0

/-- The helper with its actions, the probe of the devices and the pauses. -/
inductive Call
  | port
  | attach (host busid : String)
  | detach (port : String)
  | probeDevices (includeDetails : Bool)
  | sleep
deriving DecidableEq

abbrev Reply : Call → Type
  | .port | .attach _ _ | .detach _ => CommandOutput
  | .probeDevices _ => List Device
  | .sleep => Unit

abbrev Operation (α : Type) : Type := Program Call Reply α

def port {α : Type} (next : CommandOutput → Operation α) : Operation α := .ask .port next

def attachHelper (host busid : String) {α : Type} (next : CommandOutput → Operation α) : Operation α := .ask (.attach host busid) next

def detachHelper (port : String) {α : Type} (next : CommandOutput → Operation α) : Operation α := .ask (.detach port) next

def probeDevices (includeDetails : Bool) {α : Type} (next : List Device → Operation α) : Operation α := .ask (.probeDevices includeDetails) next

def sleep {α : Type} (next : Operation α) : Operation α := .ask .sleep fun _ => next

def saysLower (message text : String) : Bool :=
  (message.toList.map fun c => if 'A' ≤ c ∧ c ≤ 'Z' then Char.ofNat (c.toNat + 32) else c).tails.any text.toList.isPrefixOf

def busy (failure : StepFailure) : Bool := saysLower failure.message "busy" && saysLower failure.message "exported"

structure Attaching where
  attached : List String := []
  alreadyAttached : List String := []
  newlyAttached : List String := []
  errors : Failures := []

/-- `for attempt in 0..3`, with the attempts that are left. -/
def attempts (host busid : String) : Nat → Attaching → Operation Attaching
  | 0, state => .done state
  | left + 1, state => attachHelper host busid fun output =>
    if output.code = 0 then
      .done {state with attached := state.attached ++ [busid], newlyAttached := state.newlyAttached ++ [busid]}
    else
      let error := StepFailure.fromOutput output "USB/IP attach failed"
      let state := {state with errors := Failures.insert busid error state.errors}
      if ¬busy error ∨ left = 0 then .done state else sleep (attempts host busid left state)

/-- Some block of a listing is that of a busid. -/
def listed (blocks : List (List Char × List Char)) (host busid : String) : Bool := blocks.any fun entry => portMatches entry.2 host busid

def attachLoop (host : String) (blocks : List (List Char × List Char)) : List String → Attaching → Operation Attaching
  | [], state => .done state
  | busid :: selected, state =>
    if listed blocks host busid then
      attachLoop host blocks selected {state with
        attached := state.attached ++ [busid]
        alreadyAttached := state.alreadyAttached ++ [busid] }
    else (attempts host busid 3 state).bind fun state =>
      if busid ∈ state.attached then attachLoop host blocks selected {state with errors := Failures.remove busid state.errors}
      else .done state

structure RollingBack where
  errors : Failures := []
  rolledBack : List String := []

def rollbackLoop (host : String) (newlyAttached : List String) : List (List Char × List Char) → RollingBack → Operation RollingBack
  | [], state => .done state
  | (number,block) :: blocks, state =>
    let matching := newlyAttached.filter fun busid => portMatches block host busid
    if matching = [] then rollbackLoop host newlyAttached blocks state
    else detachHelper (String.ofList number) fun detached =>
      if detached.code ≠ 0 then
        let failure := StepFailure.fromOutput detached ("port " ++ String.ofList number ++ " detach failed")
        rollbackLoop host newlyAttached blocks {state with errors := Failures.insert (String.ofList number) failure state.errors}
      else rollbackLoop host newlyAttached blocks {state with rolledBack := state.rolledBack ++ matching}

def rollBack (host : String) (newlyAttached : List String) : Operation Failures :=
  port fun ports =>
    if ports.code = 0 then
      (rollbackLoop host newlyAttached (portBlocks ports.stdout.toList) {}).bind fun state =>
        let missing := newlyAttached.filter fun busid => busid ∉ state.rolledBack
        .done <| if missing = [] then state.errors
          else Failures.insert "unresolved_busids"
            ⟨"USBIP_ROLLBACK_PORT_NOT_FOUND",1,"未找到待回滚端口: " ++ ", ".intercalate missing⟩ state.errors
    else .done [("port_query",StepFailure.fromOutput ports "usbip port failed during rollback")]

def partialError (state : Attaching) (rollback : Failures) : NativeError :=
  let attachDetails := "; ".intercalate (state.errors.map fun (busid,error) => busid ++ ": " ++ error.message)
  let failed := rollback ≠ []
  let details := if failed then attachDetails ++ "; 回滚未完成: " ++ "; ".intercalate (rollback.map fun entry => entry.2.message) else attachDetails
  { code := if failed then "USBIP_ROLLBACK_FAILED" else "USBIP_ATTACH_PARTIAL"
    message := if failed then "USB/IP接入未全部成功且回滚未完成: " ++ details else "USB/IP接入未全部成功，本次新增接入已回滚: " ++ details
    retryable := ¬failed
    remediation := if failed then "Inspect `usbip port` on this Worker and detach leaked ports before retrying"
      else "Retry the complete USB/IP selection"
    details := [("attach_errors",.failures state.errors),("rollback_errors",.failures rollback),
      ("newly_attached_busids",.names state.newlyAttached)] }

def nothingError (errors : Failures) : NativeError :=
  let details := "; ".intercalate (errors.map fun (busid,error) => busid ++ ": " ++ error.message)
  if errors.any fun entry => busy entry.2 then {
    code := "USBIP_EXPORT_BUSY"
    message := "USB设备仍被其他Worker或残留USB/IP会话占用；请先在原接入主机断开后重试。" ++ details
    retryable := true
    remediation := "Detach the export from its previous Worker or clear the stale USB/IP session"
    details := [("attach_errors",.failures errors)] }
  else {
    code := if errors.any fun entry => entry.2.code = "USBIP_COMMAND_TIMEOUT" then "USBIP_ATTACH_TIMEOUT" else "USBIP_ATTACH_FAILED"
    message := if details = "" then "USB/IP attach failed" else details
    retryable := true
    remediation := "Check source usbipd reachability, export state, and the Worker helper"
    details := [("attach_errors",.failures errors)] }

def verifyRound (host : String) (attached : List String) : Nat → Bool → List String → Operation (Except NativeError (List String))
  | 0, _, missing => .done (.ok missing)
  | left + 1, delayed, _ =>
    let query := port fun ports =>
      if ports.code ≠ 0 then .done (.error (portQueryError ports "post_attach_verification"))
      else
        let missing := attached.filter fun busid => ¬listed (portBlocks ports.stdout.toList) host busid
        if missing = [] then .done (.ok []) else verifyRound host attached left true missing
    if delayed then sleep query else query

def unstableError (host : String) (missing : List String) (verificationIndex : Nat) : NativeError where
  code := "USBIP_ATTACH_UNSTABLE"
  message := "USB/IP接入未保持连接，目标Worker上已找不到端口: " ++ ", ".intercalate missing
  retryable := true
  remediation := "Clear the stale source export, bind it again, and retry the attachment"
  details := [("missing_busids",.names missing),("source_host",.text host),("verification_index",.number (verificationIndex + 1))]

def verification (host : String) (attached : List String) (index : Nat) : Operation (Except NativeError Unit) :=
  (verifyRound host attached (if index = 0 then 6 else 1) (index > 0) attached).andThen fun missing =>
    .done (if missing = [] then .ok () else .error (unstableError host missing index))

/-- `device_serials`, a sorted set. -/
def deviceSerials (devices : List Device) : List String := (devices.map Device.serial).dedup.mergeSort fun first second => first ≤ second

def enumerate (before : List String) : Nat → List Device → List String → Operation (List Device × List String)
  | 0, devices, new => .done (devices,new)
  | left + 1, _, _ => sleep <| probeDevices true fun devices =>
    let new := (deviceSerials devices).filter fun serial => serial ∉ before
    if new ≠ [] then .done (devices,new) else enumerate before left devices new

def attachedResult (payload : UsbipPayload) (state : Attaching) (devices : List Device) (new : List String) (ready : Bool) : OperationResult where
  attachedBusids := state.attached
  alreadyAttachedBusids := state.alreadyAttached
  devices := devices
  newDevices := new
  enumerationPending := ¬ready
  transportState := "attached"
  protocolState := if ready then "adb" else "enumerating"
  readiness := if ready then "test_ready" else "transport_ready"
  generation := payload.generation

def settle (payload : UsbipPayload) (selected before : List String) (state : Attaching) : Operation (Except NativeError OperationResult) :=
  if state.alreadyAttached.length = selected.length ∧ state.newlyAttached = [] then
    probeDevices true fun devices => .done (.ok (attachedResult payload state devices [] (devices ≠ [])))
  else (enumerate before 15 [] []).bind fun (devices,new) => .done (.ok (attachedResult payload state devices new (new ≠ [])))

def attach (payload : UsbipPayload) (selected : List String) : Operation (Except NativeError OperationResult) :=
  probeDevices false fun devices => port fun currentPorts =>
    if currentPorts.code ≠ 0 then .done (.error (portQueryError currentPorts "attach"))
    else (attachLoop payload.sourceHost (portBlocks currentPorts.stdout.toList) selected {}).bind fun state =>
      if state.errors ≠ [] ∧ state.attached ≠ [] then
        (rollBack payload.sourceHost state.newlyAttached).bind fun rollback => .done (.error (partialError state rollback))
      else if state.attached = [] then .done (.error (nothingError state.errors))
      else (verification payload.sourceHost state.attached 0).andThen fun _ =>
        (verification payload.sourceHost state.attached 1).andThen fun _ => settle payload selected (deviceSerials devices) state

end GmsRemoteTest.WorkerUsbip
