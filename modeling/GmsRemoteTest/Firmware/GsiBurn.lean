import GmsRemoteTest.Foundation.Acquisition
import GmsRemoteTest.Foundation.DeviceLocks
import GmsRemoteTest.Firmware.SourceRelease

/-! `burn_gsi` and the locks it takes. They are released by a call at each exit of the steps after the lock, so the
exits without one keep them: a cancellation, a broadcast of the lock that fails, and a release that fails. -/
namespace GmsRemoteTest.Firmware.Gsi
open DeviceClaims DeviceLocks Exits Exits.Program Text

/-- Who burns: the client id of `get_client_id_from_request`, and the Worker whose devices are locked. -/
structure Caller where
  clientId : String
  trimmed : strip clientId = clientId
  workerId : String

def Caller.manager (caller : Caller) : Manager := Manager.configureLocalWorker {} caller.workerId

def Caller.sourceId (caller : Caller) : String := "firmware:" ++ caller.clientId

def Caller.key (caller : Caller) (device : String) : String := (caller.manager.device device).deviceKey

structure GsiRequest where
  devices : List String
  scriptPath : String
  systemImg : String
  vendorImg : String

inductive Unlock
  | done (now later : Nat)
  | failed (read : Option Nat)

/-- A call of `release_firmware_devices`. -/
structure Release where
  unlock : String → Unlock
  broadcast : Outcome Unit

structure BurnResult where
  code : Int
  timedOut : Bool

/-- What the calls for one device come to; `detail` is the text of what fails. A log that nobody receives returns. -/
structure DeviceOutcomes where
  announced : Outcome Unit
  prepared : Outcome Unit
  streamed : Outcome BurnResult
  rebooted : Outcome Bool
  told : Outcome Unit
  detail : String

/-- What the calls to the outside come to, in their order. -/
structure GsiOutcomes where
  request : Outcome GsiRequest
  imported : String → Bool
  connection : Outcome Bool
  protocols : Outcome (String → String)
  skipped : Outcome Unit
  username : Outcome String
  locking : Outcome (Nat × Nat)
  locked : Outcome Unit
  routes : Outcome (Option String)
  atRoutes : Release
  upload : Outcome Unit
  system : Outcome (Option String)
  atSystem : Release
  vendor : Outcome (Option String)
  atVendor : Release
  started : Outcome Unit
  device : String → DeviceOutcomes
  atEnd : Release
  completed : Outcome Unit
  atFailure : Release
  /-- The response of the exception handlers. -/
  failure : Response

structure DeviceResult where
  device : String
  success : Bool
  error : String := ""
  timedOut : Bool := false

def isSafeDeviceId (text : String) : Bool :=
  1 ≤ text.toList.length && text.toList.length ≤ 128 && text.toList.all fun c => c.isAlphanum || ['.','_',':','-'].contains c

def normalizeFirmwareDevices (values : List String) : List String × List String :=
  let requested := fromkeys ((values.map strip).filter (· ≠ ""))
  let devices := requested.filter isSafeDeviceId
  (devices,requested.filter (· ∉ devices))

def refuse {α : Type} (status : Nat) (message : String) : Outcome (Except Response α) := pure (.error ⟨status,message⟩)

def flashReady (protocol : String) : Bool := protocol = "adb" || protocol = "fastboot"

def onlineDevices (outcomes : GsiOutcomes) : Outcome (Except Response (GsiRequest × List String)) := do
  let request ← outcomes.request
  let devices := (normalizeFirmwareDevices request.devices).1
  let proxies := devices.filter outcomes.imported
  if (normalizeFirmwareDevices request.devices).2 ≠ [] then refuse 400 "Invalid device serial"
  else if devices = [] then refuse 400 "No devices selected"
  else if proxies ≠ [] then refuse 409 ("ADB Proxy远程设备不支持GSI烧写，请在设备来源主机操作: " ++ ", ".intercalate proxies)
  else if strip request.scriptPath = "" then refuse 400 "Script path is required"
  else if strip request.systemImg = "" ∧ strip request.vendorImg = "" then
    refuse 400 "At least one of system image or vendor boot image is required"
  else
    let connected ← outcomes.connection
    if connected = false then refuse 502 "SSH connection failed"
    else
      let protocols ← outcomes.protocols
      let online := devices.filter fun device => flashReady (protocols device)
      if online = [] then refuse 409 ("没有可烧写的 ADB/Fastboot 设备，离线/状态异常: " ++ ", ".intercalate devices)
      else do
        outcomes.skipped.suppressed
        pure (.ok (request,online))

structure LockCall where
  request : GsiRequest
  devices : List String
  username : String
  now : Nat
  later : Nat

def lockCall (outcomes : GsiOutcomes) : Outcome (Except Response LockCall) := do
  match ← onlineDevices outcomes with
  | .error response => pure (.error response)
  | .ok (request,devices) => do
    let username ← outcomes.username
    let (now,later) ← outcomes.locking
    pure (.ok {request,devices,username,now,later})

def burnDevice (outcomes : DeviceOutcomes) (device : String) : Outcome DeviceResult := do
  outcomes.announced.suppressed
  match outcomes.prepared with
  | .cancelled => .cancelled
  | .raised => do
    outcomes.told.suppressed
    pure {device, success := false, error := "Fastboot preparation failed: " ++ outcomes.detail}
  | .returned _ => do
    let burned ← outcomes.streamed
    if burned.code = 0 then do
      let rebooted ← outcomes.rebooted
      outcomes.told.suppressed
      pure (if rebooted then {device, success := true} else {device, success := false, error := "镜像已写入，但设备重启失败: " ++ outcomes.detail})
    else do
      outcomes.told.suppressed
      pure {device, success := false, error := outcomes.detail, timedOut := burned.timedOut}

def burnEach (outcomes : GsiOutcomes) : List String → Outcome (List DeviceResult)
  | [] => pure []
  | device :: devices => do
    let result ← burnDevice (outcomes.device device) device
    let results ← burnEach outcomes devices
    pure (result :: results)

def lookUp (image : String) (outcome : Outcome (Option String)) : Outcome (Option String) :=
  if strip image = "" then pure none else outcome

structure Refusal where
  release : Release
  status : Nat
  message : String

def flashSteps (outcomes : GsiOutcomes) (request : GsiRequest) (devices : List String) : Outcome (Refusal ⊕ List DeviceResult) := do
  match ← outcomes.routes with
  | some error => pure (.inl ⟨outcomes.atRoutes,409,error⟩)
  | none => do
    outcomes.upload
    match ← lookUp request.systemImg outcomes.system with
    | some error => pure (.inl ⟨outcomes.atSystem,404,error⟩)
    | none => match ← lookUp request.vendorImg outcomes.vendor with
      | some error => pure (.inl ⟨outcomes.atVendor,404,error⟩)
      | none => do
        outcomes.started.suppressed
        let results ← burnEach outcomes devices
        pure (.inr results)

def respond (results : List DeviceResult) : Response :=
  let failed := results.filter fun result => result.success = false
  if failed = [] then ⟨200,"GSI burn completed successfully"⟩
  else ⟨if failed.any DeviceResult.timedOut then 504 else 502,
    "部分设备烧写失败: " ++ "; ".intercalate (failed.map fun result => result.device ++ ": " ++ result.error)⟩

def occupied (claim : Claim) : String :=
  "- " ++ orElse claim.serial claim.deviceKey ++ " (设备已被 " ++ orElse claim.username claim.ownerId ++ " 的 " ++
    orElse claim.sourceType "operation" ++ " 占用)"

section calls
variable (caller : Caller) (outcomes : GsiOutcomes)

def lockDevices (registry : Registry) (call : LockCall) : Except ClaimError Acquisition × Registry :=
  caller.manager.lockDevices registry call.devices caller.clientId call.username caller.sourceId "firmware" lockTtlSeconds false call.now call.later

def lockFirmwareDevices (call : LockCall) : Program Registry Response Unit := do
  let registry ← read
  let (result,after) := lockDevices caller registry call
  modify fun _ => after
  match result with
  | .error _ => exit .raised
  | .ok acquisition =>
    if acquisition.acquired = false then
      exit (.result ⟨409,"\n".intercalate ("Devices occupied:" :: acquisition.records.map occupied)⟩)
    else await outcomes.locked

def unlockEach (release : Release) : List String → Program Registry Response Unit
  | [] => pure ()
  | device :: devices => match release.unlock device with
    | .done now later => do
      modify fun registry => (caller.manager.unlockDevice registry device caller.clientId caller.sourceId now later).2
      unlockEach release devices
    | .failed none => exit .raised
    | .failed (some now) => do
      modify fun registry => (activeClaim registry (caller.key device) now).2
      exit .raised

def releaseFirmwareDevices (release : Release) (devices : List String) : Program Registry Response Unit := do
  unlockEach caller release devices
  await release.broadcast

def tryRelease (release : Release) (devices : List String) : Program Registry Response Unit :=
  handling (releaseFirmwareDevices caller release devices) (pure ())

def refused (refusal : Refusal) (devices : List String) : Program Registry Response Response := do
  releaseFirmwareDevices caller refusal.release devices
  pure ⟨refusal.status,refusal.message⟩

def finished (results : List DeviceResult) (devices : List String) : Program Registry Response Response := do
  tryRelease caller outcomes.atEnd devices
  suppress outcomes.completed
  pure (respond results)

def flashDevices (request : GsiRequest) (devices : List String) : Program Registry Response Response := do
  match ← await (flashSteps outcomes request devices) with
  | .inl refusal => refused caller refusal devices
  | .inr results => finished caller outcomes results devices

def handled (devices : List String) : Program Registry Response Response := do
  tryRelease caller outcomes.atFailure devices
  pure outcomes.failure

def burnGsi : Program Registry Response Response :=
  catching outcomes.failure do
    match ← await (lockCall outcomes) with
    | .error response => pure response
    | .ok call => do
      lockFirmwareDevices caller outcomes call
      handling (flashDevices caller outcomes call.request call.devices) (handled caller outcomes call.devices)

end calls

structure Visit where
  key : Option String
  now : Nat

def Release.visits (caller : Caller) (release : Release) : List String → List Visit
  | [] => []
  | device :: devices => match release.unlock device with
    | .done now _ => ⟨some (caller.key device),now⟩ :: release.visits caller devices
    | .failed none => []
    | .failed (some now) => [⟨none,now⟩]

def Unlock.raises : Unlock → Bool
  | .done _ _ => false
  | .failed _ => true

def Release.raises (release : Release) (devices : List String) : Bool :=
  (devices.any fun device => (release.unlock device).raises) || decide (release.broadcast = .raised)

def lapsed (row : Claim) (now : Nat) : Claim := {row with status := .expired, releasedAt := some now}

/-- The call leaves no claim of its own behind, and of the claims of other sources it has ended at most those whose time was past. -/
structure Released (caller : Caller) (before after : Registry) : Prop where
  freed : ∀ row ∈ after.rows, row.sourceId = strip caller.sourceId → row.status = .active → ∃ old ∈ before.rows, old.id = row.id
  spared : ∀ row ∈ before.rows, row.sourceId ≠ strip caller.sourceId → row ∈ after.rows ∨
    ∃ now, row.expiresAt ≤ now ∧ lapsed row now ∈ after.rows

def Locks (caller : Caller) (outcomes : GsiOutcomes) (registry : Registry) (call : LockCall) : Prop :=
  lockCall outcomes = .returned (.ok call) ∧ ∃ records, (lockDevices caller registry call).1 = .ok ⟨true,records⟩

def LockCall.expires (call : LockCall) : Nat := expiresAt call.later lockTtlSeconds

def visits (caller : Caller) (outcomes : GsiOutcomes) (devices : List String) : Outcome (Refusal ⊕ List DeviceResult) → List Visit
  | .cancelled => []
  | .raised => outcomes.atFailure.visits caller devices
  | .returned (.inl refusal) => refusal.release.visits caller devices ++
    if refusal.release.raises devices then outcomes.atFailure.visits caller devices else []
  | .returned (.inr _) => outcomes.atEnd.visits caller devices

/-- A release of a call that has locked devices unlocks each of them, or looks at the claims when their time is past. -/
def Frees (caller : Caller) (outcomes : GsiOutcomes) (registry : Registry) : Prop :=
  ∀ call, Locks caller outcomes registry call → outcomes.locked = .returned () ∧
    ∀ device ∈ call.devices, ∃ visit ∈ visits caller outcomes call.devices (flashSteps outcomes call.request call.devices),
      visit.key = some (caller.key device) ∨ call.expires ≤ visit.now

theorem worker_named (caller : Caller) : strip caller.manager.localWorkerId = caller.manager.localWorkerId ∧ caller.manager.localWorkerId ≠ "" := by
  have plain : strip defaultLocalWorkerId = defaultLocalWorkerId ∧ defaultLocalWorkerId ≠ "" := by decide +kernel
  have shape : caller.manager.localWorkerId = orElse (strip (orElse caller.workerId defaultLocalWorkerId)) defaultLocalWorkerId := by
    unfold Caller.manager Manager.configureLocalWorker
    dsimp only
  rw [shape]
  generalize orElse caller.workerId defaultLocalWorkerId = given
  unfold orElse
  by_cases blank : strip given = ""
  · rw [if_pos blank]
    exact plain
  · rw [if_neg blank]
    exact ⟨strip_strip given,blank⟩

theorem safe_named {device : String} (safe : isSafeDeviceId device = true) : device ≠ "" ∧ Solid device := by
  simp only [isSafeDeviceId,Bool.and_eq_true,decide_eq_true_eq,List.all_eq_true,Bool.or_eq_true] at safe
  obtain ⟨⟨long,-⟩,chars⟩ := safe
  refine ⟨?_,fun c member => ?_⟩
  · rintro rfl
    simp at long
  · rcases chars c member with alphanum | mark
    · exact alphanum_solid alphanum
    · have listed : c ∈ ['.','_',':','-'] := by simpa using mark
      simp only [List.mem_cons,List.not_mem_nil,or_false] at listed
      rcases listed with rfl | rfl | rfl | rfl <;> rfl

theorem online_named {outcomes : GsiOutcomes} {request : GsiRequest} {devices : List String}
    (online : onlineDevices outcomes = .returned (.ok (request,devices))) : devices ≠ [] ∧ ∀ device ∈ devices, device ≠ "" ∧ Solid device := by
  obtain ⟨given,-,online⟩ := Outcome.bind_returned.mp online
  dsimp only at online
  repeat' split at online
  all_goals try cases online
  obtain ⟨connected,-,online⟩ := Outcome.bind_returned.mp online
  split at online
  · cases online
  · obtain ⟨protocols,-,online⟩ := Outcome.bind_returned.mp online
    split at online
    · cases online
    · rename_i some
      obtain ⟨_,-,online⟩ := Outcome.bind_returned.mp online
      cases online
      refine ⟨some,fun device member => ?_⟩
      have safe := (List.mem_filter.mp (List.mem_filter.mp member).1).2
      exact safe_named safe

section burning
variable {caller : Caller} {before after : Registry} {keys : List String} {expires : Nat} {left : String → Prop}

structure Burning (caller : Caller) (before : Registry) (keys : List String) (expires : Nat) (left : String → Prop) (after : Registry) : Prop where
  spared : ∀ row ∈ before.rows, row.sourceId ≠ strip caller.sourceId → row ∈ after.rows ∨
    ∃ now, row.expiresAt ≤ now ∧ lapsed row now ∈ after.rows
  active : ∀ row ∈ after.rows, row.status = .active →
    (row.deviceKey ∈ keys ∧ left row.deviceKey ∧ row.ownerId = caller.clientId ∧ row.sourceId = strip caller.sourceId ∧
      row.expiresAt = expires ∧ before.uuid ≤ row.id) ∨ (row.deviceKey ∉ keys ∧ ∃ old ∈ before.rows, old.id = row.id)
  left : ∀ key, left key → key ∈ keys ∧ ∃ row ∈ after.rows, row.status = .active ∧ row.deviceKey = key

section
variable (burning : Burning caller before keys expires left after)
include burning

theorem Burning.congr {other : String → Prop} (same : ∀ key, left key ↔ other key) :
    Burning caller before keys expires other after := by
  have equal : left = other := funext fun key => propext (same key)
  rwa [equal] at burning

theorem Burning.released (numbered : before.Numbered) :
    Released caller before after ↔ ∀ key ∈ keys, ¬left key := by
  constructor
  · intro released key inside still
    obtain ⟨-,row,member,active,named⟩ := burning.left key still
    rcases burning.active row member active with own | other
    · obtain ⟨old,there,same⟩ := released.freed row member own.2.2.2.1 active
      have earlier := numbered old there
      have later := own.2.2.2.2.2
      omega
    · exact other.1 (named ▸ inside)
  · refine fun free => ⟨fun row member _ active => ?_,burning.spared⟩
    rcases burning.active row member active with own | other
    · exact absurd own.2.1 (free _ own.1)
    · exact other.2

theorem Burning.expire (now : Nat) :
    Burning caller before keys expires (fun key => left key ∧ now < expires) {after with rows := expire now after.rows} where
  spared := by
    intro row member other
    unfold DeviceClaims.expire
    simp only [Table.mem_update]
    rcases burning.spared row member other with there | ⟨earlier,past,there⟩
    · by_cases past : row.status = .active ∧ row.expiresAt ≤ now
      · exact .inr ⟨now,past.2,row,there,if_pos past⟩
      · exact .inl ⟨row,there,if_neg past⟩
    · exact .inr ⟨earlier,past,_,there,if_neg fun active => (by cases active.1)⟩
  active := by
    intro row member active
    obtain ⟨old,there,rfl⟩ := Table.mem_update.mp member
    split at active
    · cases active
    · rename_i standing
      rw [if_neg standing]
      rcases burning.active old there active with own | other
      · exact .inl ⟨own.1,⟨own.2.1,by rw [← own.2.2.2.2.1]; exact not_le.mp fun past => standing ⟨active,past⟩⟩,own.2.2⟩
      · exact .inr other
  left := by
    rintro key ⟨still,early⟩
    obtain ⟨inside,row,there,active,named⟩ := burning.left key still
    refine ⟨inside,row,Table.mem_update.mpr ⟨row,there,if_neg fun past => ?_⟩,active,named⟩
    rcases burning.active row there active with own | other
    · have late := past.2
      rw [own.2.2.2.2.1] at late
      omega
    · exact other.1 (named ▸ inside)

theorem Burning.close (key : String) (later : Nat) :
    Burning caller before keys expires (fun other => left other ∧ other ≠ key)
      (release after (strip caller.sourceId) .released [key] later).2 := by
  unfold release
  rw [if_neg (by decide)]
  refine ⟨?_,?_,?_⟩
  · intro row member other
    simp only [Table.mem_update]
    rcases burning.spared row member other with there | ⟨earlier,past,there⟩
    · exact .inl ⟨row,there,if_neg fun held => other held.1⟩
    · exact .inr ⟨earlier,past,_,there,if_neg fun held => other held.1⟩
  · intro row member active
    obtain ⟨old,there,rfl⟩ := Table.mem_update.mp member
    split at active
    · cases active
    · rename_i unheld
      rw [if_neg unheld]
      rcases burning.active old there active with own | other
      · exact .inl ⟨own.1,⟨own.2.1,fun same => unheld ⟨own.2.2.2.1,active,.inr (by simp [same])⟩⟩,own.2.2⟩
      · exact .inr other
  · rintro other ⟨still,apart⟩
    obtain ⟨listed,row,there,active,named⟩ := burning.left other still
    refine ⟨listed,row,Table.mem_update.mpr ⟨row,there,if_neg fun held => ?_⟩,active,named⟩
    rcases held.2.2 with none | same
    · cases none
    · exact apart (named ▸ List.mem_singleton.mp same)

theorem Burning.unlock {device : String} (inside : caller.key device ∈ keys)
    (now later : Nat) : Burning caller before keys expires (fun key => (left key ∧ now < expires) ∧ key ≠ caller.key device)
      (caller.manager.unlockDevice after device caller.clientId caller.sourceId now later).2 := by
  have expired := burning.expire now
  unfold Manager.unlockDevice activeClaim
  dsimp only
  rw [show (caller.manager.device device).deviceKey = caller.key device from rfl]
  cases found : activeRow (DeviceClaims.expire now after.rows) (caller.key device) with
  | none =>
    refine expired.congr fun key => ⟨fun still => ⟨still,?_⟩,fun still => still.1⟩
    rintro rfl
    obtain ⟨-,row,member,active,named⟩ := expired.left _ still
    exact Table.fetch_none.mp found row member ⟨named,active⟩
  | some claim =>
    have chosen := Table.fetch_selects found
    rcases expired.active claim (Table.fetch_mem found) chosen.2 with own | other
    · dsimp only
      have source : Manager.sourceId caller.clientId caller.sourceId = strip caller.sourceId := by
        unfold Manager.sourceId orElse
        rw [if_neg]
        unfold Caller.sourceId
        exact append_ne_empty _ _ (by decide)
      rw [if_neg (not_not.mpr own.2.2.1),source,if_neg fun wrong => wrong.2 own.2.2.2.1]
      dsimp only
      rw [own.2.2.2.1]
      exact expired.close _ later
    · exact absurd inside (chosen.1 ▸ other.1)

end

end burning

theorem mem_keys {caller : Caller} {devices : List String} (named : ∀ device ∈ devices, device ≠ "" ∧ Solid device) {key : String} :
    key ∈ requestedKeys (devices.map caller.manager.device) ↔ key ∈ devices.map caller.key := by
  have worker := worker_named caller
  have own : ∀ device ∈ devices, (caller.manager.device device).named ∧ strip (caller.key device) = caller.key device := by
    intro device member
    obtain ⟨nonempty,solid⟩ := named device member
    have plain : caller.key device = Text.key caller.manager.localWorkerId device := by
      unfold Caller.key Manager.device
      rw [solid.strip_eq]
    have whole : strip (caller.key device) = caller.key device := by
      rw [plain]
      exact strip_key worker.1 worker.2 solid nonempty
    refine ⟨?_,whole⟩
    rw [plain] at whole
    unfold DeviceRequest.named Manager.device
    dsimp only
    rw [solid.strip_eq,solid.strip_eq,whole,worker.1]
    exact ⟨append_ne_empty _ _ (append_ne_empty _ _ worker.2),worker.2,nonempty⟩
  rw [mem_requestedKeys]
  constructor
  · rintro ⟨request,listed,-,same⟩
    obtain ⟨device,member,rfl⟩ := List.mem_map.mp listed
    exact List.mem_map.mpr ⟨device,member,(own device member).2.symm.trans same⟩
  · intro listed
    obtain ⟨device,member,rfl⟩ := List.mem_map.mp listed
    exact ⟨_,List.mem_map_of_mem member,(own device member).1,(own device member).2⟩

theorem released_self (caller : Caller) (registry : Registry) : Released caller registry registry :=
  ⟨fun row member _ _ => ⟨row,member,rfl⟩,fun _ member _ => .inl member⟩

theorem lock_burning {caller : Caller} {registry : Registry} (keyed : registry.Keyed) {call : LockCall}
    (named : ∀ device ∈ call.devices, device ≠ "" ∧ Solid device) {records : List Claim}
    (taken : (lockDevices caller registry call).1 = .ok ⟨true,records⟩) :
    Burning caller registry (call.devices.map caller.key) call.expires (· ∈ call.devices.map caller.key)
      (lockDevices caller registry call).2 := by
  obtain ⟨request,devices,username,now,later⟩ := call
  have acquired := acquire_acquired registry keyed (devices.map caller.manager.device)
    ⟨caller.clientId,username,"firmware",caller.sourceId,lockTtlSeconds,false⟩ now later
  unfold lockDevices Manager.lockDevices at taken ⊢
  generalize acquire registry (devices.map caller.manager.device) _ now later = result at acquired taken ⊢
  cases acquired with
  | refused error => cases taken
  | conflict held clash => cases taken
  | granted records news after free grant =>
    have vacant : ∀ row ∈ expire now registry.rows, row.status = .active → row.deviceKey ∉ devices.map caller.key := by
      intro row member active inside
      exact (conflicts_ne_nil (keyed.expire now).1).mpr
        ⟨row,member,active,(mem_keys named).mpr inside,conflicting_iff.mpr (.inr (.inr rfl))⟩ free
    have table : after.rows = expire now registry.rows ++ news := by
      rw [grant.table]
      congr 1
      refine (List.map_congr_left fun row member => ?_).trans (List.map_id _)
      exact if_neg fun both => vacant row member both.1 ((mem_keys named).mp both.2)
    refine ⟨?_,?_,?_⟩
    · intro row member other
      rw [table]
      by_cases past : row.status = .active ∧ row.expiresAt ≤ now
      · exact .inr ⟨now,past.2,List.mem_append_left _ (Table.mem_update.mpr ⟨row,member,if_pos past⟩)⟩
      · exact .inl (List.mem_append_left _ (Table.mem_update.mpr ⟨row,member,if_neg past⟩))
    · intro row member active
      rw [table] at member
      rcases List.mem_append.mp member with there | new
      · obtain ⟨old,listed,same⟩ := Table.mem_update.mp there
        refine .inr ⟨vacant row there active,old,listed,?_⟩
        rw [← same]
        split <;> rfl
      · obtain ⟨issued,inside,-,fresh⟩ := grant.issued row new
        have inside := (mem_keys named).mp inside
        exact .inl ⟨inside,inside,issued.ownerId.trans caller.trimmed,issued.sourceId,issued.expiresAt,fresh⟩
    · intro key inside
      have free : Vacant (expire now registry.rows) key := fun row member same active => vacant row member active (same ▸ inside)
      obtain ⟨row,new,same⟩ := grant.complete key ((mem_keys named).mpr inside) free
      refine ⟨inside,row,?_,(grant.issued row new).1.active,same⟩
      rw [table]
      exact List.mem_append_right _ new

section releases
variable {caller : Caller} {before registry : Registry} {keys : List String} {expires : Nat} {left : String → Prop}

def Unvisited (expires : Nat) (visits : List Visit) (left : String → Prop) (key : String) : Prop :=
  left key ∧ ∀ visit ∈ visits, visit.key ≠ some key ∧ visit.now < expires

section
variable (release : Release) {devices : List String} (inside : ∀ device ∈ devices, caller.key device ∈ keys)
  (burning : Burning caller before keys expires left registry)
include inside burning

theorem unlockEach_burning :
    Burning caller before keys expires (Unvisited expires (release.visits caller devices) left) (unlockEach caller release devices registry).2 ∧
    (unlockEach caller release devices registry).1 =
      if (devices.any fun device => (release.unlock device).raises) then .error .raised else .ok () := by
  induction devices generalizing left registry with
  | nil => exact ⟨burning.congr fun key => by simp [Unvisited,Release.visits],rfl⟩
  | cons device devices ih =>
    have own := inside device (List.mem_cons_self ..)
    have others : ∀ device ∈ devices, caller.key device ∈ keys := fun other member => inside other (List.mem_cons_of_mem _ member)
    unfold unlockEach Release.visits
    rw [List.any_cons]
    cases step : release.unlock device with
    | done now later =>
      dsimp only
      rw [modify_bind]
      have rest := ih others (burning.unlock own now later)
      refine ⟨rest.1.congr fun key => ?_,rest.2⟩
      constructor
      · rintro ⟨⟨⟨still,early⟩,apart⟩,later⟩
        exact ⟨still,List.forall_mem_cons.mpr ⟨⟨fun same => apart (Option.some.inj same).symm,early⟩,later⟩⟩
      · rintro ⟨still,unseen⟩
        obtain ⟨⟨apart,early⟩,later⟩ := List.forall_mem_cons.mp unseen
        exact ⟨⟨⟨still,early⟩,fun same => apart (congrArg some same.symm)⟩,later⟩
    | failed read =>
      cases read with
      | none => exact ⟨burning.congr fun key => by simp [Unvisited],rfl⟩
      | some now =>
        dsimp only
        rw [modify_bind]
        exact ⟨(burning.expire now).congr fun key => by simp [Unvisited],rfl⟩

theorem release_burning :
    Burning caller before keys expires (Unvisited expires (release.visits caller devices) left)
      (releaseFirmwareDevices caller release devices registry).2 ∧
    ((releaseFirmwareDevices caller release devices registry).1 = .error .raised ↔ release.raises devices = true) := by
  obtain ⟨state,ending⟩ := unlockEach_burning release inside burning
  change Burning _ _ _ _ _ (Program.bind (unlockEach caller release devices) (fun _ => await release.broadcast) registry).2 ∧
    ((Program.bind (unlockEach caller release devices) (fun _ => await release.broadcast) registry).1 = _ ↔ _)
  unfold Program.bind Release.raises
  cases ran : unlockEach caller release devices registry with
  | mk answer final =>
    rw [ran] at state ending
    dsimp only at state ending
    subst ending
    by_cases fails : (devices.any fun device => (release.unlock device).raises) = true
    · rw [if_pos fails,fails]
      exact ⟨state,by simp⟩
    · rw [if_neg fails,Bool.eq_false_iff.mpr fails]
      cases sent : release.broadcast with
      | returned value => exact ⟨state,by simp [await,Program.pure]⟩
      | raised | cancelled => exact ⟨state,by simp [await,Program.exit]⟩

end

end releases

section burn
variable {caller : Caller} {outcomes : GsiOutcomes} {before registry : Registry} {request : GsiRequest} {devices keys : List String}
  {expires : Nat} {left : String → Prop}

theorem unvisited_append {first second : List Visit} {key : String} :
    Unvisited expires (first ++ second) left key ↔ Unvisited expires second (Unvisited expires first left) key := by
  unfold Unvisited
  rw [List.forall_mem_append,and_assoc]

theorem tryRelease_calm (caller : Caller) (release : Release) (devices : List String) (registry : Registry) :
    (tryRelease caller release devices registry).2 = (releaseFirmwareDevices caller release devices registry).2 ∧
      (tryRelease caller release devices registry).1 ≠ .error .raised := by
  unfold tryRelease
  by_cases raised : (releaseFirmwareDevices caller release devices registry).1 = .error .raised
  · rw [handling_raised raised]
    exact ⟨rfl,fun same => nomatch same⟩
  · rw [handling_calm raised]
    exact ⟨rfl,raised⟩

theorem handled_burning (inside : ∀ device ∈ devices, caller.key device ∈ keys) (burning : Burning caller before keys expires left registry) :
    Burning caller before keys expires (Unvisited expires (outcomes.atFailure.visits caller devices) left)
      (handled caller outcomes devices registry).2 := by
  unfold handled
  rw [bind_idle fun _ _ => rfl,(tryRelease_calm ..).1]
  exact (release_burning outcomes.atFailure inside burning).1

theorem finished_calm (caller : Caller) (outcomes : GsiOutcomes) (results : List DeviceResult) (devices : List String) (registry : Registry) :
    (finished caller outcomes results devices registry).2 = (releaseFirmwareDevices caller outcomes.atEnd devices registry).2 ∧
      (finished caller outcomes results devices registry).1 ≠ .error .raised := by
  have calm := tryRelease_calm caller outcomes.atEnd devices registry
  have closing : ∀ (value : Unit) (state : Registry), ((do suppress outcomes.completed; pure (respond results) :
      Program Registry Response Response) state).2 = state ∧ ((do suppress outcomes.completed; pure (respond results) :
      Program Registry Response Response) state).1 ≠ .error .raised := by
    intro _ state
    cases outcomes.completed <;> exact ⟨rfl,fun same => nomatch same⟩
  unfold finished
  exact ⟨(bind_idle fun value state => (closing value state).1).trans calm.1,
    (bind_raised fun value state => (closing value state).2).not.mpr calm.2⟩

theorem flash_burning (outcomes : GsiOutcomes) (request : GsiRequest) (inside : ∀ device ∈ devices, caller.key device ∈ keys)
    (burning : Burning caller before keys expires left registry) :
    Burning caller before keys expires (Unvisited expires (visits caller outcomes devices (flashSteps outcomes request devices)) left)
      (handling (flashDevices caller outcomes request devices) (handled caller outcomes devices) registry).2 := by
  cases steps : flashSteps outcomes request devices with
  | cancelled =>
    have cut : flashDevices caller outcomes request devices registry = (.error .cancelled,registry) := by
      unfold flashDevices
      rw [steps]
      rfl
    rw [handling_calm (by rw [cut]; exact fun same => nomatch same),cut]
    exact burning.congr fun key => by simp [Unvisited,visits]
  | raised =>
    have cut : flashDevices caller outcomes request devices registry = (.error .raised,registry) := by
      unfold flashDevices
      rw [steps]
      rfl
    rw [handling_raised (by rw [cut]),cut]
    exact handled_burning inside burning
  | returned ending =>
    cases ending with
    | inl refusal =>
      have goes : flashDevices caller outcomes request devices registry = refused caller refusal devices registry := by
        unfold flashDevices
        rw [steps]
        rfl
      have state : (refused caller refusal devices registry).2 = _ := bind_idle fun _ _ => rfl
      have ending : (refused caller refusal devices registry).1 = .error .raised ↔ _ := bind_raised fun _ _ same => nomatch same
      obtain ⟨left,raises⟩ := release_burning refusal.release inside burning
      by_cases raised : refusal.release.raises devices = true
      · rw [handling_raised (by rw [goes]; exact ending.mpr (raises.mpr raised)),goes,state]
        refine (handled_burning inside left).congr fun key => ?_
        rw [← unvisited_append,visits,if_pos raised]
      · rw [handling_calm (by rw [goes]; exact fun same => raised (raises.mp (ending.mp same))),goes,state]
        refine left.congr fun key => ?_
        rw [visits,if_neg raised,List.append_nil]
    | inr results =>
      have goes : flashDevices caller outcomes request devices registry = finished caller outcomes results devices registry := by
        unfold flashDevices
        rw [steps]
        rfl
      have calm := finished_calm caller outcomes results devices registry
      rw [handling_calm (by rw [goes]; exact calm.2),goes,calm.1]
      exact (release_burning outcomes.atEnd inside burning).1

theorem visits_leave (named : ∀ key ∈ keys, ∃ device ∈ devices, caller.key device = key)
    (inside : ∀ device ∈ devices, caller.key device ∈ keys) (visits : List Visit) : (∀ key ∈ keys, ¬Unvisited expires visits (· ∈ keys) key) ↔
      ∀ device ∈ devices, ∃ visit ∈ visits, visit.key = some (caller.key device) ∨ expires ≤ visit.now := by
  have seen : ∀ key ∈ keys, ¬Unvisited expires visits (· ∈ keys) key ↔ ∃ visit ∈ visits, visit.key = some key ∨ expires ≤ visit.now := by
    intro key listed
    unfold Unvisited
    constructor
    · intro visited
      by_contra none
      refine visited ⟨listed,fun visit member => ⟨fun same => none ⟨visit,member,.inl same⟩,?_⟩⟩
      exact not_le.mp fun past => none ⟨visit,member,.inr past⟩
    · rintro ⟨visit,member,unlocked | past⟩ ⟨-,unseen⟩
      · exact (unseen visit member).1 unlocked
      · exact absurd (unseen visit member).2 (not_lt.mpr past)
  constructor
  · exact fun free device member => (seen _ (inside device member)).mp (free _ (inside device member))
  · intro visited key listed
    obtain ⟨device,member,rfl⟩ := named key listed
    exact (seen _ listed).mpr (visited device member)

theorem lockCall_named {call : LockCall} (asked : lockCall outcomes = .returned (.ok call)) :
    call.devices ≠ [] ∧ ∀ device ∈ call.devices, device ≠ "" ∧ Solid device := by
  obtain ⟨answer,online,asked⟩ := Outcome.bind_returned.mp asked
  cases answer with
  | error response => cases asked
  | ok answer =>
    obtain ⟨username,-,asked⟩ := Outcome.bind_returned.mp asked
    obtain ⟨clock,-,asked⟩ := Outcome.bind_returned.mp asked
    cases asked
    exact online_named online

theorem lock_cases (caller : Caller) (keyed : before.Keyed) {call : LockCall} (asked : lockCall outcomes = .returned (.ok call)) :
    ((∃ exit, lockFirmwareDevices caller outcomes call before = (.error exit,before)) ∧ ¬Locks caller outcomes before call) ∨
    Locks caller outcomes before call ∧
      Burning caller before (call.devices.map caller.key) call.expires (· ∈ call.devices.map caller.key)
        (lockFirmwareDevices caller outcomes call before).2 ∧
      ((lockFirmwareDevices caller outcomes call before).1 = .ok () ↔ outcomes.locked = .returned ()) := by
  have goes : lockFirmwareDevices caller outcomes call before = (match (lockDevices caller before call).1 with
      | .error _ => exit .raised
      | .ok acquisition => if acquisition.acquired = false then
          exit (.result ⟨409,"\n".intercalate ("Devices occupied:" :: acquisition.records.map occupied)⟩)
        else await outcomes.locked : Program Registry Response Unit) (lockDevices caller before call).2 := rfl
  by_cases taken : ∃ records, (lockDevices caller before call).1 = .ok ⟨true,records⟩
  · refine .inr ⟨⟨asked,taken⟩,?_⟩
    obtain ⟨records,taken⟩ := taken
    have burning := lock_burning keyed (lockCall_named asked).2 taken
    rw [goes,taken]
    dsimp only
    rw [if_neg (by simp)]
    cases outcomes.locked <;> exact ⟨burning,by simp [await,Program.pure,Program.exit]⟩
  · refine .inl ⟨?_,fun locks => taken locks.2⟩
    have kept := (acquire_contract keyed (call.devices.map caller.manager.device)
      ⟨caller.clientId,call.username,"firmware",caller.sourceId,lockTtlSeconds,false⟩ call.now call.later).2.2.1 taken
    change (lockDevices caller before call).2 = before at kept
    rw [goes,kept]
    cases answer : (lockDevices caller before call).1 with
    | error error => exact ⟨_,rfl⟩
    | ok acquisition =>
      obtain ⟨acquired,records⟩ := acquisition
      cases acquired with
      | false => exact ⟨_,rfl⟩
      | true => exact absurd ⟨records,answer⟩ taken

/-- The claims of a call are free at its end, and those of other sources untouched, exactly where its releases reach all of them. -/
theorem locks_released_iff (caller : Caller) (outcomes : GsiOutcomes) (registry : Registry) (keyed : registry.Keyed) :
    Released caller registry (burnGsi caller outcomes registry).2 ↔ Frees caller outcomes registry := by
  have idle : (∀ call, ¬Locks caller outcomes registry call) → (Released caller registry registry ↔ Frees caller outcomes registry) :=
    fun none => iff_of_true (released_self caller registry) fun call locks => absurd locks (none call)
  have only : ∀ call other, lockCall outcomes = .returned (.ok call) → Locks caller outcomes registry other → other = call := by
    intro call other asked locks
    have same := locks.1
    rw [asked] at same
    cases same
    rfl
  unfold burnGsi
  rw [catching_state]
  cases asked : lockCall outcomes with
  | raised | cancelled => exact idle fun call locks => by rw [locks.1] at asked; cases asked
  | returned answer =>
    cases answer with
    | error response => exact idle fun call locks => by rw [locks.1] at asked; cases asked
    | ok call =>
      change Released caller registry (Program.bind (lockFirmwareDevices caller outcomes call)
        (fun _ => handling (flashDevices caller outcomes call.request call.devices) (handled caller outcomes call.devices)) registry).2 ↔ _
      unfold Program.bind
      rcases lock_cases caller keyed asked with ⟨⟨exit,stuck⟩,none⟩ | ⟨locks,burning,goes⟩
      · rw [stuck]
        exact idle fun other locks => none (only call other asked locks ▸ locks)
      · have frees : Frees caller outcomes registry ↔ _ := ⟨fun frees => frees call locks,fun visited other given => only call other asked given ▸ visited⟩
        rw [frees]
        have inside : ∀ device ∈ call.devices, caller.key device ∈ call.devices.map caller.key := fun device member => List.mem_map_of_mem member
        cases ran : lockFirmwareDevices caller outcomes call registry with
        | mk answer final =>
          rw [ran] at burning goes
          cases answer with
          | ok value =>
            have ended := flash_burning outcomes call.request inside burning
            dsimp only
            rw [ended.released keyed.numbered,visits_leave (fun key listed => List.mem_map.mp listed) inside]
            exact ⟨fun visited => ⟨goes.mp rfl,visited⟩,fun both => both.2⟩
          | error exit =>
            dsimp only
            rw [burning.released keyed.numbered]
            refine iff_of_false (fun free => ?_) fun both => nomatch goes.mpr both.1
            obtain ⟨device,member⟩ := List.exists_mem_of_ne_nil _ (lockCall_named asked).1
            exact free _ (inside device member) (inside device member)

end burn

def alice : Caller := ⟨"user-1",by decide +kernel,""⟩

def unlocking : Release := ⟨fun _ => .done 9 9,.returned ()⟩

def smooth : GsiOutcomes where
  request := .returned ⟨["S1"],"run_GSI_Burn.sh","system.img",""⟩
  imported := fun _ => false
  connection := .returned true
  protocols := .returned fun _ => "adb"
  skipped := .returned ()
  username := .returned "alice"
  locking := .returned (1,1)
  locked := .returned ()
  routes := .returned none
  atRoutes := unlocking
  upload := .returned ()
  system := .returned none
  atSystem := unlocking
  vendor := .returned none
  atVendor := unlocking
  started := .returned ()
  device := fun _ => ⟨.returned (),.returned (),.returned ⟨0,false⟩,.returned true,.returned (),""⟩
  atEnd := unlocking
  completed := .returned ()
  atFailure := unlocking
  failure := ⟨500,"GSI 烧写失败"⟩

theorem failed_upload_released : Released alice .empty (burnGsi alice {smooth with upload := .raised} .empty).2 := by
  refine (locks_released_iff alice _ .empty empty_valid.keyed).mpr fun call locks => ?_
  have asked : lockCall {smooth with upload := .raised} =
      .returned (.ok ⟨⟨["S1"],"run_GSI_Burn.sh","system.img",""⟩,["S1"],"alice",1,1⟩) := by
    rfl
  have same := locks.1
  rw [asked] at same
  cases same
  refine ⟨rfl,fun device member => ⟨⟨some (alice.key device),9⟩,?_,.inl rfl⟩⟩
  rw [List.mem_singleton.mp member]
  exact List.mem_cons_self ..

/-- The request is cancelled while the assets are sent. -/
theorem cancelled_upload_locked : ¬Released alice .empty (burnGsi alice {smooth with upload := .cancelled} .empty).2 := by
  intro released
  have locked : ∃ row ∈ (burnGsi alice {smooth with upload := .cancelled} .empty).2.rows,
      row.sourceId = strip alice.sourceId ∧ row.status = .active := by
    decide +kernel
  obtain ⟨row,member,own,active⟩ := locked
  obtain ⟨old,none,-⟩ := released.freed row member own active
  cases none

end GmsRemoteTest.Firmware.Gsi
