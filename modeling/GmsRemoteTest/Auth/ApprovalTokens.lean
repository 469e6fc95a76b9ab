import GmsRemoteTest.Foundation.Fields
import GmsRemoteTest.Lib.Table

/-! One-shot approval tokens: what an approval is bound to when it is created, what a consumer presents, and that for a
burn the two agree only on one operation. `hash` is the hexadecimal SHA-256 and `lower` is `str.lower`; times are
microseconds. -/
namespace GmsRemoteTest.Auth
open Text

/-- A row of `platform_approval_tokens`. -/
structure ApprovalRow where
  tokenHash : String
  userId : String
  tool : String
  device : String
  commandHash : String
  createdAt : Nat
  expiresAt : Nat
  usedAt : Option Nat
deriving DecidableEq

def burnTool : String := "gms_rt_burn_firmware"

def burnDevices (value : String) : List String :=
  sorted (fromkeys (((split ',' value).map strip).filter (· ≠ "")))

def normalizeBurnDevices (value : String) : String := join ',' (burnDevices value)

/-- The arguments of `derive_burn_command`. -/
structure BurnOperation where
  device : String
  firmwareSha256 : String
  wipeData : Bool
  burnMode : String

section
variable (lower : String → String)

def BurnOperation.digest (operation : BurnOperation) : String := lower (strip operation.firmwareSha256)

def BurnOperation.mode (operation : BurnOperation) : String := lower (strip (orElse operation.burnMode "auto"))

/-- What an approval of a burn is about: the device set, the digest, the wipe flag and the mode. -/
def BurnOperation.normalized (operation : BurnOperation) : List String × String × Bool × String :=
  (burnDevices operation.device,operation.digest lower,operation.wipeData,operation.mode lower)

def BurnOperation.tail (operation : BurnOperation) : String :=
  operation.digest lower ++ (":wipe=" ++ (if operation.wipeData then "true" else "false")) ++ (":mode=" ++ operation.mode lower)

def deriveBurnCommand (operation : BurnOperation) : Except String String :=
  if operation.digest lower = "" then .error "firmware_sha256 必填"
  else if operation.mode lower ∉ ["auto","uf"] then .error "burn_mode 必须是 auto 或 uf"
  else .ok ("burn_firmware:" ++ normalizeBurnDevices operation.device ++ ":" ++ operation.tail lower)

end

/-- The arguments of `create_approval_token`. -/
structure ApprovalRequest where
  userId : String
  tool : String
  device : String
  command : String := ""
  firmwareSha256 : String := ""
  wipeData : Bool := true
  burnMode : String := "auto"
  ttlSeconds : Int := 300

def ApprovalRequest.operation (request : ApprovalRequest) : BurnOperation where
  device := strip request.device
  firmwareSha256 := request.firmwareSha256
  wipeData := request.wipeData
  burnMode := request.burnMode

structure Binding where
  tool : String
  device : String
  command : String

def ApprovalRequest.bind (lower : String → String) (request : ApprovalRequest) : Except String Binding :=
  if strip request.tool = "" ∨ strip request.device = "" then .error "tool 和 device 必填"
  else if strip request.tool = burnTool then
    match deriveBurnCommand lower request.operation with
    | .error message => .error message
    | .ok command =>
      if normalizeBurnDevices (strip request.device) = "" then .error "device 必须包含至少一个有效设备序列号"
      else .ok ⟨strip request.tool,normalizeBurnDevices (strip request.device),command⟩
  else .ok ⟨strip request.tool,strip request.device,request.command⟩

def ApprovalRequest.ttl (request : ApprovalRequest) : Nat :=
  (max 30 (min 600 (if request.ttlSeconds = 0 then 300 else request.ttlSeconds))).toNat

structure Issue where
  request : ApprovalRequest
  binding : Binding
  token : String
  now : Nat

def Issue.expiresAt (issue : Issue) : Nat := issue.now + issue.request.ttl * 1000000

section
variable (hash : String → String)

def Issue.row (issue : Issue) : ApprovalRow where
  tokenHash := hash issue.token
  userId := issue.request.userId
  tool := issue.binding.tool
  device := issue.binding.device
  commandHash := hash issue.binding.command
  createdAt := issue.now
  expiresAt := issue.expiresAt
  usedAt := none

def purgeApprovals (now : Nat) (rows : List ApprovalRow) : List ApprovalRow :=
  Table.delete (fun row => row.expiresAt ≤ now ∨ row.usedAt ≠ none) rows

/-- The arguments of `validate_approval_token` and `consume_approval_token`. -/
structure Presented where
  token : String
  tool : String
  device : String
  command : String

def Presented.Names (presented : Presented) (row : ApprovalRow) : Prop :=
  row.tokenHash = hash presented.token ∧ row.tool = strip presented.tool ∧ row.device = strip presented.device

instance (presented : Presented) : DecidablePred (presented.Names hash) := fun row =>
  inferInstanceAs (Decidable (row.tokenHash = hash presented.token ∧ row.tool = strip presented.tool ∧
    row.device = strip presented.device))

/-- What the SELECT and the checks after it answer, for a call that read the clock at `now`. -/
def Presented.accepted (presented : Presented) (now : Nat) (rows : List ApprovalRow) : Bool :=
  match Table.fetch (presented.Names hash) rows with
  | none => false
  | some row => row.usedAt == none && !decide (row.expiresAt ≤ now) && row.commandHash == hash presented.command

theorem Presented.accepted_row {presented : Presented} {now : Nat} {rows : List ApprovalRow} (accepted : presented.accepted hash now rows = true) :
    ∃ row ∈ rows, presented.Names hash row ∧ row.usedAt = none ∧ now < row.expiresAt ∧ row.commandHash = hash presented.command := by
  unfold Presented.accepted at accepted
  cases found : Table.fetch (presented.Names hash) rows with
  | none => simp [found] at accepted
  | some row =>
    simp only [found,Bool.and_eq_true,beq_iff_eq,Bool.not_eq_true',decide_eq_false_iff_not,Nat.not_le] at accepted
    exact ⟨row,Table.fetch_mem found,Table.fetch_selects found,accepted.1.1,accepted.1.2,accepted.2⟩

end

/-- The two callers that consume the approval of a burn: the consume endpoint with a device spec of its
client, and the burn endpoint with the device list it is about to burn. -/
inductive BurnRequest where
  | endpoint (operation : BurnOperation)
  | burn (devices : List String) (firmwareSha256 : String) (wipeData : Bool) (burnMode : String)

def BurnRequest.operation : BurnRequest → BurnOperation
  | .endpoint operation => {operation with device := strip operation.device}
  | .burn devices firmwareSha256 wipeData burnMode => ⟨join ',' (sorted devices),firmwareSha256,wipeData,burnMode⟩

def BurnRequest.device : BurnRequest → String
  | .endpoint operation => normalizeBurnDevices (strip operation.device)
  | .burn devices _ _ _ => join ',' (sorted devices)

/-- What a caller passes to `consume_approval_token`; both strip the token they were sent. -/
def BurnRequest.presents (lower : String → String) (asked : BurnRequest) (token : String) : Except String Presented :=
  match asked with
  | .endpoint operation =>
    if strip token = "" ∨ strip operation.device = "" then .error "token/tool/device 必填"
    else match deriveBurnCommand lower asked.operation with
    | .error message => .error message
    | .ok command =>
      if asked.device = "" then .error "device 必须包含至少一个有效设备序列号"
      else .ok ⟨strip token,burnTool,asked.device,command⟩
  | .burn .. =>
    if strip token = "" then .error "Agent 烧录需要一次性审批令牌：请让用户运行 gms-rt-approval-create --tool gms_rt_burn_firmware ... 并携带 approval_token 重试"
    else match deriveBurnCommand lower asked.operation with
    | .error message => .error message
    | .ok command => .ok ⟨strip token,burnTool,asked.device,command⟩

theorem BurnRequest.presents_ok {lower : String → String} {asked : BurnRequest} {token : String} {presented : Presented}
    (presents : asked.presents lower token = .ok presented) :
    ∃ command, deriveBurnCommand lower asked.operation = .ok command ∧ presented = ⟨strip token,burnTool,asked.device,command⟩ := by
  cases derived : deriveBurnCommand lower asked.operation with
  | error message =>
    cases asked with
    | endpoint operation =>
      unfold BurnRequest.presents at presents
      simp only [derived] at presents
      split at presents <;> cases presents
    | burn devices digest wipe mode =>
      unfold BurnRequest.presents at presents
      simp only [derived] at presents
      split at presents <;> cases presents
  | ok command =>
    refine ⟨command,rfl,?_⟩
    cases asked with
    | endpoint operation =>
      unfold BurnRequest.presents at presents
      simp only [derived] at presents
      split at presents
      · cases presents
      · split at presents
        · cases presents
        · exact (Except.ok.inj presents).symm
    | burn devices digest wipe mode =>
      unfold BurnRequest.presents at presents
      simp only [derived] at presents
      split at presents
      · cases presents
      · exact (Except.ok.inj presents).symm

theorem burnDevices_strip (value : String) : burnDevices (strip value) = burnDevices value := by
  unfold burnDevices
  rw [split_strip (by decide)]

theorem mem_burnDevices {value device : String} (member : device ∈ burnDevices value) :
    device ≠ "" ∧ strip device = device ∧ ',' ∉ device.toList := by
  unfold burnDevices at member
  rw [mem_sorted,mem_fromkeys,List.mem_filter,List.mem_map] at member
  obtain ⟨⟨part,listed,rfl⟩,nonempty⟩ := member
  exact ⟨by simpa using nonempty,strip_strip part,fun inside => not_mem_split listed (mem_strip inside)⟩

theorem burnDevices_normalize (value : String) : burnDevices (normalizeBurnDevices value) = burnDevices value := by
  have facts : ∀ device ∈ burnDevices value, device ≠ "" ∧ strip device = device ∧ ',' ∉ device.toList :=
    fun _ member => mem_burnDevices member
  have distinct : (burnDevices value).Nodup := sorted_nodup (fromkeys_nodup _)
  have ordered : sorted (burnDevices value) = burnDevices value := sorted_sorted _
  unfold normalizeBurnDevices
  generalize burnDevices value = devices at facts distinct ordered ⊢
  cases devices with
  | nil => rfl
  | cons first devices =>
    have pieces : split ',' (join ',' (first::devices)) = first::devices :=
      split_join (fun device member => (facts device member).2.2) (List.cons_ne_nil first devices)
    have stripped : (first::devices).map strip = first::devices := by
      rw [List.map_congr_left fun device member => (facts device member).2.1,List.map_id']
    have kept : (first::devices).filter (· ≠ "") = first::devices :=
      List.filter_eq_self.mpr fun device member => by simpa using (facts device member).1
    unfold burnDevices
    rw [pieces,stripped,kept,fromkeys_of_nodup distinct,ordered]

theorem BurnRequest.devices_eq {asked : BurnRequest} {value : String} (named : strip asked.device = normalizeBurnDevices value) :
    burnDevices asked.operation.device = burnDevices value := by
  have canonical : burnDevices asked.device = burnDevices asked.operation.device := by
    cases asked with
    | endpoint operation => exact burnDevices_normalize _
    | burn devices digest wipe mode => rfl
  calc burnDevices asked.operation.device = burnDevices (strip asked.device) := by rw [burnDevices_strip,canonical]
    _ = burnDevices (normalizeBurnDevices value) := by rw [named]
    _ = burnDevices value := burnDevices_normalize value

section
variable {lower : String → String} {operation other : BurnOperation}

theorem deriveBurnCommand_ok {command : String} (derived : deriveBurnCommand lower operation = .ok command) :
    (operation.mode lower = "auto" ∨ operation.mode lower = "uf") ∧
      command = "burn_firmware:" ++ normalizeBurnDevices operation.device ++ ":" ++ operation.tail lower := by
  unfold deriveBurnCommand at derived
  split at derived
  · cases derived
  · split at derived
    · cases derived
    · rename_i known
      refine ⟨?_,(Except.ok.inj derived).symm⟩
      simpa [or_iff_not_imp_left] using known

theorem BurnOperation.tail_inj (known : operation.mode lower = "auto" ∨ operation.mode lower = "uf")
    (knownOther : other.mode lower = "auto" ∨ other.mode lower = "uf") (same : operation.tail lower = other.tail lower) :
    operation.digest lower = other.digest lower ∧ operation.wipeData = other.wipeData ∧ operation.mode lower = other.mode lower := by
  unfold tail at same
  have modes : operation.mode lower = other.mode lower := by
    rcases known with first | first <;> rcases knownOther with second | second
    · rw [first,second]
    · rw [first,second] at same
      exact (append_ne_of_last (by decide) same).elim
    · rw [first,second] at same
      exact (append_ne_of_last (by decide) same).elim
    · rw [first,second]
  rw [modes] at same
  have front := append_right_inj same
  have wipes : operation.wipeData = other.wipeData := by
    cases first : operation.wipeData <;> cases second : other.wipeData
    · rfl
    · rw [first,second] at front
      exact (append_ne_of_last (by decide) front).elim
    · rw [first,second] at front
      exact (append_ne_of_last (by decide) front).elim
    · rfl
  rw [wipes] at front
  exact ⟨append_right_inj front,wipes,modes⟩

theorem deriveBurnCommand_inj {command : String} (derived : deriveBurnCommand lower operation = .ok command)
    (derivedOther : deriveBurnCommand lower other = .ok command) (devices : burnDevices operation.device = burnDevices other.device) :
    operation.normalized lower = other.normalized lower := by
  obtain ⟨known,shape⟩ := deriveBurnCommand_ok derived
  obtain ⟨knownOther,shapeOther⟩ := deriveBurnCommand_ok derivedOther
  have tails : operation.tail lower = other.tail lower := by
    rw [shape] at shapeOther
    unfold normalizeBurnDevices at shapeOther
    rw [devices] at shapeOther
    exact tag_inj _ shapeOther
  obtain ⟨digests,wipes,modes⟩ := BurnOperation.tail_inj known knownOther tails
  unfold BurnOperation.normalized
  rw [devices,digests,wipes,modes]

end

theorem ApprovalRequest.bind_burn {lower : String → String} {request : ApprovalRequest} {binding : Binding} {asked : BurnRequest}
    {token : String} {presented : Presented} (bound : request.bind lower = .ok binding) (tool : binding.tool = strip presented.tool)
    (presents : asked.presents lower token = .ok presented) (device : binding.device = strip presented.device)
    (command : binding.command = presented.command) :
    asked.operation.normalized lower = request.operation.normalized lower := by
  obtain ⟨derived,derives,rfl⟩ := BurnRequest.presents_ok presents
  have burn : binding.tool = burnTool := tool.trans (by decide : strip burnTool = burnTool)
  unfold ApprovalRequest.bind at bound
  split at bound
  · cases bound
  · split at bound
    · split at bound
      · cases bound
      · rename_i compiled compiles
        split at bound
        · cases bound
        · cases bound
          have devices := BurnRequest.devices_eq device.symm
          subst command
          exact deriveBurnCommand_inj derives compiles devices
    · rename_i other
      cases bound
      exact absurd burn other

end GmsRemoteTest.Auth
