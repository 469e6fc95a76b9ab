import GmsRemoteTest.Firmware.SourceRelease

/-! `burn_firmware` for devices on USB/IP: the checks up to the hand-over of the devices to their source host, the flash
there, and the clean-up of every way out. It lifts the pauses by host; its call for the devices has a keyword that
`resume_usbip_reconnect` does not take, and the error is suppressed. -/
namespace GmsRemoteTest.Firmware
open Devices Exits Exits.Program Text

structure BurnCall where
  devices : List String
  /-- The request is to go on with an AOA recovery. -/
  aoaRecovery : Bool
  /-- The caller is an agent, who needs an approval. -/
  agent : Bool

/-- `ensure_usbip_auto_bind_policies`. -/
structure AutoBind where
  success : Bool
  error : String
  sourceOs : String

structure FlashOutcome where
  device : String
  success : Bool
  status : Nat
  stage : String
  message : String

/-- What the calls to the outside come to, in their order; `preflight` is all that comes before the routes. -/
structure BurnOutcomes where
  config : RouteConfig
  preflight : Outcome (Option Response)
  autoBind : Route → Outcome AutoBind
  cachedSourceOs : String → String
  protocols : Outcome (String → String)
  localFlash : Outcome Response
  rejected : Outcome Unit
  startLog : Outcome Unit
  approval : Outcome (Option Response)
  release : ReleaseCalls
  releasedLog : Outcome Unit
  flash : Outcome (List FlashOutcome)
  notified : Outcome Unit
  completed : Outcome Unit
  /-- The response of the exception handlers. -/
  failure : Response
  ended : Nat
  remoteAssigned : String → Bool

def refuse {α : Type} (status : Nat) (message : String) : Program Burn Response α := exit (.result ⟨status,message⟩)

def usbipSourceHostForDevice (config : RouteConfig) (device : String) : String := config.knownHost (strip device)

def usbipDevices (config : RouteConfig) (devices : List String) : List String :=
  devices.filter fun device => usbipSourceHostForDevice config device ≠ ""

def routeSourceOs (outcomes : BurnOutcomes) (route : Route) (probed : String) : String :=
  let cached := outcomes.cachedSourceOs (strip route.deviceHost)
  let found := if strip probed ≠ "" then strip probed else if cached = "linux" ∨ cached = "windows" then cached else ""
  if found = "ubuntu" then "linux" else found

def bindRoutes (outcomes : BurnOutcomes) : List Route → Program Burn Response (Except String (List Route))
  | [] => pure (.ok [])
  | route :: routes => do
    let result ← await (outcomes.autoBind route)
    if result.success = false then pure (.error (orElse result.error "USB/IP AutoBind策略配置失败"))
    else match ← bindRoutes outcomes routes with
      | .error text => pure (.error text)
      | .ok bound => pure (.ok ({route with sourceOs := routeSourceOs outcomes route result.sourceOs} :: bound))

def routedDevices (routes : List Route) : List String := routes.flatMap Route.deviceIds

def prepareUsbipFirmwareRoutes (outcomes : BurnOutcomes) (devices : List String) : Program Burn Response (Except String (List Route)) :=
  let selected := usbipDevices outcomes.config devices
  let routes := resolveUsbipFlashRoutes outcomes.config selected
  let unresolved := selected.filter fun device => device ∉ routedDevices routes
  if selected = [] then pure (.ok [])
  else if unresolved ≠ [] then
    pure (.error ("USB/IP固件烧写缺少设备到物理BUSID的持久分配记录: " ++ ", ".intercalate unresolved ++
      "。请断开后从设备管理页重新选择该USB设备并连接。"))
  else bindRoutes outcomes routes

def sameDevices (routes : List Route) (devices : List String) : Bool :=
  (routedDevices routes).all (fun device => devices.contains device) && devices.all fun device => (routedDevices routes).contains device

def sourceHosts (routes : List Route) : String := ", ".intercalate (sorted (fromkeys (routes.map fun route => strip route.deviceHost)))

def sourceDetail (routes : List Route) : String :=
  let linux := routes.filter fun route => route.sourceOs = "linux"
  let unknown := routes.filter fun route => strip route.sourceOs = ""
  if linux ≠ [] then "Ubuntu/Linux 来源主机: " ++ sourceHosts linux ++ "。Linux Source 完整固件烧写 backend 尚未实现。"
  else "无法确认来源主机操作系统: " ++ sourceHosts unknown ++ "。请在设备管理页重新连接 USB 设备以完成探测。"

def agentApproval (call : BurnCall) (outcomes : BurnOutcomes) : Program Burn Response (Option Response) :=
  if call.agent = true then await outcomes.approval else pure none

def checkedRoutes (call : BurnCall) (outcomes : BurnOutcomes) : Program Burn Response (List Route) := do
  match ← await outcomes.preflight with
  | some refusal => exit (.result refusal)
  | none => match ← prepareUsbipFirmwareRoutes outcomes call.devices with
    | .error text => refuse 409 text
    | .ok routes => do
      modify fun burn => {burn with routes}
      if call.aoaRecovery = true ∧ routes ≠ [] then refuse 409 "USB/IP 源端烧写暂不支持自动接续 AOA"
      else
        let protocols ← await outcomes.protocols
        let unavailable := call.devices.filter fun device => protocols device = ""
        if unavailable ≠ [] then refuse 409 ("设备未处于可烧写的 ADB/Fastboot 状态: " ++ ", ".intercalate unavailable)
        else if routes = [] then do
          let response ← await outcomes.localFlash
          exit (.result response)
        else if sameDevices routes call.devices = false then
          refuse 409 "不能在同一次固件任务中混合Windows USB/IP设备与Ubuntu本地USB设备；请分开选择后重试。"
        else if routes.any (fun route => route.sourceOs = "linux" ∨ strip route.sourceOs = "") = true then do
          await outcomes.rejected
          refuse 409 ("完整固件烧写仅支持 Windows 来源的 USB/IP 设备。" ++ sourceDetail routes)
        else do
          suppress outcomes.startLog
          match ← agentApproval call outcomes with
          | some refusal => exit (.result refusal)
          | none => pure routes

def sourceFlash (outcomes : BurnOutcomes) (routes : List Route) : Program Burn Response Response := do
  let (released,error) ← releaseUsbipDevicesToSource outcomes.release routes
  if released = false then do
    modify fun burn => {burn with reconnectAfterFinish := true}
    refuse 409 ("USB/IP 所有权交还源主机失败: " ++ error)
  else do
    suppress outcomes.releasedLog
    let results ← await outcomes.flash
    await outcomes.notified
    match results.find? fun result => result.success = false with
    | some failed => do
      modify fun burn => {burn with reconnectAfterFinish := true}
      refuse failed.status ("源端烧写失败（" ++ failed.stage ++ "）: 设备 " ++ failed.device ++ ": " ++ failed.message)
    | none => do
      suppress outcomes.completed
      modify fun burn => {burn with reconnectAfterFinish := true}
      pure ⟨200,"Source-side firmware burn completed successfully"⟩

def suppressed (result : Except String Expiries) (pauses : Expiries) : Expiries :=
  match result with
  | .ok resumed => resumed
  | .error _ => pauses

def liftPauses (devices : List String) (routes : List Route) (pauses : Expiries) : Expiries :=
  let hosts := sorted (fromkeys ((routes.map fun route => strip route.deviceHost).filter (· ≠ "")))
  let pauses := hosts.foldl (fun pauses host => suppressed (callResume [("device_host",.text host)] pauses) pauses) pauses
  devices.foldl (fun pauses device => suppressed (callResume [("device_id",.text (strip device))] pauses) pauses) pauses

def scheduleUsbipModeReconnect (outcomes : BurnOutcomes) (reconnects : Reconnects) (device : String) : Reconnects :=
  let host := usbipSourceHostForDevice outcomes.config device
  if host = "" then reconnects else (scheduleUsbipReconnect outcomes.ended outcomes.remoteAssigned host [device] true reconnects).2

def cleanUp (call : BurnCall) (outcomes : BurnOutcomes) (burn : Burn) : Burn :=
  let reconnects := {burn.reconnects with pauses := liftPauses call.devices burn.routes burn.reconnects.pauses}
  {burn with reconnects :=
    if burn.reconnectAfterFinish then call.devices.foldl (scheduleUsbipModeReconnect outcomes) reconnects else reconnects}

def burnFirmware (call : BurnCall) (outcomes : BurnOutcomes) : Program Burn Response Response :=
  finally_ (catching outcomes.failure (checkedRoutes call outcomes >>= sourceFlash outcomes)) (cleanUp call outcomes)

def boundRoutes (outcomes : BurnOutcomes) : List Route → Option (List Route)
  | [] => some []
  | route :: routes => match outcomes.autoBind route with
    | .returned result =>
      if result.success = false then none
      else (boundRoutes outcomes routes).map ({route with sourceOs := routeSourceOs outcomes route result.sourceOs} :: ·)
    | _ => none

/-- Everything before the hand-over goes well. -/
structure HandsOver (call : BurnCall) (outcomes : BurnOutcomes) (routes : List Route) : Prop where
  preflight : outcomes.preflight = .returned none
  selected : usbipDevices outcomes.config call.devices ≠ []
  resolved : ∀ device ∈ usbipDevices outcomes.config call.devices,
    device ∈ routedDevices (resolveUsbipFlashRoutes outcomes.config (usbipDevices outcomes.config call.devices))
  bound : boundRoutes outcomes (resolveUsbipFlashRoutes outcomes.config (usbipDevices outcomes.config call.devices)) = some routes
  recovery : call.aoaRecovery = false
  protocols : ∃ protocols, outcomes.protocols = .returned protocols ∧ ∀ device ∈ call.devices, protocols device ≠ ""
  whole : sameDevices routes call.devices = true
  windows : ∀ route ∈ routes, ¬(route.sourceOs = "linux" ∨ strip route.sourceOs = "")
  log : outcomes.startLog ≠ .cancelled
  approved : call.agent = true → outcomes.approval = .returned none

theorem bindRoutes_ok {outcomes : BurnOutcomes} {routes bound : List Route} {burn final : Burn} :
    bindRoutes outcomes routes burn = (.ok (.ok bound),final) ↔ boundRoutes outcomes routes = some bound ∧ final = burn := by
  induction routes generalizing bound burn final with
  | nil =>
    change (Except.ok (Except.ok []),burn) = (Except.ok (Except.ok bound),final) ↔ some [] = some bound ∧ _
    simp [eq_comm]
  | cons route routes ih =>
    unfold bindRoutes boundRoutes
    cases answer : outcomes.autoBind route with
    | returned result =>
      constructor
      · intro done
        obtain ⟨given,middle,first,done⟩ := bind_ok.mp done
        obtain ⟨same,rfl⟩ := await_ok.mp first
        cases same
        by_cases failed : result.success = false
        · rw [if_pos failed] at done
          cases (pure_ok.mp done).1
        · rw [if_neg failed] at done
          obtain ⟨rest,middle,second,done⟩ := bind_ok.mp done
          cases rest with
          | error text => cases (pure_ok.mp done).1
          | ok rest =>
            obtain ⟨whole,rfl⟩ := pure_ok.mp done
            obtain ⟨others,rfl⟩ := ih.mp second
            cases whole
            dsimp only
            rw [if_neg failed,others]
            exact ⟨rfl,rfl⟩
      · rintro ⟨bounds,rfl⟩
        dsimp only at bounds
        refine bind_ok.mpr ⟨result,_,await_ok.mpr ⟨rfl,rfl⟩,?_⟩
        by_cases failed : result.success = false
        · rw [if_pos failed] at bounds
          cases bounds
        · rw [if_neg failed] at bounds ⊢
          obtain ⟨rest,others,rfl⟩ := Option.map_eq_some_iff.mp bounds
          exact bind_ok.mpr ⟨.ok rest,_,ih.mpr ⟨others,rfl⟩,rfl⟩
    | raised =>
      refine ⟨fun done => ?_,fun none => by cases none.1⟩
      obtain ⟨_,_,first,-⟩ := bind_ok.mp done
      cases (await_ok.mp first).1
    | cancelled =>
      refine ⟨fun done => ?_,fun none => by cases none.1⟩
      obtain ⟨_,_,first,-⟩ := bind_ok.mp done
      cases (await_ok.mp first).1

theorem bindRoutes_preserves {Inv : Burn → Prop} (outcomes : BurnOutcomes) (routes : List Route) :
    Preserves Inv (bindRoutes outcomes routes) := by
  induction routes with
  | nil => exact preserves_pure _
  | cons route routes ih =>
    refine (preserves_await _).bind fun result => Preserves.ite (fun _ => preserves_pure _) fun _ => ?_
    refine ih.bind fun bound => ?_
    cases bound <;> exact preserves_pure _

theorem prepare_preserves {Inv : Burn → Prop} (outcomes : BurnOutcomes) (devices : List String) :
    Preserves Inv (prepareUsbipFirmwareRoutes outcomes devices) :=
  Preserves.ite (fun _ => preserves_pure _) fun _ => Preserves.ite (fun _ => preserves_pure _) fun _ => bindRoutes_preserves outcomes _

theorem checkedRoutes_preserves {Inv : Burn → Prop} (call : BurnCall) (outcomes : BurnOutcomes)
    (kept : ∀ routes (burn : Burn), Inv burn → Inv {burn with routes}) : Preserves Inv (checkedRoutes call outcomes) := by
  refine (preserves_await _).bind fun refusal => ?_
  cases refusal with
  | some refusal => exact preserves_exit _
  | none =>
    refine (prepare_preserves outcomes call.devices).bind fun prepared => ?_
    cases prepared with
    | error text => exact preserves_exit _
    | ok routes =>
      refine (preserves_modify (kept routes)).bind fun _ => Preserves.ite (fun _ => preserves_exit _) fun _ => ?_
      refine (preserves_await _).bind fun protocols => Preserves.ite (fun _ => preserves_exit _) fun _ => ?_
      refine Preserves.ite (fun _ => (preserves_await _).bind fun _ => preserves_exit _) fun _ => ?_
      refine Preserves.ite (fun _ => preserves_exit _) fun _ => ?_
      refine Preserves.ite (fun _ => (preserves_await _).bind fun _ => preserves_exit _) fun _ => ?_
      refine (preserves_suppress _).bind fun _ => ?_
      have approval : Preserves Inv (agentApproval call outcomes) :=
        Preserves.ite (fun _ => preserves_await _) fun _ => preserves_pure _
      refine approval.bind fun refusal => ?_
      cases refusal with
      | some refusal => exact preserves_exit _
      | none => exact preserves_pure _

theorem prepare_ok {outcomes : BurnOutcomes} {devices : List String} {routes : List Route} {burn final : Burn}
    (some : routes ≠ []) : prepareUsbipFirmwareRoutes outcomes devices burn = (.ok (.ok routes),final) ↔
      usbipDevices outcomes.config devices ≠ [] ∧ (∀ device ∈ usbipDevices outcomes.config devices,
        device ∈ routedDevices (resolveUsbipFlashRoutes outcomes.config (usbipDevices outcomes.config devices))) ∧
      boundRoutes outcomes (resolveUsbipFlashRoutes outcomes.config (usbipDevices outcomes.config devices)) = .some routes ∧ final = burn := by
  unfold prepareUsbipFirmwareRoutes
  by_cases none : usbipDevices outcomes.config devices = []
  · rw [if_pos none]
    constructor
    · intro done
      cases (pure_ok.mp done).1
      exact (some rfl).elim
    · intro whole
      exact (whole.1 none).elim
  · rw [if_neg none]
    by_cases left : (usbipDevices outcomes.config devices).filter (fun device =>
        device ∉ routedDevices (resolveUsbipFlashRoutes outcomes.config (usbipDevices outcomes.config devices))) = []
    · rw [if_neg (not_not.mpr left),bindRoutes_ok]
      have all : ∀ device ∈ usbipDevices outcomes.config devices,
          device ∈ routedDevices (resolveUsbipFlashRoutes outcomes.config (usbipDevices outcomes.config devices)) := by
        intro device member
        simpa using List.filter_eq_nil_iff.mp left device member
      exact ⟨fun bound => ⟨none,all,bound⟩,fun whole => whole.2.2⟩
    · rw [if_pos left]
      constructor
      · intro done
        cases (pure_ok.mp done).1
      · intro whole
        refine (left (List.filter_eq_nil_iff.mpr fun device member => ?_)).elim
        simpa using whole.2.1 device member

theorem agentApproval_ok {call : BurnCall} {outcomes : BurnOutcomes} {burn final : Burn} :
    agentApproval call outcomes burn = (.ok none,final) ↔ (call.agent = true → outcomes.approval = .returned none) ∧ final = burn := by
  unfold agentApproval
  split
  · rename_i agent
    rw [await_ok]
    simp [agent]
  · rename_i human
    rw [pure_ok]
    simp [human,eq_comm]

theorem checkedRoutes_ok {call : BurnCall} {outcomes : BurnOutcomes} {routes : List Route} {burn final : Burn} :
    checkedRoutes call outcomes burn = (.ok routes,final) ↔ routes ≠ [] ∧ HandsOver call outcomes routes ∧ final = {burn with routes} := by
  constructor
  · intro done
    obtain ⟨refusal,_,first,done⟩ := bind_ok.mp done
    obtain ⟨preflight,rfl⟩ := await_ok.mp first
    cases refusal with
    | some refusal => cases done
    | none =>
      obtain ⟨prepared,middle,second,done⟩ := bind_ok.mp done
      cases prepared with
      | error text => cases done
      | ok found =>
        obtain ⟨_,_,set,done⟩ := bind_ok.mp done
        rw [modify_ok.mp set] at done
        split at done
        · cases done
        · rename_i recovery
          obtain ⟨protocols,_,third,done⟩ := bind_ok.mp done
          obtain ⟨answered,rfl⟩ := await_ok.mp third
          split at done
          · cases done
          · rename_i available
            split at done
            · obtain ⟨_,_,-,done⟩ := bind_ok.mp done
              cases done
            · rename_i nonempty
              split at done
              · cases done
              · rename_i whole
                split at done
                · obtain ⟨_,_,-,done⟩ := bind_ok.mp done
                  cases done
                · rename_i windows
                  obtain ⟨_,_,fourth,done⟩ := bind_ok.mp done
                  obtain ⟨log,rfl⟩ := suppress_ok.mp fourth
                  obtain ⟨refusal,_,fifth,done⟩ := bind_ok.mp done
                  cases refusal with
                  | some refusal => cases done
                  | none =>
                    obtain ⟨rfl,rfl⟩ := pure_ok.mp done
                    obtain ⟨selected,resolved,bound,rfl⟩ := (prepare_ok nonempty).mp second
                    obtain ⟨approved,rfl⟩ := agentApproval_ok.mp fifth
                    refine ⟨nonempty,{
                      preflight,selected,resolved,bound,log,approved
                      recovery := Bool.eq_false_iff.mpr fun wanted => recovery ⟨wanted,nonempty⟩
                      protocols := ⟨protocols,answered,fun device member => ?_⟩
                      whole := Bool.of_not_eq_false whole
                      windows := fun route listed => ?_ },rfl⟩
                    · simpa using List.filter_eq_nil_iff.mp (not_not.mp available) device member
                    · simpa using List.any_eq_false.mp (Bool.eq_false_iff.mpr windows) route listed
  · rintro ⟨nonempty,hands,rfl⟩
    obtain ⟨protocols,answered,available⟩ := hands.protocols
    have unavailable : (call.devices.filter fun device => protocols device = "") = [] :=
      List.filter_eq_nil_iff.mpr fun device member => by simpa using available device member
    have windows : (routes.any fun route => route.sourceOs = "linux" ∨ strip route.sourceOs = "") = false :=
      List.any_eq_false.mpr fun route listed => by simpa using hands.windows route listed
    refine bind_ok.mpr ⟨none,_,await_ok.mpr ⟨hands.preflight,rfl⟩,?_⟩
    refine bind_ok.mpr ⟨.ok routes,_,(prepare_ok nonempty).mpr ⟨hands.selected,hands.resolved,hands.bound,rfl⟩,?_⟩
    refine bind_ok.mpr ⟨(),_,modify_ok.mpr rfl,?_⟩
    rw [if_neg (by simp [hands.recovery])]
    refine bind_ok.mpr ⟨protocols,_,await_ok.mpr ⟨answered,rfl⟩,?_⟩
    rw [if_neg (not_not.mpr unavailable),if_neg nonempty,if_neg (by simp [hands.whole]),if_neg (by rw [windows]; exact Bool.false_ne_true)]
    refine bind_ok.mpr ⟨(),_,suppress_ok.mpr ⟨hands.log,rfl⟩,?_⟩
    exact bind_ok.mpr ⟨none,_,agentApproval_ok.mpr ⟨hands.approved,rfl⟩,rfl⟩

theorem boundRoutes_route {outcomes : BurnOutcomes} {routes bound : List Route} (whole : boundRoutes outcomes routes = some bound) :
    ∀ route ∈ bound, ∃ origin ∈ routes, ∃ sourceOs, route = {origin with sourceOs} := by
  induction routes generalizing bound with
  | nil =>
    cases whole
    exact fun _ member => by cases member
  | cons first routes ih =>
    unfold boundRoutes at whole
    split at whole
    · split at whole
      · cases whole
      · obtain ⟨rest,others,rfl⟩ := Option.map_eq_some_iff.mp whole
        intro route member
        rcases List.mem_cons.mp member with rfl | member
        · exact ⟨first,List.mem_cons_self ..,_,rfl⟩
        · obtain ⟨origin,listed,same⟩ := ih others route member
          exact ⟨origin,List.mem_cons_of_mem _ listed,same⟩
    · cases whole

theorem HandsOver.named {call : BurnCall} {outcomes : BurnOutcomes} {routes : List Route} (hands : HandsOver call outcomes routes) :
    ∀ route ∈ routes, route.Named := by
  intro route member
  obtain ⟨origin,listed,sourceOs,rfl⟩ := boundRoutes_route hands.bound route member
  have named := resolved_named origin listed
  exact ⟨named.host,named.devices,named.trimmed,named.busids⟩

structure PausedFor (now : Nat) (routes : List Route) (pauses : Expiries) : Prop where
  hosts : ∀ host expires, pauses.hosts.get host = some expires →
    expires = now + USBIP_FIRMWARE_RECONNECT_PAUSE_SECONDS ∧ ∃ route ∈ routes, strip route.deviceHost = host
  devices : ∀ device expires, pauses.devices.get device = some expires → expires = now + USBIP_FIRMWARE_RECONNECT_PAUSE_SECONDS
  each : ∀ route ∈ routes, ∀ device ∈ route.deviceIds, pauses.devices.get device = some (now + USBIP_FIRMWARE_RECONNECT_PAUSE_SECONDS)

theorem pauseRoutes_append (now : Nat) (routes : List Route) (route : Route) (reconnects : Reconnects) :
    pauseRoutes now (routes ++ [route]) reconnects =
      if strip route.deviceHost ≠ "" then {pauseRoutes now routes reconnects with
        pauses := pauseUsbipReconnect now (strip route.deviceHost) route.deviceIds USBIP_FIRMWARE_RECONNECT_PAUSE_SECONDS
          (pauseRoutes now routes reconnects).pauses}
      else pauseRoutes now routes reconnects := by
  unfold pauseRoutes
  rw [List.foldl_append]
  rfl

theorem pausedFor_pauseRoutes (now : Nat) (routes : List Route) (named : ∀ route ∈ routes, route.Named) {reconnects : Reconnects}
    (fresh : reconnects.pauses = .none) : PausedFor now routes (pauseRoutes now routes reconnects).pauses := by
  induction routes using List.reverseRecOn with
  | nil =>
    unfold pauseRoutes
    rw [List.foldl_nil,fresh]
    exact ⟨fun _ _ found => (by cases found),fun _ _ found => (by cases found),fun _ member => by cases member⟩
  | append_singleton routes route ih =>
    have before := ih fun other member => named other (List.mem_append_left _ member)
    have own := named route (by simp)
    have host : strip route.deviceHost ≠ "" := by
      rw [own.host.2]
      exact own.host.1
    rw [pauseRoutes_append,if_pos host]
    unfold pauseUsbipReconnect
    dsimp only
    rw [if_pos host]
    refine ⟨fun other expires found => ?_,fun device expires found => ?_,fun other member device listed => ?_⟩
    · rw [Dict.get_put] at found
      split at found
      · rename_i same
        cases found
        exact ⟨rfl,route,by simp,by rw [same,strip_strip]⟩
      · obtain ⟨until_,earlier,listed,named⟩ := before.hosts other expires found
        exact ⟨until_,earlier,List.mem_append_left _ listed,named⟩
    · rw [get_pauseDevices] at found
      split at found
      · cases found
        rfl
      · exact before.devices device expires found
    · rw [get_pauseDevices]
      split
      · rfl
      · rename_i absent
        rcases List.mem_append.mp member with older | new
        · exact before.each other older device listed
        · rw [List.mem_singleton.mp new] at listed
          have trimmed := own.trimmed device listed
          exact (absent ⟨device,listed,trimmed.1,trimmed.2⟩).elim

theorem get_popHosts (hosts : List String) (pauses : Expiries) (host : String) :
    (hosts.foldl (fun pauses host => suppressed (callResume [("device_host",.text host)] pauses) pauses) pauses).hosts.get host =
      if ∃ name ∈ hosts, name ≠ "" ∧ strip name = host then none else pauses.hosts.get host := by
  induction hosts generalizing pauses with
  | nil => simp
  | cons first rest ih =>
    rw [List.foldl_cons,ih]
    by_cases later : ∃ name ∈ rest, name ≠ "" ∧ strip name = host
    · rw [if_pos later,if_pos]
      obtain ⟨name,member,named⟩ := later
      exact ⟨name,List.mem_cons_of_mem _ member,named⟩
    · rw [if_neg later]
      change (if first ≠ "" then pauses.hosts.pop (strip first) else pauses.hosts).get host = _
      by_cases here : first ≠ "" ∧ strip first = host
      · rw [if_pos here.1,Dict.get_pop,if_pos here.2.symm,if_pos ⟨first,List.mem_cons_self ..,here⟩]
      · have none : ¬∃ name ∈ first :: rest, name ≠ "" ∧ strip name = host := by
          rintro ⟨name,member,named⟩
          rcases List.mem_cons.mp member with rfl | member
          · exact here named
          · exact later ⟨name,member,named⟩
        rw [if_neg none]
        by_cases named : first ≠ ""
        · rw [if_pos named,Dict.get_pop,if_neg fun same => here ⟨named,same.symm⟩]
        · rw [if_neg named]

theorem devices_popHosts (hosts : List String) (pauses : Expiries) :
    (hosts.foldl (fun pauses host => suppressed (callResume [("device_host",.text host)] pauses) pauses) pauses).devices = pauses.devices := by
  induction hosts generalizing pauses with
  | nil => rfl
  | cons first rest ih => exact (ih _).trans rfl

theorem resumeDevices_idle (devices : List String) (pauses : Expiries) :
    devices.foldl (fun pauses device => suppressed (callResume [("device_id",.text (strip device))] pauses) pauses) pauses = pauses := by
  induction devices with
  | nil => rfl
  | cons device devices ih => exact ih

theorem liftPauses_devices (devices : List String) (routes : List Route) (pauses : Expiries) :
    (liftPauses devices routes pauses).devices = pauses.devices := by
  unfold liftPauses
  dsimp only
  rw [resumeDevices_idle,devices_popHosts]

theorem liftPauses_hosts (devices : List String) {routes : List Route} (named : ∀ route ∈ routes, route.Named) {pauses : Expiries}
    (own : ∀ host expires, pauses.hosts.get host = some expires → ∃ route ∈ routes, strip route.deviceHost = host) (host : String) :
    (liftPauses devices routes pauses).hosts.get host = none := by
  unfold liftPauses
  dsimp only
  rw [resumeDevices_idle,get_popHosts]
  split
  · rfl
  · rename_i absent
    cases found : pauses.hosts.get host with
    | none => rfl
    | some expires =>
      obtain ⟨route,listed,same⟩ := own host expires found
      have trimmed := (named route listed).host
      rw [trimmed.2] at same
      subst same
      refine (absent ⟨route.deviceHost,?_,trimmed.1,trimmed.2⟩).elim
      rw [mem_sorted,mem_fromkeys,List.mem_filter]
      exact ⟨List.mem_map.mpr ⟨route,listed,trimmed.2⟩,by simpa using trimmed.1⟩

theorem cleanUp_pruned (call : BurnCall) (outcomes : BurnOutcomes) (burn : Burn) :
    Expiries.Pruned outcomes.ended (liftPauses call.devices burn.routes burn.reconnects.pauses)
      (cleanUp call outcomes burn).reconnects.pauses := by
  have scheduled : ∀ (devices : List String) (reconnects : Reconnects), Expiries.Pruned outcomes.ended reconnects.pauses
      (devices.foldl (scheduleUsbipModeReconnect outcomes) reconnects).pauses := by
    intro devices
    induction devices with
    | nil => exact fun reconnects => Expiries.Pruned.refl _ reconnects.pauses
    | cons device devices ih =>
      intro reconnects
      refine Expiries.Pruned.trans ?_ (ih _)
      unfold scheduleUsbipModeReconnect
      dsimp only
      split
      · exact Expiries.Pruned.refl _ _
      · exact schedule_pruned ..
  unfold cleanUp
  dsimp only
  split
  · exact scheduled call.devices {burn.reconnects with pauses := liftPauses call.devices burn.routes burn.reconnects.pauses}
  · exact Expiries.Pruned.refl _ _

theorem HandsOver.nonempty {call : BurnCall} {outcomes : BurnOutcomes} {routes : List Route} (hands : HandsOver call outcomes routes) :
    routes ≠ [] := by
  rintro rfl
  obtain ⟨device,member⟩ := List.exists_mem_of_ne_nil _ hands.selected
  have routed := hands.resolved device member
  have bound := hands.bound
  cases resolved : resolveUsbipFlashRoutes outcomes.config (usbipDevices outcomes.config call.devices) with
  | nil =>
    rw [resolved] at routed
    cases routed
  | cons route routes =>
    rw [resolved] at bound
    unfold boundRoutes at bound
    split at bound
    · split at bound
      · cases bound
      · obtain ⟨_,_,same⟩ := Option.map_eq_some_iff.mp bound
        cases same
    · cases bound

theorem sourceFlash_paused (outcomes : BurnOutcomes) {routes : List Route} (nonempty : routes ≠ []) (burn : Burn) :
    (sourceFlash outcomes routes burn).2.reconnects = pauseRoutes outcomes.release.now routes burn.reconnects ∧
      (sourceFlash outcomes routes burn).2.routes = burn.routes := by
  let Inv := fun after : Burn =>
    after.reconnects = pauseRoutes outcomes.release.now routes burn.reconnects ∧ after.routes = burn.routes
  have detached : Preserves Inv (detachTargets outcomes.release routes) :=
    detachTargets_preserves outcomes.release fun _ _ _ kept => kept
  have released : Inv (releaseUsbipDevicesToSource outcomes.release routes burn).2 := by
    unfold releaseUsbipDevicesToSource
    rw [if_neg nonempty]
    exact detached _ ⟨rfl,rfl⟩
  suffices both : Inv (sourceFlash outcomes routes burn).2 from both
  refine bind_holds released fun result => ?_
  obtain ⟨handed,error⟩ := result
  dsimp only
  have after : ∀ burn, Inv burn → Inv {burn with reconnectAfterFinish := true} := fun _ kept => kept
  refine Preserves.ite (fun _ => (preserves_modify after).bind fun _ => preserves_exit _) fun _ => ?_
  refine (preserves_suppress _).bind fun _ => (preserves_await _).bind fun results => (preserves_await _).bind fun _ => ?_
  split
  · exact (preserves_modify after).bind fun _ => preserves_exit _
  · exact (preserves_suppress _).bind fun _ => (preserves_modify after).bind fun _ => preserves_pure _

def Burn.start (reconnects : Reconnects) : Burn := {reconnects := {reconnects with pauses := .none}}

theorem burn_pauses (call : BurnCall) (outcomes : BurnOutcomes) (reconnects : Reconnects) :
    let after := ((checkedRoutes call outcomes >>= sourceFlash outcomes) (Burn.start reconnects)).2
    (∃ routes, HandsOver call outcomes routes ∧ after.routes = routes ∧ PausedFor outcomes.release.now routes after.reconnects.pauses) ∨
      (¬∃ routes, HandsOver call outcomes routes) ∧ after.reconnects.pauses = .none := by
  dsimp only
  cases checked : checkedRoutes call outcomes (Burn.start reconnects) with
  | mk result middle =>
    cases result with
    | ok routes =>
      obtain ⟨nonempty,hands,rfl⟩ := checkedRoutes_ok.mp checked
      have after : (checkedRoutes call outcomes >>= sourceFlash outcomes) (Burn.start reconnects) =
          sourceFlash outcomes routes {Burn.start reconnects with routes} := by
        change (checkedRoutes call outcomes).bind (sourceFlash outcomes) _ = _
        rw [Program.bind,checked]
      obtain ⟨paused,same⟩ := sourceFlash_paused outcomes nonempty {Burn.start reconnects with routes}
      rw [after,paused,same]
      exact .inl ⟨routes,hands,rfl,pausedFor_pauseRoutes _ routes hands.named rfl⟩
    | error exit =>
      have after : (checkedRoutes call outcomes >>= sourceFlash outcomes) (Burn.start reconnects) = (.error exit,middle) := by
        change (checkedRoutes call outcomes).bind (sourceFlash outcomes) _ = _
        rw [Program.bind,checked]
      have kept : Preserves (fun burn : Burn => burn.reconnects.pauses = .none) (checkedRoutes call outcomes) :=
        checkedRoutes_preserves call outcomes fun _ _ same => same
      rw [after]
      refine .inr ⟨?_,?_⟩
      · rintro ⟨routes,hands⟩
        have through : checkedRoutes call outcomes (Burn.start reconnects) = (.ok routes,{Burn.start reconnects with routes}) :=
          checkedRoutes_ok.mpr ⟨hands.nonempty,hands,rfl⟩
        rw [checked] at through
        cases through
      · have left := kept (Burn.start reconnects) rfl
        rw [checked] at left
        exact left

/-- After a request no pause of its hand-over is in force exactly when there was no hand-over or two hours have gone by. -/
theorem pauses_lifted_iff (call : BurnCall) (outcomes : BurnOutcomes) (reconnects : Reconnects) :
    let pauses := (burnFirmware call outcomes (Burn.start reconnects)).2.reconnects.pauses
    (¬pauses.InForce outcomes.ended ↔
      ∀ routes, HandsOver call outcomes routes → outcomes.release.now + USBIP_FIRMWARE_RECONNECT_PAUSE_SECONDS ≤ outcomes.ended) ∧
    (¬pauses.InForce outcomes.ended →
      ∀ later host devices, outcomes.ended ≤ later → (reconnectPausedForDevices later host devices pauses).1 = false) := by
  dsimp only
  refine ⟨?_,fun clear later host devices order => Bool.eq_false_iff.mpr fun held =>
    clear ((reconnectPaused_in_force held).earlier order)⟩
  have whole : (burnFirmware call outcomes (Burn.start reconnects)).2 =
      cleanUp call outcomes ((checkedRoutes call outcomes >>= sourceFlash outcomes) (Burn.start reconnects)).2 := by
    unfold burnFirmware finally_
    rw [catching_state]
  rw [whole,(cleanUp_pruned call outcomes _).inForce]
  rcases burn_pauses call outcomes reconnects with ⟨routes,hands,same,paused⟩ | ⟨none,same⟩
  · have hosts := liftPauses_hosts call.devices hands.named fun host expires found => (paused.hosts host expires found).2
    have devices := liftPauses_devices call.devices routes
      ((checkedRoutes call outcomes >>= sourceFlash outcomes) (Burn.start reconnects)).2.reconnects.pauses
    rw [same]
    constructor
    · intro clear _ _
      by_contra early
      obtain ⟨route,listed⟩ := List.exists_mem_of_ne_nil _ hands.nonempty
      obtain ⟨device,own⟩ := List.exists_mem_of_ne_nil _ (hands.named route listed).devices
      refine clear (.inr ⟨device,_,?_,Nat.lt_of_not_le early⟩)
      rw [devices]
      exact paused.each route listed device own
    · rintro lifted (⟨host,expires,found,-⟩ | ⟨device,expires,found,later⟩)
      · rw [hosts host] at found
        cases found
      · rw [devices] at found
        rw [paused.devices device expires found] at later
        exact Nat.not_lt_of_le (lifted routes hands) later
  · rw [same]
    refine ⟨fun _ routes hands => (none ⟨routes,hands⟩).elim,fun _ => ?_⟩
    rintro (⟨host,expires,found,-⟩ | ⟨device,expires,found,-⟩)
    · unfold liftPauses at found
      dsimp only at found
      rw [resumeDevices_idle,get_popHosts] at found
      split at found <;> cases found
    · rw [liftPauses_devices] at found
      cases found

def burnOne : BurnCall := ⟨["RK3588"],false,false⟩

def burnOneOutcomes : BurnOutcomes where
  config := {oneSource "lab@192.0.2.10" with knownSources := Dict.empty.put "RK3588" "lab@192.0.2.10"}
  preflight := .returned none
  autoBind := fun _ => .returned ⟨true,"","windows"⟩
  cachedSourceOs := fun _ => ""
  protocols := .returned fun _ => "adb"
  localFlash := .raised
  rejected := .returned ()
  startLog := .returned ()
  approval := .returned none
  release := ⟨0,.returned (.ok []),fun _ => .returned (),.returned (.ok []),.returned ()⟩
  releasedLog := .returned ()
  flash := .returned [⟨"RK3588",true,200,"SUCCEEDED",""⟩]
  notified := .returned ()
  completed := .returned ()
  failure := ⟨500,"burn"⟩
  ended := 600
  remoteAssigned := fun _ => false

/-- A flash that succeeds leaves its device paused. -/
theorem device_stays_paused :
    ¬ ∀ (call : BurnCall) (outcomes : BurnOutcomes) (reconnects : Reconnects),
      ¬(burnFirmware call outcomes (Burn.start reconnects)).2.reconnects.pauses.InForce outcomes.ended := by
  intro all
  refine all burnOne burnOneOutcomes ⟨.none,.none,[],[]⟩ (.inr ⟨"RK3588",7200,?_,by decide⟩)
  decide +kernel

end GmsRemoteTest.Firmware
