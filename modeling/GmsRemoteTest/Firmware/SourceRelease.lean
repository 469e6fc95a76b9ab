import GmsRemoteTest.Lib.Exits
import GmsRemoteTest.Devices.ReconnectPause
import GmsRemoteTest.Firmware.HostSpelling

/-! `release_usbip_devices_to_source`: the target host lets go of the devices of a flash, and the release counts only
when a second listing of its ports shows none. Ports are matched by the normal form of their host, which one configured
with a user name never has. -/
namespace GmsRemoteTest.Firmware
open Devices Exits Exits.Program Text

/-- An entry of `parse_usbip_port_entries`; a host that it could not read is the empty text. -/
structure PortEntry where
  port : String
  busid : String
  host : Option HostName

def PortEntry.hostText (entry : PortEntry) : String := (entry.host.map HostName.text).getD ""

/-- What the calls of a release come to: the listings before and after, or the text of a failed one, each detach
command and the wait for the source host. `now` is the time of the pauses. -/
structure ReleaseCalls where
  now : Nat
  ports : Outcome (Except String (List PortEntry))
  detach : PortEntry → Outcome Unit
  verify : Outcome (Except String (List PortEntry))
  settle : Outcome Unit

structure Response where
  status : Nat
  message : String

structure Burn where
  reconnects : Reconnects
  detached : List PortEntry := []
  routes : List Route := []
  reconnectAfterFinish : Bool := false

def pauseRoutes (now : Nat) (routes : List Route) (reconnects : Reconnects) : Reconnects :=
  routes.foldl (fun reconnects route =>
    if strip route.deviceHost ≠ "" then {reconnects with
      pauses := pauseUsbipReconnect now (strip route.deviceHost) route.deviceIds USBIP_FIRMWARE_RECONNECT_PAUSE_SECONDS reconnects.pauses}
    else reconnects) reconnects

def routeTargets (routes : List Route) : List (String × String) :=
  routes.flatMap fun route =>
    if normalizeUsbipHost route.deviceHost = "" then [] else route.busids.map (Prod.mk (normalizeUsbipHost route.deviceHost))

def targeted (routes : List Route) (entry : PortEntry) : Bool :=
  (routeTargets routes).contains (normalizeUsbipHost entry.hostText,entry.busid)

def validPort (port : String) : Bool := 1 ≤ port.toList.length && port.toList.length ≤ 3 && port.toList.all Char.isDigit

def quoted (text : String) : String := String.ofList (Char.ofNat 39 :: text.toList ++ [Char.ofNat 39])

def detachEach (calls : ReleaseCalls) : List PortEntry → Program Burn Response (Option String)
  | [] => pure none
  | entry :: entries =>
    if validPort entry.port = false then pure (some ("USB/IP 端口号异常，拒绝 detach: " ++ quoted entry.port))
    else do
      modify fun burn => {burn with detached := burn.detached ++ [entry]}
      await (calls.detach entry)
      detachEach calls entries

def detachTargets (calls : ReleaseCalls) (routes : List Route) : Program Burn Response (Bool × String) :=
  if routes.flatMap Route.busids = [] then pure (true,"")
  else do
    match ← await calls.ports with
    | .error text => pure (false,"无法确认目标主机 USB/IP 端口状态，拒绝进入源端烧写: " ++ strip text)
    | .ok listing => match ← detachEach calls (listing.filter (targeted routes)) with
      | some error => pure (false,error)
      | none => match ← await calls.verify with
        | .error _ => pure (false,"USB/IP 释放后无法复核目标主机端口状态，拒绝继续烧写")
        | .ok last =>
          if last.filter (targeted routes) ≠ [] then
            pure (false,"目标主机仍持有 USB/IP 端口: " ++ ", ".intercalate ((last.filter (targeted routes)).map PortEntry.port) ++
              "；设备所有权未交还源主机，已中止烧写")
          else if listing.filter (targeted routes) ≠ [] then do
            await calls.settle
            pure (true,"")
          else pure (true,"")

def releaseUsbipDevicesToSource (calls : ReleaseCalls) (routes : List Route) : Program Burn Response (Bool × String) :=
  if routes = [] then pure (true,"")
  else do
    modify fun burn => {burn with reconnects := pauseRoutes calls.now routes burn.reconnects}
    detachTargets calls routes

def Imports (entry : PortEntry) (route : Route) : Prop :=
  ∃ address : Address, address.text = route.deviceHost ∧
    (∃ host, entry.host = some host ∧ lower host.text = lower address.host.text) ∧ entry.busid ∈ route.busids

/-- A release counts only when the last listing imports nothing of the routes, and it detaches only what they import. -/
def HandsBack (routes : List Route) : Prop :=
  ∀ (calls : ReleaseCalls) (burn : Burn),
    ((releaseUsbipDevicesToSource calls routes burn).1 = .ok (true,"") →
      ∀ listing, calls.verify = .returned (.ok listing) → ∀ entry ∈ listing, ∀ route ∈ routes, ¬Imports entry route) ∧
    ∀ entry ∈ (releaseUsbipDevicesToSource calls routes burn).2.detached, entry ∈ burn.detached ∨ ∃ route ∈ routes, Imports entry route

/-- Every route that names a user goes with one that does not: same host, and all its bus ids. -/
def Covered (routes : List Route) : Prop :=
  ∀ route ∈ routes, ∀ address : Address, address.text = route.deviceHost → address.user ≠ none → ∀ busid ∈ route.busids,
    ∃ other ∈ routes, ∃ plain : Address, plain.text = other.deviceHost ∧ plain.user = none ∧
      lower plain.host.text = lower address.host.text ∧ busid ∈ other.busids

theorem targeted_iff {routes : List Route} {entry : PortEntry} : targeted routes entry = true ↔
    ∃ route ∈ routes, normalizeUsbipHost route.deviceHost ≠ "" ∧ normalizeUsbipHost route.deviceHost = normalizeUsbipHost entry.hostText ∧
      entry.busid ∈ route.busids := by
  unfold targeted routeTargets
  rw [List.contains_iff_mem,List.mem_flatMap]
  constructor
  · rintro ⟨route,listed,member⟩
    split at member
    · cases member
    · rename_i named
      obtain ⟨busid,held,same⟩ := List.mem_map.mp member
      obtain ⟨host,rfl⟩ := Prod.mk.inj same
      exact ⟨route,listed,named,host,held⟩
  · rintro ⟨route,listed,named,same,held⟩
    refine ⟨route,listed,?_⟩
    rw [if_neg named,← same]
    exact List.mem_map_of_mem held

theorem lower_ne_empty (host : HostName) : lower host.text ≠ "" := by
  intro empty
  have chars := congrArg String.toList empty
  unfold lower at chars
  rw [String.toList_ofList] at chars
  exact host.nonempty (String.toList_eq_nil_iff.mp (List.map_eq_nil_iff.mp chars))

theorem hostText_host {entry : PortEntry} {host : HostName} (given : entry.host = some host) : entry.hostText = host.text := by
  unfold PortEntry.hostText
  rw [given]
  rfl

theorem targeted_of_plain {routes : List Route} {entry : PortEntry} {route : Route} (listed : route ∈ routes) {plain : Address}
    (written : plain.text = route.deviceHost) (anonymous : plain.user = none) {host : HostName} (given : entry.host = some host)
    (same : lower host.text = lower plain.host.text) (held : entry.busid ∈ route.busids) : targeted routes entry = true := by
  refine targeted_iff.mpr ⟨route,listed,?_,?_,held⟩
  · rw [← written,normalize_address plain anonymous]
    exact lower_ne_empty plain.host
  · rw [← written,normalize_address plain anonymous,hostText_host given,normalize_hostName,same]

theorem plain_of_targeted {routes : List Route} (addressed : ∀ route ∈ routes, ∃ address : Address, address.text = route.deviceHost)
    {entry : PortEntry} (hit : targeted routes entry = true) : ∃ route ∈ routes, ∃ plain : Address, ∃ host : HostName,
      plain.text = route.deviceHost ∧ plain.user = none ∧ entry.host = some host ∧ lower host.text = lower plain.host.text ∧
      entry.busid ∈ route.busids := by
  obtain ⟨route,listed,named,same,held⟩ := targeted_iff.mp hit
  obtain ⟨address,written⟩ := addressed route listed
  rw [← written] at named same
  cases given : entry.host with
  | none =>
    have empty : entry.hostText = "" := by
      unfold PortEntry.hostText
      rw [given]
      rfl
    rw [empty] at same
    exact (named same).elim
  | some host =>
    rw [hostText_host given,normalize_hostName] at same
    have anonymous : address.user = none := by
      by_contra user
      exact normalize_named address user host same
    rw [normalize_address address anonymous] at same
    exact ⟨route,listed,address,host,written,anonymous,rfl,same.symm,held⟩

section
variable {Inv : Burn → Prop} (calls : ReleaseCalls)

theorem detachEach_preserves {entries : List PortEntry}
    (kept : ∀ entry ∈ entries, ∀ burn : Burn, Inv burn → Inv {burn with detached := burn.detached ++ [entry]}) :
    Preserves Inv (detachEach calls entries) := by
  induction entries with
  | nil => exact preserves_pure _
  | cons entry entries ih =>
    refine Preserves.ite (fun _ => preserves_pure _) fun _ => ?_
    refine (preserves_modify (kept entry (List.mem_cons_self ..))).bind fun _ => ?_
    exact (preserves_await _).bind fun _ => ih fun other member => kept other (List.mem_cons_of_mem _ member)

theorem detachTargets_preserves {routes : List Route}
    (detached : ∀ entry, targeted routes entry = true → ∀ burn : Burn, Inv burn → Inv {burn with detached := burn.detached ++ [entry]}) :
    Preserves Inv (detachTargets calls routes) := by
  refine Preserves.ite (fun _ => preserves_pure _) fun _ => (preserves_await _).bind fun listing => ?_
  cases listing with
  | error text => exact preserves_pure _
  | ok listing =>
    refine (detachEach_preserves calls fun entry member => detached entry (List.mem_filter.mp member).2).bind fun error => ?_
    cases error with
    | some error => exact preserves_pure _
    | none =>
      refine (preserves_await _).bind fun last => ?_
      cases last with
      | error text => exact preserves_pure _
      | ok last =>
        refine Preserves.ite (fun _ => preserves_pure _) fun _ => ?_
        exact Preserves.ite (fun _ => (preserves_await _).bind fun _ => preserves_pure _) fun _ => preserves_pure _

theorem release_preserves {routes : List Route}
    (paused : ∀ burn : Burn, Inv burn → Inv {burn with reconnects := pauseRoutes calls.now routes burn.reconnects})
    (detached : ∀ entry, targeted routes entry = true → ∀ burn : Burn, Inv burn → Inv {burn with detached := burn.detached ++ [entry]}) :
    Preserves Inv (releaseUsbipDevicesToSource calls routes) :=
  Preserves.ite (fun _ => preserves_pure _) fun _ => (preserves_modify paused).bind fun _ => detachTargets_preserves calls detached

end

theorem refused_ne {burn final : Burn} {error : String} {rest : Prop}
    (done : (pure (false,error) : Program Burn Response (Bool × String)) burn = (.ok (true,""),final)) : rest := by
  have differs := (Prod.mk.inj (pure_ok.mp done).1).1
  cases differs

theorem released_listing {calls : ReleaseCalls} {routes : List Route} {burn final : Burn}
    (done : releaseUsbipDevicesToSource calls routes burn = (.ok (true,""),final)) :
    routes.flatMap Route.busids = [] ∨ ∃ last, calls.verify = .returned (.ok last) ∧ ∀ entry ∈ last, targeted routes entry = false := by
  unfold releaseUsbipDevicesToSource at done
  split at done
  · rename_i none
    rw [none]
    exact .inl rfl
  · obtain ⟨_,_,-,done⟩ := bind_ok.mp done
    unfold detachTargets at done
    split at done
    · exact .inl ‹_›
    · obtain ⟨listing,_,-,done⟩ := bind_ok.mp done
      cases listing with
      | error text => exact refused_ne done
      | ok listing =>
        obtain ⟨error,_,-,done⟩ := bind_ok.mp done
        cases error with
        | some error => exact refused_ne done
        | none =>
          obtain ⟨last,_,answered,done⟩ := bind_ok.mp done
          cases last with
          | error text => exact refused_ne done
          | ok last =>
            dsimp only at done
            split at done
            · exact refused_ne done
            · rename_i left
              refine .inr ⟨last,(await_ok.mp answered).1,fun entry member => ?_⟩
              exact Bool.eq_false_iff.mpr (List.filter_eq_nil_iff.mp (not_not.mp left) entry member)

theorem release_counts {calls : ReleaseCalls} {routes : List Route} (burn : Burn) (ports : calls.ports = .returned (.ok []))
    {last : List PortEntry} (verify : calls.verify = .returned (.ok last)) (clear : ∀ entry ∈ last, targeted routes entry = false) :
    (releaseUsbipDevicesToSource calls routes burn).1 = .ok (true,"") := by
  have none : last.filter (targeted routes) = [] := List.filter_eq_nil_iff.mpr fun entry member => by simp [clear entry member]
  suffices ended : ∃ final, releaseUsbipDevicesToSource calls routes burn = (.ok (true,""),final) by
    obtain ⟨final,done⟩ := ended
    rw [done]
  unfold releaseUsbipDevicesToSource
  split
  · exact ⟨burn,rfl⟩
  · refine ⟨{burn with reconnects := pauseRoutes calls.now routes burn.reconnects},bind_ok.mpr ⟨(),_,modify_ok.mpr rfl,?_⟩⟩
    unfold detachTargets
    split
    · rfl
    · refine bind_ok.mpr ⟨_,_,await_ok.mpr ⟨ports,rfl⟩,?_⟩
      refine bind_ok.mpr ⟨Option.none,_,rfl,?_⟩
      refine bind_ok.mpr ⟨_,_,await_ok.mpr ⟨verify,rfl⟩,?_⟩
      dsimp only
      rw [if_neg (not_not.mpr none)]
      rfl

theorem handsBack_iff {routes : List Route}
    (addressed : ∀ route ∈ routes, ∃ address : Address, address.text = route.deviceHost) : HandsBack routes ↔ Covered routes := by
  constructor
  · intro promise route listed address written user busid held
    let left : PortEntry := ⟨"00",busid,some address.host⟩
    let calls : ReleaseCalls := ⟨0,.returned (.ok []),fun _ => .returned (),.returned (.ok [left]),.returned ()⟩
    let burn : Burn := ⟨⟨.none,.none,[],[]⟩,[],[],false⟩
    have imports : Imports left route := ⟨address,written,⟨address.host,rfl,rfl⟩,held⟩
    have hit : targeted routes left = true := by
      by_contra miss
      have counts : (releaseUsbipDevicesToSource calls routes burn).1 = .ok (true,"") := by
        refine release_counts burn rfl rfl fun entry member => ?_
        rw [List.mem_singleton.mp member]
        exact Bool.eq_false_iff.mpr miss
      exact (promise calls burn).1 counts [left] rfl left (List.mem_singleton_self _) route listed imports
    obtain ⟨other,found,plain,host,same,anonymous,given,equal,carried⟩ := plain_of_targeted addressed hit
    cases given
    exact ⟨other,found,plain,same,anonymous,equal.symm,carried⟩
  · intro covered calls burn
    refine ⟨fun counts listing verified entry member route listed imports => ?_,?_⟩
    · obtain ⟨address,written,⟨host,given,same⟩,held⟩ := imports
      have hit : targeted routes entry = true := by
        by_cases anonymous : address.user = none
        · exact targeted_of_plain listed written anonymous given same held
        · obtain ⟨other,found,plain,wrote,bare,equal,carried⟩ := covered route listed address written anonymous _ held
          exact targeted_of_plain found wrote bare given (same.trans equal.symm) carried
      rcases released_listing (Prod.ext counts rfl) with none | ⟨last,verify,clear⟩
      · exact List.not_mem_nil (none ▸ List.mem_flatMap_of_mem listed held)
      · rw [verify] at verified
        cases verified
        rw [clear entry member] at hit
        cases hit
    · have only : Preserves (fun after : Burn => ∀ entry ∈ after.detached, entry ∈ burn.detached ∨ ∃ route ∈ routes, Imports entry route)
          (releaseUsbipDevicesToSource calls routes) := by
        refine release_preserves calls (fun _ kept => kept) fun entry hit after kept other member => ?_
        rcases List.mem_append.mp member with older | new
        · exact kept other older
        · rw [List.mem_singleton.mp new]
          obtain ⟨route,listed,plain,host,written,-,given,same,held⟩ := plain_of_targeted addressed hit
          exact .inr ⟨route,listed,plain,written,⟨host,given,same⟩,held⟩
      exact only burn fun entry member => .inl member

/-- The hosts of the stored assignments are addresses. -/
def Addressed (config : RouteConfig) : Prop := ∀ info ∈ config.assignments.values, ∃ address : Address, address.text = info.deviceHost

def oneSource (deviceHost : String) : RouteConfig where
  assignments := Dict.empty.put (usbipAssignmentKey deviceHost "1-2") {
    deviceHost
    workerId := ""
    busid := "1-2"
    deviceSerials := ["RK3588"]
    status := .attached
    generation := 1
    operationId := "attach"
    timestamp := 0 }
  knownSources := Dict.empty
  localWorker := "controller"

def labHost : HostName where
  text := "192.0.2.10"
  nonempty := by decide
  plain := List.all_eq_true.mp (by decide)
  dots := by decide

def labAddress (user : Option String) (named : ∀ name ∈ user, name ≠ "" ∧ ∀ c ∈ name.toList, hostChar c = true) : Address where
  user
  host := labHost
  named
  digits := fun _ given => by cases given
  login := fun given => by cases given
  literal := fun given => by cases given
  separated := fun given => by cases given

theorem oneSource_addressed {address : Address} {deviceHost : String} (written : address.text = deviceHost) :
    Addressed (oneSource deviceHost) := by
  intro info stored
  obtain ⟨key,found⟩ := Dict.mem_values.mp stored
  unfold oneSource at found
  rw [Dict.get_put] at found
  split at found
  · cases found
    exact ⟨address,written⟩
  · cases found

end GmsRemoteTest.Firmware
