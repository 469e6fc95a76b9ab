import GmsRemoteTest.Foundation.Fields
import GmsRemoteTest.Devices.TransportOperations

/-! `resolve_usbip_flash_routes`: the physical routes of devices that are flashed over USB/IP, from the stored
assignments and the sources that devices were seen at. -/
namespace GmsRemoteTest.Devices
open Text

structure Binding where
  deviceId : String
  busid : String
  generation : Nat
  operationId : String
deriving DecidableEq

structure Route where
  deviceHost : String
  sourceHost : String
  busids : List String := []
  deviceIds : List String := []
  bindings : List Binding := []
  sourceOs : String := ""
deriving DecidableEq

/-- What the resolution reads: `usbip_cluster_assignments`, the known sources by device and the local worker. -/
structure RouteConfig where
  assignments : Assignments
  knownSources : Dict String String
  localWorker : String

structure Candidate where
  deviceHost : String
  sourceHost : String
  busid : String
  generation : Nat
  operationId : String
  deviceSerials : List String

def candidate (localWorker : String) (info : Assignment) : Option Candidate :=
  if info.status = .detaching then none
  else if localWorker ≠ "" ∧ info.workerId ≠ "" ∧ info.workerId ≠ localWorker then none
  else if strip info.busid = "" ∨ strip info.deviceHost = "" then none
  else some {
    deviceHost := strip info.deviceHost
    sourceHost := orElse (strip info.sourceHost) (normalizeHost (strip info.deviceHost))
    busid := strip info.busid
    generation := info.generation
    operationId := info.operationId
    deviceSerials := (info.deviceSerials.map strip).filter (· ≠ "") }

def RouteConfig.knownHost (config : RouteConfig) (device : String) : String := strip ((config.knownSources.get device).getD "")

def RouteConfig.matches (config : RouteConfig) (device : String) : List Candidate :=
  let candidates := config.assignments.values.filterMap (candidate config.localWorker)
  let known := config.knownHost device
  let listed := candidates.filter fun item =>
    device ∈ item.deviceSerials && (known = "" || normalizeHost item.deviceHost = normalizeHost known)
  let ofHost := candidates.filter fun item => normalizeHost item.deviceHost = normalizeHost known
  if listed = [] ∧ known ≠ "" ∧ ofHost.length = 1 then ofHost else listed

def Route.join (device : String) (item : Candidate) (route : Route) : Route :=
  let busids := if item.busid ∈ route.busids then route.busids else route.busids ++ [item.busid]
  if device ∈ route.deviceIds then {route with busids}
  else {route with
    busids
    deviceIds := route.deviceIds ++ [device]
    bindings := route.bindings ++ [⟨device,item.busid,item.generation,item.operationId⟩] }

abbrev Routes := Dict (String × String) Route

def joinRoute (device : String) (routes : Routes) (item : Candidate) : Routes :=
  let key := (item.deviceHost,item.sourceHost)
  routes.put key (Route.join device item ((routes.get key).getD {deviceHost := item.deviceHost,sourceHost := item.sourceHost}))

def requestedDevices (devices : List String) : List String := sorted (fromkeys ((devices.map strip).filter (· ≠ "")))

def resolveUsbipFlashRoutes (config : RouteConfig) (devices : List String) : List Route :=
  ((requestedDevices devices).foldl (fun routes device => (config.matches device).foldl (joinRoute device) routes) Dict.empty).values

def Trimmed (text : String) : Prop := text ≠ "" ∧ strip text = text

theorem trimmed_strip {text : String} (nonempty : strip text ≠ "") : Trimmed (strip text) := ⟨nonempty,strip_strip text⟩

/-- A route names its host, and each of its devices. -/
structure Route.Named (route : Route) : Prop where
  host : Trimmed route.deviceHost
  devices : route.deviceIds ≠ []
  trimmed : ∀ device ∈ route.deviceIds, Trimmed device
  busids : route.busids ≠ []

theorem candidate_host {localWorker : String} {info : Assignment} {item : Candidate} (found : candidate localWorker info = some item) :
    item.deviceHost = strip info.deviceHost ∧ strip info.deviceHost ≠ "" := by
  unfold candidate at found
  split at found
  · cases found
  · split at found
    · cases found
    · split at found
      · cases found
      · rename_i present
        cases found
        exact ⟨rfl,fun empty => present (.inr empty)⟩

section
variable {config : RouteConfig} {device : String} {item : Candidate} (listed : item ∈ config.matches device)
include listed

theorem matches_candidate :
    ∃ info ∈ config.assignments.values, candidate config.localWorker info = some item := by
  unfold RouteConfig.matches at listed
  dsimp only at listed
  refine List.mem_filterMap.mp ?_
  split at listed
  · exact List.mem_of_mem_filter listed
  · exact List.mem_of_mem_filter listed

theorem matches_trimmed :
    Trimmed item.deviceHost := by
  obtain ⟨info,-,found⟩ := matches_candidate listed
  rw [(candidate_host found).1]
  exact trimmed_strip (candidate_host found).2

end

theorem requested_trimmed {devices : List String} {device : String} (requested : device ∈ requestedDevices devices) :
    Trimmed device := by
  unfold requestedDevices at requested
  rw [mem_sorted,mem_fromkeys,List.mem_filter] at requested
  obtain ⟨raw,-,rfl⟩ := List.mem_map.mp requested.1
  exact trimmed_strip (by simpa using requested.2)

/-- The hosts and devices of a route have no blanks around them, also before it has a device. -/
structure Route.Clean (route : Route) : Prop where
  host : Trimmed route.deviceHost
  trimmed : ∀ device ∈ route.deviceIds, Trimmed device

theorem Route.Clean.join {route : Route} (clean : route.Clean) {device : String} (given : Trimmed device) (item : Candidate) :
    (route.join device item).Named := by
  unfold Route.join
  dsimp only
  have busids : (if item.busid ∈ route.busids then route.busids else route.busids ++ [item.busid]) ≠ [] := by
    split
    · exact List.ne_nil_of_mem ‹_›
    · simp
  split
  · rename_i member
    exact ⟨clean.host,List.ne_nil_of_mem member,clean.trimmed,busids⟩
  · refine ⟨clean.host,by simp,?_,busids⟩
    intro other member
    rcases List.mem_append.mp member with older | new
    · exact clean.trimmed other older
    · rw [List.mem_singleton.mp new]
      exact given

def AllRoutes (P : Route → Prop) (routes : Routes) : Prop := ∀ key route, routes.get key = some route → P route

theorem resolved_invariant {P : Route → Prop} {config : RouteConfig} {devices : List String}
    (fresh : ∀ device ∈ requestedDevices devices, ∀ item ∈ config.matches device,
      P (Route.join device item {deviceHost := item.deviceHost,sourceHost := item.sourceHost}))
    (joined : ∀ device ∈ requestedDevices devices, ∀ item ∈ config.matches device, ∀ route, P route → P (route.join device item)) :
    ∀ route ∈ resolveUsbipFlashRoutes config devices, P route := by
  have all : AllRoutes P ((requestedDevices devices).foldl
      (fun routes device => (config.matches device).foldl (joinRoute device) routes) Dict.empty) := by
    refine List.foldlRecOn _ _ (fun _ _ found => by cases found) ?_
    intro routes before device requested
    refine List.foldlRecOn _ _ before ?_
    intro routes held item listed key route found
    unfold joinRoute at found
    dsimp only at found
    rw [Dict.get_put] at found
    split at found
    · cases found
      cases stored : routes.get (item.deviceHost,item.sourceHost) with
      | none => exact fresh device requested item listed
      | some route => exact joined device requested item listed route (held _ route stored)
    · exact held key route found
  intro route resolved
  obtain ⟨key,found⟩ := Dict.mem_values.mp resolved
  exact all key route found

theorem resolved_named {config : RouteConfig} {devices : List String} :
    ∀ route ∈ resolveUsbipFlashRoutes config devices, route.Named := by
  refine resolved_invariant ?_ ?_
  · intro device requested item listed
    exact Route.Clean.join ⟨matches_trimmed listed,fun _ member => by cases member⟩ (requested_trimmed requested) item
  · intro device requested item listed route named
    exact Route.Clean.join ⟨named.host,named.trimmed⟩ (requested_trimmed requested) item

theorem join_deviceHost (device : String) (item : Candidate) (route : Route) : (route.join device item).deviceHost = route.deviceHost := by
  unfold Route.join
  dsimp only
  split <;> rfl

theorem resolved_host {config : RouteConfig} {devices : List String} :
    ∀ route ∈ resolveUsbipFlashRoutes config devices, ∃ info ∈ config.assignments.values, route.deviceHost = strip info.deviceHost := by
  refine resolved_invariant ?_ ?_
  · intro device requested item listed
    obtain ⟨info,stored,found⟩ := matches_candidate listed
    exact ⟨info,stored,(join_deviceHost ..).trans (candidate_host found).1⟩
  · intro device requested item listed route earlier
    rw [join_deviceHost]
    exact earlier

end GmsRemoteTest.Devices
