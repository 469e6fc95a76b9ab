import GmsRemoteTest.Devices.FlashRoutes

/-! What the routes of a flash bind: each device to the port of an assignment that carries it, and no port to a device that it does not
carry. -/
namespace GmsRemoteTest.Devices
open Text

abbrev Candidate.key (item : Candidate) : String × String := (item.deviceHost,item.sourceHost)

def Candidate.bind (item : Candidate) (device : String) : Binding := ⟨device,item.busid,item.generation,item.operationId⟩

def RouteConfig.candidates (config : RouteConfig) : List Candidate := config.assignments.values.filterMap (candidate config.localWorker)

/-- The port of a device on a host: of its matching assignments there the first one. -/
def RouteConfig.port (config : RouteConfig) (device : String) (key : String × String) : Option Candidate :=
  (config.matches device).find? fun item => item.key = key

section
variable {device : String} {key : String × String} {route : Route} {item : Candidate}

def RouteConfig.pairs (config : RouteConfig) (devices : List String) : List (String × Candidate) :=
  devices.flatMap fun device => (config.matches device).map fun item => (device,item)

def joinPair (routes : Routes) (pair : String × Candidate) : Routes := joinRoute pair.1 routes pair.2

def Route.joinPair (route : Route) (pair : String × Candidate) : Route := route.join pair.1 pair.2

theorem resolve_eq (config : RouteConfig) (devices : List String) : resolveUsbipFlashRoutes config devices =
    ((config.pairs (requestedDevices devices)).foldl joinPair Dict.empty).values := by
  unfold resolveUsbipFlashRoutes RouteConfig.pairs
  rw [List.foldl_flatMap]
  simp only [List.foldl_map,joinPair]

theorem get_foldl_joinPair (pairs : List (String × Candidate)) (routes : Routes) (key : String × String) :
    (pairs.foldl joinPair routes).get key = match pairs.filter fun pair => pair.2.key = key with
      | [] => routes.get key
      | on => some (on.foldl Route.joinPair ((routes.get key).getD {deviceHost := key.1,sourceHost := key.2})) := by
  induction pairs generalizing routes with
  | nil => rfl
  | cons pair pairs ih =>
    rw [List.foldl_cons,ih,joinPair,joinRoute,Dict.get_put]
    by_cases here : key = pair.2.key
    · subst here
      rw [if_pos rfl,List.filter_cons_of_pos (by simp)]
      cases pairs.filter fun other => other.2.key = pair.2.key with
      | nil => rfl
      | cons next later => rfl
    · have apart : ¬key = (pair.2.deviceHost,pair.2.sourceHost) := here
      rw [if_neg apart,List.filter_cons_of_neg (by simpa using Ne.symm here)]

theorem join_sourceHost (device : String) (item : Candidate) (route : Route) : (route.join device item).sourceHost = route.sourceHost := by
  unfold Route.join
  dsimp only
  split <;> rfl

theorem mem_join_busids {busid : String} : busid ∈ (route.join device item).busids ↔ busid ∈ route.busids ∨ busid = item.busid := by
  unfold Route.join
  dsimp only
  have added : busid ∈ (if item.busid ∈ route.busids then route.busids else route.busids ++ [item.busid]) ↔
      busid ∈ route.busids ∨ busid = item.busid := by
    split
    · rename_i there
      exact ⟨.inl,fun either => either.elim id fun same => same ▸ there⟩
    · simp
  split <;> exact added

theorem join_known (known : device ∈ route.deviceIds) :
    (route.join device item).deviceIds = route.deviceIds ∧ (route.join device item).bindings = route.bindings := by
  unfold Route.join
  rw [if_pos known]
  exact ⟨rfl,rfl⟩

theorem join_new (new : device ∉ route.deviceIds) :
    (route.join device item).deviceIds = route.deviceIds ++ [device] ∧
      (route.join device item).bindings = route.bindings ++ [item.bind device] := by
  unfold Route.join
  rw [if_neg new]
  exact ⟨rfl,rfl⟩

theorem foldl_join_hosts (pairs : List (String × Candidate)) (route : Route) :
    (pairs.foldl Route.joinPair route).deviceHost = route.deviceHost ∧ (pairs.foldl Route.joinPair route).sourceHost = route.sourceHost := by
  induction pairs generalizing route with
  | nil => exact ⟨rfl,rfl⟩
  | cons pair pairs ih =>
    obtain ⟨device,source⟩ := ih (route.joinPair pair)
    exact ⟨device.trans (join_deviceHost ..),source.trans (join_sourceHost ..)⟩

theorem mem_foldl_busids {busid : String} (pairs : List (String × Candidate)) (route : Route) :
    busid ∈ (pairs.foldl Route.joinPair route).busids ↔ busid ∈ route.busids ∨ ∃ pair ∈ pairs, pair.2.busid = busid := by
  induction pairs generalizing route with
  | nil => simp
  | cons pair pairs ih =>
    rw [List.foldl_cons,ih,Route.joinPair,mem_join_busids]
    simp [or_assoc,eq_comm]

theorem mem_foldl_deviceIds (pairs : List (String × Candidate)) (route : Route) :
    device ∈ (pairs.foldl Route.joinPair route).deviceIds ↔ device ∈ route.deviceIds ∨ device ∈ pairs.map Prod.fst := by
  induction pairs generalizing route with
  | nil => simp
  | cons pair pairs ih =>
    rw [List.foldl_cons,ih,Route.joinPair,List.map_cons,List.mem_cons]
    by_cases known : pair.1 ∈ route.deviceIds
    · rw [(join_known known).1]
      have absorbed : device = pair.1 → device ∈ route.deviceIds := fun same => same ▸ known
      tauto
    · rw [(join_new known).1,List.mem_append,List.mem_singleton]
      tauto

theorem mem_foldl_bindings {binding : Binding} (pairs : List (String × Candidate)) (route : Route) :
    binding ∈ (pairs.foldl Route.joinPair route).bindings ↔ binding ∈ route.bindings ∨
      ∃ device, device ∉ route.deviceIds ∧ ∃ item, pairs.find? (fun pair => pair.1 = device) = some (device,item) ∧ binding = item.bind device := by
  induction pairs generalizing route with
  | nil => simp
  | cons pair pairs ih =>
    obtain ⟨first,item⟩ := pair
    rw [List.foldl_cons,ih,Route.joinPair]
    by_cases known : first ∈ route.deviceIds
    · rw [(join_known known).1,(join_known known).2]
      refine or_congr_right (exists_congr fun device => and_congr_right fun new => ?_)
      have other : first ≠ device := fun same => new (same ▸ known)
      rw [List.find?_cons_of_neg (by simpa using other)]
    · rw [(join_new known).1,(join_new known).2,List.mem_append,List.mem_singleton,or_assoc]
      refine or_congr_right ⟨?_,?_⟩
      · rintro (rfl | ⟨device,new,found⟩)
        · exact ⟨first,known,item,List.find?_cons_of_pos (by simp),rfl⟩
        · rw [List.mem_append,not_or,List.mem_singleton] at new
          refine ⟨device,new.1,?_⟩
          rwa [List.find?_cons_of_neg (by simpa using Ne.symm new.2)]
      · rintro ⟨device,new,other,found,rfl⟩
        by_cases same : first = device
        · subst same
          rw [List.find?_cons_of_pos (by simp)] at found
          cases found
          exact .inl rfl
        · rw [List.find?_cons_of_neg (by simpa using same)] at found
          refine .inr ⟨device,?_,other,found,rfl⟩
          rw [List.mem_append,not_or,List.mem_singleton]
          exact ⟨new,Ne.symm same⟩

end

section
variable {config : RouteConfig} {devices : List String} {route : Route} {key : String × String}

theorem find_pairs (requested : List String) (device : String) (key : String × String) :
    ((config.pairs requested).filter fun pair => pair.2.key = key).find? (fun pair => pair.1 = device) =
      if device ∈ requested then (config.port device key).map fun item => (device,item) else none := by
  induction requested with
  | nil => rfl
  | cons first requested ih =>
    unfold RouteConfig.pairs at ih ⊢
    rw [List.flatMap_cons,List.filter_append,List.find?_append,ih]
    by_cases same : first = device
    · subst same
      have own : ((((config.matches first).map fun item => (first,item)).filter fun pair => pair.2.key = key).find? fun pair => pair.1 = first) =
          (config.port first key).map fun item => (first,item) := by
        unfold RouteConfig.port
        rw [List.find?_filter,List.find?_map]
        simp [Function.comp_def]
      rw [own,if_pos List.mem_cons_self]
      cases config.port first key with
      | some item => rfl
      | none => simp
    · have none_ : ((((config.matches first).map fun item => (first,item)).filter fun pair => pair.2.key = key).find? fun pair => pair.1 = device) =
          none := by
        rw [List.find?_eq_none]
        intro pair member
        obtain ⟨item,-,rfl⟩ := List.mem_map.mp (List.mem_of_mem_filter member)
        simpa using same
      rw [none_,Option.none_or]
      simp [Ne.symm same]

theorem mem_pairs {pair : String × Candidate} {requested : List String} :
    pair ∈ config.pairs requested ↔ pair.1 ∈ requested ∧ pair.2 ∈ config.matches pair.1 := by
  unfold RouteConfig.pairs
  constructor
  · intro member
    obtain ⟨device,known,member⟩ := List.mem_flatMap.mp member
    obtain ⟨item,listed,rfl⟩ := List.mem_map.mp member
    exact ⟨known,listed⟩
  · rintro ⟨known,listed⟩
    exact List.mem_flatMap.mpr ⟨pair.1,known,List.mem_map.mpr ⟨pair.2,listed,rfl⟩⟩

structure Route.Of (config : RouteConfig) (requested : List String) (route : Route) : Prop where
  busids : ∀ busid, busid ∈ route.busids ↔
    ∃ device ∈ requested, ∃ item ∈ config.matches device, item.key = (route.deviceHost,route.sourceHost) ∧ item.busid = busid
  bindings : ∀ binding, binding ∈ route.bindings ↔
    ∃ device ∈ requested, ∃ item, config.port device (route.deviceHost,route.sourceHost) = some item ∧ binding = item.bind device
  deviceIds : ∀ device, device ∈ route.deviceIds ↔
    device ∈ requested ∧ ∃ item ∈ config.matches device, item.key = (route.deviceHost,route.sourceHost)

theorem route_of (resolved : route ∈ resolveUsbipFlashRoutes config devices) : route.Of config (requestedDevices devices) := by
  rw [resolve_eq] at resolved
  obtain ⟨key,found⟩ := Dict.mem_values.mp resolved
  rw [get_foldl_joinPair] at found
  have held : route = ((config.pairs (requestedDevices devices)).filter fun pair => pair.2.key = key).foldl Route.joinPair
      {deviceHost := key.1,sourceHost := key.2} := by
    cases same : (config.pairs (requestedDevices devices)).filter fun pair => pair.2.key = key with
    | nil =>
      rw [same] at found
      cases found
    | cons pair on =>
      rw [same] at found
      exact (Option.some.inj found).symm
  have hosts : (route.deviceHost,route.sourceHost) = key := by
    rw [held,(foldl_join_hosts _ _).1,(foldl_join_hosts _ _).2]
  refine ⟨fun busid => ?_,fun binding => ?_,fun device => ?_⟩
  · rw [hosts,held,mem_foldl_busids]
    simp only [List.not_mem_nil,false_or,List.mem_filter,mem_pairs,decide_eq_true_eq]
    constructor
    · rintro ⟨⟨device,item⟩,⟨⟨known,listed⟩,here⟩,same⟩
      exact ⟨device,known,item,listed,here,same⟩
    · rintro ⟨device,known,item,listed,here,same⟩
      exact ⟨(device,item),⟨⟨known,listed⟩,here⟩,same⟩
  · rw [hosts,held,mem_foldl_bindings]
    simp only [List.not_mem_nil,false_or,not_false_eq_true,true_and,find_pairs]
    constructor
    · rintro ⟨device,item,found,rfl⟩
      split at found
      · rename_i known
        obtain ⟨other,port,⟨⟩⟩ := Option.map_eq_some_iff.mp found
        exact ⟨device,known,item,port,rfl⟩
      · cases found
    · rintro ⟨device,known,item,port,rfl⟩
      exact ⟨device,item,by rw [if_pos known,port]; rfl,rfl⟩
  · rw [hosts,held,mem_foldl_deviceIds]
    simp only [List.not_mem_nil,false_or,List.mem_map,List.mem_filter,mem_pairs,decide_eq_true_eq]
    constructor
    · rintro ⟨⟨_,item⟩,⟨⟨known,listed⟩,here⟩,rfl⟩
      exact ⟨known,item,listed,here⟩
    · rintro ⟨known,item,listed,here⟩
      exact ⟨(device,item),⟨⟨known,listed⟩,here⟩,rfl⟩

section
variable {device : String} {item : Candidate}

theorem exists_route (known : device ∈ requestedDevices devices) (listed : item ∈ config.matches device) :
    ∃ route ∈ resolveUsbipFlashRoutes config devices, (route.deviceHost,route.sourceHost) = item.key := by
  have on : (device,item) ∈ (config.pairs (requestedDevices devices)).filter fun pair => pair.2.key = item.key :=
    List.mem_filter.mpr ⟨mem_pairs.mpr ⟨known,listed⟩,by simp⟩
  rw [resolve_eq]
  have found := get_foldl_joinPair (config.pairs (requestedDevices devices)) Dict.empty item.key
  split at found
  · rename_i none_
    rw [none_] at on
    cases on
  · exact ⟨_,Dict.mem_values.mpr ⟨item.key,found⟩,Prod.ext (foldl_join_hosts _ _).1 (foldl_join_hosts _ _).2⟩

theorem port_mem (port : config.port device key = some item) :
    item ∈ config.matches device ∧ item.key = key := ⟨List.mem_of_find?_eq_some port,by simpa using List.find?_some port⟩

theorem exists_port (listed : item ∈ config.matches device) :
    ∃ port, config.port device item.key = some port := by
  refine Option.isSome_iff_exists.mp (List.find?_isSome.mpr ⟨item,listed,by simp⟩)

end

end

def Carries (config : RouteConfig) (device : String) (item : Candidate) : Prop :=
  item ∈ config.candidates ∧
    (device ∈ item.deviceSerials ∧ (config.knownHost device = "" ∨ normalizeHost item.deviceHost = normalizeHost (config.knownHost device)) ∨
      config.knownHost device ≠ "" ∧
        (config.candidates.filter fun other => normalizeHost other.deviceHost = normalizeHost (config.knownHost device)) = [item] ∧
        ∀ serial ∈ item.deviceSerials, serial = device)

structure Sound (config : RouteConfig) (routes : List Route) : Prop where
  origin : ∀ route ∈ routes, ∀ binding ∈ route.bindings, ∃ item, Carries config binding.deviceId item ∧
    item.key = (route.deviceHost,route.sourceHost) ∧ binding = item.bind binding.deviceId
  exclusive : ∀ route ∈ routes, ∀ binding ∈ route.bindings, ∀ route' ∈ routes, ∀ binding' ∈ route'.bindings,
    route.sourceHost = route'.sourceHost → binding.busid = binding'.busid → binding.deviceId = binding'.deviceId
  single : ∀ route ∈ routes, ∀ binding ∈ route.bindings, ∀ route' ∈ routes, ∀ binding' ∈ route'.bindings,
    binding.deviceId = binding'.deviceId → binding.busid = binding'.busid
  busids : ∀ route ∈ routes, ∀ busid, busid ∈ route.busids ↔ ∃ binding ∈ route.bindings, binding.busid = busid
  unrouted : ∀ device, (∀ item, ¬Carries config device item) → ∀ route ∈ routes, device ∉ route.deviceIds

/-- What the assignments of the requested devices must be like. -/
structure Unmistakable (config : RouteConfig) (requested : List String) : Prop where
  alone : ∀ device ∈ requested, ∀ item ∈ config.matches device, device ∉ item.deviceSerials → item.deviceSerials = []
  exclusive : ∀ device ∈ requested, ∀ device' ∈ requested, ∀ key key' item item', config.port device key = some item →
    config.port device' key' = some item' → key.2 = key'.2 → item.busid = item'.busid → device = device'
  single : ∀ device ∈ requested, ∀ key key' item item', config.port device key = some item → config.port device key' = some item' →
    item.busid = item'.busid
  further : ∀ device ∈ requested, ∀ item ∈ config.matches device, ∃ device' ∈ requested, ∃ port,
    config.port device' item.key = some port ∧ port.busid = item.busid

section
variable {config : RouteConfig} {devices : List String} {device : String} {item : Candidate}

theorem matches_cases (listed : item ∈ config.matches device) : item ∈ config.candidates ∧
    (device ∈ item.deviceSerials ∧ (config.knownHost device = "" ∨ normalizeHost item.deviceHost = normalizeHost (config.knownHost device)) ∨
      config.knownHost device ≠ "" ∧
        (config.candidates.filter fun other => normalizeHost other.deviceHost = normalizeHost (config.knownHost device)) = [item] ∧
        device ∉ item.deviceSerials) := by
  unfold RouteConfig.matches at listed
  dsimp only at listed
  split at listed
  · rename_i fallback
    obtain ⟨none_,known,one⟩ := fallback
    obtain ⟨only,same⟩ := List.length_eq_one_iff.mp one
    have mine : item = only := by simpa [same] using listed
    have held := List.mem_filter.mp listed
    refine ⟨held.1,.inr ⟨known,by rw [mine]; exact same,fun lists => ?_⟩⟩
    refine List.not_mem_nil (a := item) (none_ ▸ List.mem_filter.mpr ⟨held.1,?_⟩)
    have here := of_decide_eq_true held.2
    simp [lists,here]
  · obtain ⟨held,lists⟩ := List.mem_filter.mp listed
    rw [Bool.and_eq_true,decide_eq_true_eq] at lists
    exact ⟨held,.inl ⟨lists.1,by simpa using lists.2⟩⟩

theorem carries_iff (listed : item ∈ config.matches device) :
    Carries config device item ↔ (device ∉ item.deviceSerials → item.deviceSerials = []) := by
  obtain ⟨held,⟨lists,host⟩ | ⟨known,only,apart⟩⟩ := matches_cases listed
  · exact ⟨fun _ apart => absurd lists apart,fun _ => ⟨held,.inl ⟨lists,host⟩⟩⟩
  · constructor
    · rintro ⟨-,⟨lists,-⟩ | ⟨-,-,all⟩⟩ -
      · exact absurd lists apart
      · exact List.eq_nil_iff_forall_not_mem.mpr fun serial member => apart (all serial member ▸ member)
    · intro empty
      refine ⟨held,.inr ⟨known,only,fun serial member => ?_⟩⟩
      rw [empty apart] at member
      cases member

theorem routes_sound_iff : Sound config (resolveUsbipFlashRoutes config devices) ↔ Unmistakable config (requestedDevices devices) := by
  constructor
  · intro sound
    have bound : ∀ device ∈ requestedDevices devices, ∀ key item, config.port device key = some item →
        ∃ route ∈ resolveUsbipFlashRoutes config devices, (route.deviceHost,route.sourceHost) = key ∧ item.bind device ∈ route.bindings := by
      intro device known key item port
      obtain ⟨listed,rfl⟩ := port_mem port
      obtain ⟨route,resolved,hosts⟩ := exists_route known listed
      exact ⟨route,resolved,hosts,((route_of resolved).bindings _).mpr ⟨device,known,item,by rw [hosts]; exact port,rfl⟩⟩
    refine ⟨fun device known item listed apart => ?_,?_,?_,fun device known item listed => ?_⟩
    · obtain ⟨held,⟨lists,-⟩ | ⟨host,only,-⟩⟩ := matches_cases listed
      · exact absurd lists apart
      · obtain ⟨port,found⟩ := exists_port listed
        obtain ⟨route,resolved,hosts,binding⟩ := bound device known _ _ found
        obtain ⟨other,carries,here,-⟩ := sound.origin route resolved _ binding
        -- the assignment the binding comes from is on this host, where there is only one
        have near : normalizeHost item.deviceHost = normalizeHost (config.knownHost device) := by
          have member : item ∈ [item] := List.mem_singleton_self item
          rw [← only] at member
          exact of_decide_eq_true (List.mem_filter.mp member).2
        have hosts' : other.deviceHost = item.deviceHost := congrArg Prod.fst (here.trans hosts)
        have same : other ∈ [item] := by
          rw [← only]
          exact List.mem_filter.mpr ⟨carries.1,decide_eq_true (by rw [hosts']; exact near)⟩
        rw [List.mem_singleton.mp same] at carries
        exact (carries_iff listed).mp carries apart
    · intro device known device' known' key key' item item' port port' host busid
      obtain ⟨route,resolved,rfl,binding⟩ := bound device known _ _ port
      obtain ⟨route',resolved',rfl,binding'⟩ := bound device' known' _ _ port'
      exact sound.exclusive route resolved _ binding route' resolved' _ binding' host busid
    · intro device known key key' item item' port port'
      obtain ⟨route,resolved,-,binding⟩ := bound device known _ _ port
      obtain ⟨route',resolved',-,binding'⟩ := bound device known _ _ port'
      exact sound.single route resolved _ binding route' resolved' _ binding' rfl
    · obtain ⟨route,resolved,hosts⟩ := exists_route known listed
      have there := ((route_of resolved).busids item.busid).mpr ⟨device,known,item,listed,hosts.symm,rfl⟩
      obtain ⟨binding,member,same⟩ := (sound.busids route resolved item.busid).mp there
      obtain ⟨device',known',port,found,rfl⟩ := ((route_of resolved).bindings binding).mp member
      exact ⟨device',known',port,by rwa [hosts] at found,same⟩
  · intro clear
    have parts : ∀ route ∈ resolveUsbipFlashRoutes config devices, ∀ binding ∈ route.bindings, ∃ device ∈ requestedDevices devices, ∃ item,
        config.port device (route.deviceHost,route.sourceHost) = some item ∧ binding = item.bind device :=
      fun route resolved binding member => ((route_of resolved).bindings binding).mp member
    refine ⟨?_,?_,?_,fun route resolved busid => ?_,?_⟩
    · intro route resolved binding member
      obtain ⟨device,known,item,port,rfl⟩ := parts route resolved binding member
      obtain ⟨listed,here⟩ := port_mem port
      exact ⟨item,(carries_iff listed).mpr (clear.alone device known item listed),here,rfl⟩
    · intro route resolved binding member route' resolved' binding' member' host busid
      obtain ⟨device,known,item,port,rfl⟩ := parts route resolved binding member
      obtain ⟨device',known',item',port',rfl⟩ := parts route' resolved' binding' member'
      exact clear.exclusive device known device' known' _ _ item item' port port' host busid
    · intro route resolved binding member route' resolved' binding' member' same
      obtain ⟨device,known,item,port,rfl⟩ := parts route resolved binding member
      obtain ⟨device',known',item',port',rfl⟩ := parts route' resolved' binding' member'
      obtain rfl : device = device' := same
      exact clear.single device known _ _ item item' port port'
    · rw [(route_of resolved).busids]
      constructor
      · rintro ⟨device,known,item,listed,hosts,rfl⟩
        obtain ⟨device',known',port,found,same⟩ := clear.further device known item listed
        rw [hosts] at found
        exact ⟨port.bind device',((route_of resolved).bindings _).mpr ⟨device',known',port,found,rfl⟩,same⟩
      · rintro ⟨binding,member,rfl⟩
        obtain ⟨device,known,item,port,rfl⟩ := parts route resolved binding member
        obtain ⟨listed,here⟩ := port_mem port
        exact ⟨device,known,item,listed,here,rfl⟩
    · intro device none_ route resolved member
      obtain ⟨known,item,listed,-⟩ := ((route_of resolved).deviceIds device).mp member
      exact none_ item ((carries_iff listed).mpr (clear.alone device known item listed))

end

def otherBoard : RouteConfig where
  assignments := Dict.empty.put "192.0.2.7|1-1" {
    deviceHost := "192.0.2.7", workerId := "", busid := "1-1", deviceSerials := ["RK-2"], status := .attached, generation := 1
    operationId := "op", timestamp := 0 }
  knownSources := Dict.empty.put "RK-1" "192.0.2.7"
  localWorker := ""

theorem other_board_bound :
    (resolveUsbipFlashRoutes otherBoard ["RK-1"]).map Route.bindings = [[⟨"RK-1","1-1",1,"op"⟩]] ∧
      ¬Sound otherBoard (resolveUsbipFlashRoutes otherBoard ["RK-1"]) := by
  have bound : (resolveUsbipFlashRoutes otherBoard ["RK-1"]).map Route.bindings = [[⟨"RK-1","1-1",1,"op"⟩]] := by decide +kernel
  have serials : ∀ item ∈ otherBoard.candidates, item.deviceSerials = ["RK-2"] := by decide +kernel
  refine ⟨bound,fun sound => ?_⟩
  obtain ⟨route,resolved,bindings⟩ := List.mem_map.mp (bound ▸ List.mem_singleton_self _)
  obtain ⟨item,⟨live,carries⟩,-⟩ := sound.origin route resolved ⟨"RK-1","1-1",1,"op"⟩ (bindings ▸ List.mem_singleton_self _)
  obtain ⟨lists,-⟩ | ⟨-,-,all⟩ := carries
  · rw [serials item live] at lists
    exact absurd lists (by decide)
  · exact absurd (all "RK-2" (by rw [serials item live]; decide)) (by decide)

end GmsRemoteTest.Devices
