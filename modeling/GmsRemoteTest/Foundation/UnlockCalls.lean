import GmsRemoteTest.Foundation.ClaimSurvival

/-! Unlock calls among the other operations of the claim registry. A call reads the claims first and releases what it read later, one
source at a time, whatever the registry holds by then. -/
namespace GmsRemoteTest.UnlockCalls
open Text DeviceClaims DeviceLocks

inductive Call
  | unlockDevice (deviceId clientId source : String)
  | forceUnlockDevice (deviceId : String)
  | unlockAll (clientId source : String)
deriving DecidableEq

inductive Left
  | release (source : String) (deviceKeys : List String)
  | forceRelease (deviceKey : String)
deriving DecidableEq

def Clustered (claim : Claim) : Bool :=
  startsWith "cluster-" claim.sourceType || startsWith "job:" claim.sourceId || startsWith "reservation:" claim.sourceId

/-- What a call reads, and what it will release then. -/
def Call.read (manager : Manager) (registry : Registry) (now : Nat) : Call → List Left × Registry
  | .unlockDevice deviceId clientId source =>
    let deviceKey := (manager.device deviceId).deviceKey
    let read := activeClaim registry deviceKey now
    match read.1 with
    | none => ([],read.2)
    | some claim =>
      if claim.ownerId ≠ clientId then ([],read.2)
      else if source ≠ "" ∧ claim.sourceId ≠ Manager.sourceId clientId source then ([],read.2)
      else ([.release claim.sourceId [deviceKey]],read.2)
  | .forceUnlockDevice deviceId =>
    let deviceKey := (manager.device deviceId).deviceKey
    let read := activeClaim registry deviceKey now
    if read.1.any Clustered then ([],read.2) else ([.forceRelease deviceKey],read.2)
  | .unlockAll clientId source =>
    let read := listActive registry manager.localWorkerId clientId now
    let records := if source = "" then read.1 else Table.select (fun row => row.sourceId = source) read.1
    ((fromkeys (records.map (·.sourceId))).map fun source => .release source [],read.2)

def Left.apply (registry : Registry) (later : Nat) : Left → Registry
  | .release source deviceKeys => (DeviceClaims.release registry source .released deviceKeys later).2
  | .forceRelease deviceKey => (DeviceClaims.forceRelease registry deviceKey later).2

def Left.Takes (rows : List Claim) (row : Claim) : Left → Prop
  | .release source deviceKeys => Held source deviceKeys row
  | .forceRelease deviceKey => (activeRow rows deviceKey).any fun current => row.id = current.id ∧ row.status = .active

instance (rows : List Claim) (left : Left) : DecidablePred fun row => left.Takes rows row := fun row => match left with
  | .release source deviceKeys => inferInstanceAs (Decidable (Held source deviceKeys row))
  | .forceRelease _ => inferInstanceAs (Decidable (_ = true))

section
variable (manager : Manager) (registry : Registry)
include manager registry

theorem unlockDevice_alone (deviceId clientId source : String) (now later : Nat) :
    let read := (Call.unlockDevice deviceId clientId source).read manager registry now
    read.1.foldl (fun registry left => left.apply registry later) read.2 =
      (manager.unlockDevice registry deviceId clientId source now later).2 := by
  unfold Call.read Manager.unlockDevice
  dsimp only
  cases (activeClaim registry (manager.device deviceId).deviceKey now).1 with
  | none => rfl
  | some claim =>
    dsimp only
    split_ifs
    · rfl
    · rfl
    · rfl

theorem forceUnlockDevice_alone (deviceId : String) (now later : Nat) :
    let read := (Call.forceUnlockDevice deviceId).read manager registry now
    read.1.foldl (fun registry left => left.apply registry later) read.2 = (manager.forceUnlockDevice registry deviceId now later).2 := by
  unfold Call.read Manager.forceUnlockDevice
  dsimp only
  by_cases clustered : (activeClaim registry (manager.device deviceId).deviceKey now).1.any Clustered
  · rw [if_pos clustered]
    unfold Clustered at clustered
    rw [if_pos clustered]
    rfl
  · rw [if_neg clustered]
    unfold Clustered at clustered
    rw [if_neg clustered]
    rfl

theorem unlockAll_alone (clientId source : String) (now later : Nat) :
    let read := (Call.unlockAll clientId source).read manager registry now
    read.1.foldl (fun registry left => left.apply registry later) read.2 = (manager.unlockAll registry clientId source now later).2 := by
  unfold Call.read Manager.unlockAll Manager.releaseSources
  dsimp only
  rw [releaseSources_run,List.foldl_map]
  unfold run Runs.exec
  rw [List.foldl_map]
  rfl

end

/-- The registry, the calls that have read, with what they have left to release, and the claims that calls have ended. -/
structure World where
  registry : Registry
  flights : List (Call × List Left) := []
  ended : List (Call × Claim) := []

inductive Event
  /-- Any operation of the registry by anybody else. -/
  | other (op : DeviceClaims.Op)
  | read (call : Call) (now : Nat)
  /-- The next release of a call. -/
  | release (index : Nat) (later : Nat)

namespace World

def release (world : World) (index later : Nat) : World := match world.flights[index]? with
  | some (call,left :: rest) =>
    {registry := left.apply world.registry later
     flights := world.flights.set index (call,rest)
     ended := (Table.select (fun row => left.Takes world.registry.rows row) world.registry.rows).map (fun row => (call,row)) ++ world.ended}
  | _ => world

def apply (manager : Manager) : Event → World → World
  | .other op, world => {world with registry := DeviceClaims.apply op world.registry}
  | .read call now, world =>
    let read := call.read manager world.registry now
    {world with registry := read.2, flights := world.flights ++ [(call,read.1)]}
  | .release index later, world => world.release index later

def run (manager : Manager) (registry : Registry) (events : List Event) : World := Runs.exec (apply manager) {registry} events

end World

def Left.Meets (row : Claim) : Left → Prop
  | .release source deviceKeys => row.sourceId = source ∧ (deviceKeys = [] ∨ row.deviceKey ∈ deviceKeys)
  | .forceRelease deviceKey => row.deviceKey = deviceKey

def Call.Allows (manager : Manager) (row : Claim) (call : Call) : Prop :=
  ¬Clustered row ∧ ∀ clientId, call = .unlockAll clientId "" → row.workerId = manager.localWorkerId

/-- No call has ended a claim of the cluster, and none for all claims of this Worker one of another. -/
def Spared (manager : Manager) (world : World) : Prop := ∀ entry ∈ world.ended, entry.1.Allows manager entry.2

def Call.Finds (manager : Manager) (row : Claim) : Call → Prop
  | .unlockDevice deviceId clientId source =>
    row.deviceKey = (manager.device deviceId).deviceKey ∧ row.ownerId = clientId ∧
      (source = "" ∨ row.sourceId = Manager.sourceId clientId source)
  | .forceUnlockDevice _ => False
  | .unlockAll clientId source =>
    (manager.localWorkerId = "" ∨ row.workerId = manager.localWorkerId) ∧ (clientId = "" ∨ row.ownerId = clientId) ∧
      (source = "" ∨ row.sourceId = source)

structure Like (first second : Claim) : Prop where
  deviceKey : second.deviceKey = first.deviceKey
  workerId : second.workerId = first.workerId
  sourceType : second.sourceType = first.sourceType
  sourceId : second.sourceId = first.sourceId

/-- The claim that `unlock_device` finds is none of the cluster's; all claims whose source is that of a claim which `unlock_all` finds may be
ended; and nobody else brings a claim that a call is about to release and may not. -/
def Careful (manager : Manager) (world : World) : Event → Prop
  | .read call now => ∀ row ∈ expire now world.registry.rows, row.status = .active → call.Finds manager row →
    match call with
    | .unlockAll _ _ => ∀ other ∈ expire now world.registry.rows, other.status = .active → other.sourceId = row.sourceId → call.Allows manager other
    | _ => call.Allows manager row
  | .other op => ∀ row ∈ (DeviceClaims.apply op world.registry).rows, row.status = .active →
    (∃ old ∈ world.registry.rows, old.status = .active ∧ Like old row) ∨
      ∀ flight ∈ world.flights, ∀ left ∈ flight.2, left.Meets row → flight.1.Allows manager row
  | .release _ _ => True

structure Inv (manager : Manager) (world : World) : Prop where
  valid : world.registry.Valid
  aimed : ∀ flight ∈ world.flights, ∀ left ∈ flight.2, ∀ row ∈ world.registry.rows, row.status = .active → left.Meets row →
    flight.1.Allows manager row
  spared : Spared manager world

variable {manager : Manager} {registry : Registry} {world : World}

theorem Like.meets {first second : Claim} (like : Like first second) {left : Left} (meets : left.Meets second) : left.Meets first := by
  cases left with
  | release source deviceKeys => exact ⟨like.sourceId.symm.trans meets.1,like.deviceKey ▸ meets.2⟩
  | forceRelease deviceKey => exact like.deviceKey.symm.trans meets

theorem Like.allows {first second : Claim} (like : Like first second) {call : Call} (allows : call.Allows manager first) :
    call.Allows manager second := by
  obtain ⟨alone,near⟩ := allows
  refine ⟨?_,fun clientId all => like.workerId.trans (near clientId all)⟩
  unfold Clustered
  rw [like.sourceType,like.sourceId]
  exact alone

theorem activeRow_some {rows : List Claim} {key : String} {claim : Claim} (found : activeRow rows key = some claim) :
    claim ∈ rows ∧ claim.deviceKey = key ∧ claim.status = .active := by
  unfold activeRow at found
  have chosen := Table.fetch_selects found
  exact ⟨Table.fetch_mem found,chosen⟩

theorem expired_valid (valid : registry.Valid) (now : Nat) : ({registry with rows := expire now registry.rows} : Registry).Valid :=
  (advances_expire registry now).valid valid

theorem taken_meets (valid : registry.Valid) {left : Left} {row : Claim} (member : row ∈ registry.rows) (takes : left.Takes registry.rows row) :
    row.status = .active ∧ left.Meets row := by
  cases left with
  | release source deviceKeys => exact ⟨takes.2.1,takes.1,takes.2.2⟩
  | forceRelease deviceKey =>
    have takes : ((activeRow registry.rows deviceKey).any fun current => row.id = current.id ∧ row.status = .active) = true := takes
    cases held : activeRow registry.rows deviceKey with
    | none =>
      rw [held] at takes
      exact nomatch takes
    | some current =>
      rw [held] at takes
      obtain ⟨same,active⟩ := of_decide_eq_true takes
      obtain ⟨there,keyed,_⟩ := activeRow_some held
      have equal : row = current := valid.leases.eq_of_id member there same
      exact ⟨active,equal ▸ keyed⟩

theorem left_rows {left : Left} {later : Nat} {row : Claim} (member : row ∈ (left.apply registry later).rows) (active : row.status = .active) :
    row ∈ registry.rows := by
  cases left with
  | release source deviceKeys => exact mem_of_release member active
  | forceRelease deviceKey =>
    have member : row ∈ (DeviceClaims.forceRelease registry deviceKey later).2.rows := member
    unfold DeviceClaims.forceRelease at member
    split at member
    · exact member
    · exact mem_of_closing (fun _ _ => by simp [closed]) member active

theorem left_valid (valid : registry.Valid) (left : Left) (later : Nat) : (left.apply registry later).Valid := by
  cases left with
  | release source deviceKeys => exact (release_advances registry source .released deviceKeys later).valid valid
  | forceRelease deviceKey => exact (forceRelease_advances registry deviceKey later).valid valid

theorem read_registry (manager : Manager) (registry : Registry) (now : Nat) (call : Call) :
    (call.read manager registry now).2 = {registry with rows := expire now registry.rows} := by
  cases call with
  | unlockDevice deviceId clientId source =>
    unfold Call.read
    dsimp only
    split
    · rfl
    · split_ifs
      · rfl
      · rfl
      · rfl
  | forceUnlockDevice deviceId =>
    unfold Call.read
    dsimp only
    split_ifs
    · rfl
    · rfl
  | unlockAll clientId source => rfl

theorem read_aimed (valid : registry.Valid) {call : Call} {now : Nat} {flights : List (Call × List Left)} {ended : List (Call × Claim)}
    (careful : Careful manager ⟨registry,flights,ended⟩ (.read call now)) {left : Left} (member : left ∈ (call.read manager registry now).1)
    {row : Claim} (there : row ∈ expire now registry.rows) (active : row.status = .active) (meets : left.Meets row) : call.Allows manager row := by
  have alone := (expired_valid valid now).leases
  cases call with
  | unlockDevice deviceId clientId source =>
    unfold Call.read at member
    dsimp only at member
    split at member
    · exact nomatch member
    · rename_i claim found
      obtain ⟨inside,keyed,live⟩ := activeRow_some found
      by_cases stranger : claim.ownerId ≠ clientId
      · rw [if_pos stranger] at member
        exact nomatch member
      · by_cases other : source ≠ "" ∧ claim.sourceId ≠ Manager.sourceId clientId source
        · rw [if_neg stranger,if_pos other] at member
          exact nomatch member
        · rw [if_neg stranger,if_neg other] at member
          cases List.mem_singleton.mp member
          have same : row = claim := alone.unique there inside ((List.mem_singleton.mp (meets.2.resolve_left nofun)).trans keyed.symm) active live
          subst same
          refine careful row there active ⟨keyed,not_not.mp stranger,?_⟩
          by_cases anonymous : source = ""
          · exact .inl anonymous
          · exact .inr (not_not.mp fun apart => other ⟨anonymous,apart⟩)
  | forceUnlockDevice deviceId =>
    unfold Call.read at member
    dsimp only at member
    by_cases clustered : (activeClaim registry (manager.device deviceId).deviceKey now).1.any Clustered
    · rw [if_pos clustered] at member
      exact nomatch member
    · rw [if_neg clustered] at member
      cases List.mem_singleton.mp member
      refine ⟨fun cluster => clustered ?_,fun _ => nofun⟩
      cases found : activeRow (expire now registry.rows) (manager.device deviceId).deviceKey with
      | none => exact absurd active (activeRow_none found there meets)
      | some claim =>
        obtain ⟨inside,keyed,live⟩ := activeRow_some found
        have same : row = claim := alone.unique there inside (meets.trans keyed.symm) active live
        show (activeRow (expire now registry.rows) (manager.device deviceId).deviceKey).any Clustered = true
        rw [found,← same]
        exact cluster
  | unlockAll clientId source =>
    obtain ⟨name,listed,rfl⟩ := List.mem_map.mp member
    obtain ⟨claim,read,rfl⟩ := List.mem_map.mp (mem_fromkeys.mp listed)
    have found : claim ∈ expire now registry.rows ∧ claim.status = .active ∧ (Call.unlockAll clientId source).Finds manager claim := by
      split_ifs at read with whole
      · obtain ⟨inside,live,near,own⟩ := Table.mem_select.mp read
        exact ⟨inside,live,near,own,.inl whole⟩
      · obtain ⟨read,named⟩ := Table.mem_select.mp read
        obtain ⟨inside,live,near,own⟩ := Table.mem_select.mp read
        exact ⟨inside,live,near,own,.inr named⟩
    exact careful claim found.1 found.2.1 found.2.2 row there active meets.1

theorem Inv.release (inv : Inv manager world) (index later : Nat) : Inv manager (world.release index later) := by
  unfold World.release
  split
  · rename_i call left rest found
    have member := List.mem_of_getElem? found
    refine ⟨left_valid inv.valid left later,fun flight inside left' listed row there active meets => ?_,fun entry inside => ?_⟩
    · have there := left_rows there active
      obtain old | new := List.mem_or_eq_of_mem_set inside
      · exact inv.aimed flight old left' listed row there active meets
      · subst new
        exact inv.aimed _ member left' (List.mem_cons_of_mem _ listed) row there active meets
    · obtain new | old := List.mem_append.mp inside
      · obtain ⟨row,taken,rfl⟩ := List.mem_map.mp new
        obtain ⟨there,takes⟩ := Table.mem_select.mp taken
        obtain ⟨active,meets⟩ := taken_meets inv.valid there takes
        exact inv.aimed _ member left List.mem_cons_self row there active meets
      · exact inv.spared entry old
  · exact inv

theorem Inv.apply (inv : Inv manager world) {event : Event} (careful : Careful manager world event) : Inv manager (world.apply manager event) := by
  cases event with
  | release index later => exact inv.release index later
  | other op =>
    refine ⟨(apply_advances op world.registry inv.valid.numbered).valid inv.valid,fun flight member left listed row there active meets => ?_,inv.spared⟩
    obtain ⟨old,before,live,like⟩ | fine := careful row there active
    · exact like.allows (inv.aimed flight member left listed old before live (like.meets meets))
    · exact fine flight member left listed meets
  | read call now =>
    unfold World.apply
    dsimp only
    rw [read_registry]
    refine ⟨expired_valid inv.valid now,fun flight member left listed row there active meets => ?_,inv.spared⟩
    obtain old | new := List.mem_append.mp member
    · exact inv.aimed flight old left listed row (mem_of_expire there active) active meets
    · cases List.mem_singleton.mp new
      exact read_aimed inv.valid careful listed there active meets

theorem careful_calls_spare (manager : Manager) (registry : Registry) (valid : registry.Valid) (events : List Event)
    (careful : Runs.Along (fun world event => World.apply manager event world) (Careful manager) {registry} events) :
    Spared manager (World.run manager registry events) :=
  (Runs.foldl_invariant (Inv manager) (fun _ _ inv careful => inv.apply careful) events
    ⟨valid,fun _ member => (List.not_mem_nil member).elim,fun _ member => (List.not_mem_nil member).elim⟩ careful).spared

def held (sourceType sourceId : String) : Registry :=
  DeviceClaims.run .empty [.acquire [⟨"ats-worker-controller:S1","ats-worker-controller","S1",1⟩] ⟨"user-1","ann",sourceType,sourceId,3600,true⟩ 0 0]

theorem freed_local_lock : Spared {} (World.run {} (held "local" "local:user-1") [.read (.forceUnlockDevice "S1") 1,.release 0 2]) :=
  careful_calls_spare {} (held "local" "local:user-1") (run_valid _) [.read (.forceUnlockDevice "S1") 1,.release 0 2]
    ⟨fun _ _ _ found => found.elim,trivial,trivial⟩

/-- The owner of a cluster job unlocks its device, and the claim of the job ends. -/
theorem unlock_ends_job : ¬Spared {} (World.run {} (held "cluster-job" "job:1") [.read (.unlockDevice "S1" "user-1" "") 1,.release 0 2]) := by
  intro spared
  have some_ : ∃ entry ∈ (World.run {} (held "cluster-job" "job:1") [.read (.unlockDevice "S1" "user-1" "") 1,.release 0 2]).ended,
      Clustered entry.2 = true := by decide +kernel
  obtain ⟨entry,member,clustered⟩ := some_
  exact (spared entry member).1 clustered

end GmsRemoteTest.UnlockCalls
