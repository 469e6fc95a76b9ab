import GmsRemoteTest.Lib.Leases
import GmsRemoteTest.Lib.Runs
import GmsRemoteTest.Foundation.DeviceClaims

/-! Every registry operation, under any clock readings, is an evolution of an
exclusive lease table. Exclusivity, growing generations and the finality of lost
fencing tokens follow for whole histories. -/
namespace GmsRemoteTest.DeviceClaims
open Text

def view : Leases.View Claim String Nat := ⟨(·.id),(·.deviceKey),(·.generation),fun row => row.status = .active⟩

def Registry.Numbered (registry : Registry) : Prop := ∀ row ∈ registry.rows, row.id < registry.uuid

structure Registry.Valid (registry : Registry) : Prop where
  leases : Leases.Valid view registry.rows
  numbered : registry.Numbered

inductive Op
  | acquire (devices : List DeviceRequest) (request : ClaimRequest) (now later : Nat)
  | renew (sourceId : String) (ttlSeconds : Int) (deviceKeys : List String) (now later : Nat)
  | transfer (oldSourceId newSourceId sourceType : String) (ttlSeconds : Int) (ownerId : String)
      (deviceKeys : List String) (now later : Nat)
  | release (sourceId : String) (status : ClaimStatus) (deviceKeys : List String) (now : Nat)
  | releaseOperationIfCurrent (deviceKey : String) (leaseId : Nat) (generation : Int) (sourceId : String) (now : Nat)
  | forceRelease (deviceKey : String) (now : Nat)
  | activeClaim (deviceKey : String) (now : Nat)
  | listActive (workerId ownerId : String) (now : Nat)
  | listBySource (sourceId : String) (now : Nat)

def apply : Op → Registry → Registry
  | .acquire devices request now later, registry => (acquire registry devices request now later).2
  | .renew sourceId ttl keys now later, registry => (renew registry sourceId ttl keys now later).2
  | .transfer old new sourceType ttl ownerId keys now later, registry =>
    (transfer registry old new sourceType ttl ownerId keys now later).2
  | .release sourceId status keys now, registry => (release registry sourceId status keys now).2
  | .releaseOperationIfCurrent key lease generation sourceId now, registry =>
    (releaseOperationIfCurrent registry key lease generation sourceId now).2
  | .forceRelease key now, registry => (forceRelease registry key now).2
  | .activeClaim key now, registry => (activeClaim registry key now).2
  | .listActive workerId ownerId now, registry => (listActive registry workerId ownerId now).2
  | .listBySource sourceId now, registry => (listBySource registry sourceId now).2

abbrev run (registry : Registry) (ops : List Op) : Registry := Runs.exec apply registry ops

def Amends (selects : Claim → Prop) (set : Claim → Claim) : Prop :=
  ∀ row, selects row → (set row).id = row.id ∧ (set row).deviceKey = row.deviceKey ∧
    (set row).generation = row.generation ∧ ((set row).status = .active → row.status = .active)

theorem Amends.kept {selects : Claim → Prop} [DecidablePred selects] {set : Claim → Claim} (amends : Amends selects set)
    (row : Claim) : Leases.Kept view row (if selects row then set row else row) := by
  split
  · rename_i chosen
    obtain ⟨id,key,generation,active⟩ := amends row chosen
    exact ⟨id,key,generation,active⟩
  · exact .refl row

theorem update_evolves {selects : Claim → Prop} [DecidablePred selects] {set : Claim → Claim}
    (amends : Amends selects set) (rows : List Claim) :
    Leases.Evolves view rows (Table.update selects set rows) :=
  .single (.amend rows _ fun row _ => amends.kept row)

theorem update_numbered {selects : Claim → Prop} [DecidablePred selects] {set : Claim → Claim}
    (amends : Amends selects set) {rows : List Claim} {uuid : Nat} (numbered : ∀ row ∈ rows, row.id < uuid) :
    ∀ row ∈ Table.update selects set rows, row.id < uuid := by
  intro row member
  obtain ⟨old,present,rfl⟩ := Table.mem_update.mp member
  split
  · rename_i chosen
    rw [(amends old chosen).1]
    exact numbered old present
  · exact numbered old present

theorem expire_amends (now : Nat) : Amends (fun row => row.status = .active ∧ row.expiresAt ≤ now)
    (fun row => {row with status := .expired, releasedAt := some now}) :=
  fun _ chosen => ⟨rfl,rfl,rfl,fun _ => chosen.1⟩

theorem extended_amends (selects : Claim → Prop) (now expires : Nat) :
    Amends selects (fun row => extended row now expires) :=
  fun _ _ => ⟨rfl,rfl,rfl,fun active => active⟩

theorem reassigned_amends (selects : Claim → Prop) (sourceId sourceType : String) (now expires : Nat) :
    Amends selects (fun row => reassigned row sourceId sourceType now expires) :=
  fun _ _ => ⟨rfl,rfl,rfl,fun active => active⟩

theorem closed_amends {selects : Claim → Prop} {status : ClaimStatus} (now : Nat)
    (final : status ≠ .active) : Amends selects (fun row => closed row status now) :=
  fun _ _ => ⟨rfl,rfl,rfl,fun active => absurd active final⟩

structure Advances (before after : Registry) : Prop where
  evolves : Leases.Evolves view before.rows after.rows
  numbered : before.Numbered → after.Numbered

theorem Advances.refl (registry : Registry) : Advances registry registry := ⟨.refl,fun numbered => numbered⟩

theorem Advances.trans {first second third : Registry} (left : Advances first second)
    (right : Advances second third) : Advances first third :=
  ⟨left.evolves.trans right.evolves,fun numbered => right.numbered (left.numbered numbered)⟩

theorem Advances.valid {before after : Registry} (advances : Advances before after) (valid : before.Valid) :
    after.Valid :=
  ⟨Leases.Evolves.valid advances.evolves valid.leases,advances.numbered valid.numbered⟩

theorem advances_update {selects : Claim → Prop} [DecidablePred selects] {set : Claim → Claim}
    (amends : Amends selects set) (registry : Registry) :
    Advances registry {registry with rows := Table.update selects set registry.rows} :=
  ⟨update_evolves amends registry.rows,fun numbered => update_numbered amends numbered⟩

theorem advances_expire (registry : Registry) (now : Nat) :
    Advances registry {registry with rows := expire now registry.rows} :=
  advances_update (expire_amends now) registry

theorem normalizeLoop_keys (seen : List String) (devices : List DeviceRequest) :
    ((normalizeLoop seen devices).map (·.deviceKey)).Nodup ∧
      ∀ device ∈ normalizeLoop seen devices, device.deviceKey ∉ seen := by
  induction devices generalizing seen with
  | nil => simp [normalizeLoop]
  | cons item items ih =>
    simp only [normalizeLoop]
    split
    · exact ih seen
    · rename_i accepted
      simp only [not_or] at accepted
      obtain ⟨distinct,absent⟩ := ih (strip item.deviceKey::seen)
      refine ⟨?_,?_⟩
      · simp only [List.map_cons,List.nodup_cons]
        refine ⟨?_,distinct⟩
        intro member
        obtain ⟨device,present,same⟩ := List.mem_map.mp member
        exact absent device present (by simp [same])
      · intro device member
        rcases List.mem_cons.mp member with rfl | later
        · exact accepted.2.2.2
        · exact fun old => absent device later (by simp [old])

theorem normalizeDevices_nodup (devices : List DeviceRequest) :
    ((normalizeDevices devices).map (·.deviceKey)).Nodup :=
  (normalizeLoop_keys [] devices).1

theorem le_maxGeneration {rows : List Claim} {row : Claim} (member : row ∈ rows) :
    row.generation ≤ maxGeneration rows row.deviceKey := by
  have listed : row.generation ∈ (Table.select (fun old => old.deviceKey = row.deviceKey) rows).map (·.generation) :=
    List.mem_map.mpr ⟨row,by simp [member],rfl⟩
  unfold maxGeneration
  cases found : ((Table.select (fun old => old.deviceKey = row.deviceKey) rows).map (·.generation)).max? with
  | none => rw [List.max?_eq_none_iff.mp found] at listed; simp at listed
  | some top => exact (List.max?_eq_some_iff.mp found).2 _ listed

theorem activeRow_none {rows : List Claim} {key : String} (vacant : activeRow rows key = none) {row : Claim}
    (member : row ∈ rows) (same : row.deviceKey = key) : row.status ≠ .active :=
  fun active => Table.fetch_none.mp vacant row member ⟨same,active⟩

def Vacant (rows : List Claim) (key : String) : Prop := ∀ row ∈ rows, row.deviceKey = key → row.status ≠ .active

section
variable (existing : String → Option Claim) (request : ClaimRequest) (now expires : Nat)

theorem grantDevice_advances (grant : Grant) (device : DeviceRequest) (numbered : grant.registry.Numbered)
    (vacant : existing device.deviceKey = none → Vacant grant.registry.rows device.deviceKey) :
    Advances grant.registry (grantDevice existing request now expires grant device).registry := by
  unfold grantDevice
  cases found : existing device.deviceKey with
  | some row => exact advances_update (extended_amends _ now expires) grant.registry
  | none =>
    refine ⟨.single (.issue _ _ ?_ ?_),?_⟩
    · intro old member same
      change old.deviceKey = device.deviceKey at same
      refine ⟨vacant found old member same,?_⟩
      have bound := le_maxGeneration member
      rw [same] at bound
      change old.generation < max _ _
      omega
    · intro old member
      exact Nat.ne_of_lt (numbered old member)
    · intro _ row member
      rcases List.mem_append.mp member with old | new
      · exact Nat.lt_succ_of_lt (numbered row old)
      · rw [List.mem_singleton.mp new]
        exact Nat.lt_succ_self _

theorem grantDevice_vacant (grant : Grant) (device : DeviceRequest) {key : String} (different : device.deviceKey ≠ key)
    (vacant : Vacant grant.registry.rows key) :
    Vacant (grantDevice existing request now expires grant device).registry.rows key := by
  unfold grantDevice
  cases existing device.deviceKey with
  | some row =>
    intro current member same
    obtain ⟨old,present,rfl⟩ := Table.mem_update.mp member
    split at same <;> rename_i chosen
    · simpa [chosen,extended] using vacant old present same
    · simpa [chosen] using vacant old present same
  | none =>
    intro current member same
    rcases List.mem_append.mp member with old | new
    · exact vacant current old same
    · rw [List.mem_singleton.mp new] at same
      exact absurd same different

theorem grant_advances (devices : List DeviceRequest) (distinct : (devices.map (·.deviceKey)).Nodup) (grant : Grant)
    (numbered : grant.registry.Numbered)
    (vacant : ∀ device ∈ devices, existing device.deviceKey = none → Vacant grant.registry.rows device.deviceKey) :
    Advances grant.registry (devices.foldl (grantDevice existing request now expires) grant).registry := by
  induction devices generalizing grant with
  | nil => exact .refl _
  | cons device devices ih =>
    simp only [List.map_cons,List.nodup_cons] at distinct
    have first := grantDevice_advances existing request now expires grant device numbered
      (vacant device (by simp))
    refine first.trans (ih distinct.2 _ (first.numbered numbered) ?_)
    intro next member absent
    apply grantDevice_vacant
    · intro same
      exact distinct.1 (List.mem_map.mpr ⟨next,member,same.symm⟩)
    · exact vacant next (by simp [member]) absent

end

section
variable (registry : Registry)

theorem acquire_advances (numbered : registry.Numbered) (devices : List DeviceRequest)
    (request : ClaimRequest) (now later : Nat) :
    Advances registry (acquire registry devices request now later).2 := by
  unfold acquire
  dsimp only
  split
  · exact .refl _
  split
  · exact .refl _
  split
  · exact .refl _
  · have expired := advances_expire registry now
    refine expired.trans (grant_advances _ request now _ _ (normalizeDevices_nodup devices) ⟨_,[]⟩
      (expired.numbered numbered) ?_)
    intro device _ vacant row member same
    exact activeRow_none vacant member same

theorem renew_advances (sourceId : String) (ttl : Int) (keys : List String) (now later : Nat) :
    Advances registry (renew registry sourceId ttl keys now later).2 :=
  (advances_expire registry now).trans (advances_update (extended_amends _ now _) _)

theorem transfer_advances (old new sourceType : String) (ttl : Int) (ownerId : String)
    (keys : List String) (now later : Nat) :
    Advances registry (transfer registry old new sourceType ttl ownerId keys now later).2 := by
  unfold transfer
  dsimp only
  split
  · exact .refl _
  split
  · exact .refl _
  split
  · exact .refl _
  · exact (advances_expire registry now).trans (advances_update (reassigned_amends _ _ _ now _) _)

theorem release_advances (sourceId : String) (status : ClaimStatus) (keys : List String)
    (now : Nat) : Advances registry (release registry sourceId status keys now).2 := by
  unfold release
  split
  · exact .refl _
  · rename_i final
    exact advances_update (closed_amends now final) registry

theorem releaseOperation_advances (key : String) (lease : Nat) (generation : Int)
    (sourceId : String) (now : Nat) :
    Advances registry (releaseOperationIfCurrent registry key lease generation sourceId now).2 := by
  unfold releaseOperationIfCurrent
  dsimp only
  split
  · exact .refl _
  · exact (advances_expire registry now).trans (advances_update (closed_amends now (by decide)) _)

theorem forceRelease_advances (key : String) (now : Nat) :
    Advances registry (forceRelease registry key now).2 := by
  unfold forceRelease
  split
  · exact .refl _
  · exact advances_update (closed_amends now (by decide)) registry

end

theorem apply_advances (op : Op) (registry : Registry) (numbered : registry.Numbered) :
    Advances registry (apply op registry) := by
  cases op with
  | acquire devices request now later => exact acquire_advances registry numbered devices request now later
  | renew sourceId ttl keys now later => exact renew_advances registry sourceId ttl keys now later
  | transfer old new sourceType ttl ownerId keys now later =>
    exact transfer_advances registry old new sourceType ttl ownerId keys now later
  | release sourceId status keys now => exact release_advances registry sourceId status keys now
  | releaseOperationIfCurrent key lease generation sourceId now =>
    exact releaseOperation_advances registry key lease generation sourceId now
  | forceRelease key now => exact forceRelease_advances registry key now
  | activeClaim key now => exact advances_expire registry now
  | listActive workerId ownerId now => exact advances_expire registry now
  | listBySource sourceId now => exact advances_expire registry now

theorem run_advances (registry : Registry) (numbered : registry.Numbered) (ops : List Op) :
    Advances registry (run registry ops) := by
  induction ops generalizing registry with
  | nil => exact .refl _
  | cons op ops ih =>
    have first := apply_advances op registry numbered
    exact first.trans (ih _ (first.numbered numbered))

theorem empty_valid : Registry.empty.Valid := ⟨.nil,by simp [Registry.Numbered,Registry.empty]⟩

theorem run_valid (ops : List Op) : (run .empty ops).Valid :=
  (run_advances _ empty_valid.numbered ops).valid empty_valid

/-- Whatever the history: one active row a key, generations growing in insertion
order, no row active again after it left, and no lost token matching again. -/
theorem registry_fences (ops : List Op) :
    let registry := run .empty ops
    (registry.rows.Pairwise fun first second => first.deviceKey = second.deviceKey →
      ¬ (first.status = .active ∧ second.status = .active)) ∧
    (registry.rows.Pairwise fun first second => first.deviceKey = second.deviceKey →
      first.generation < second.generation) ∧
    (∀ more, ∀ row ∈ registry.rows, row.status ≠ .active →
      ∀ current ∈ (run registry more).rows, current.id = row.id → current.status ≠ .active) ∧
    (∀ more further key id generation, Leases.Matches view registry.rows key id generation →
      ¬ Leases.Matches view (run registry more).rows key id generation →
      ¬ Leases.Matches view (run (run registry more) further).rows key id generation) := by
  intro registry
  have valid : registry.Valid := run_valid ops
  refine ⟨valid.leases.exclusive,valid.leases.increasing,?_,?_⟩
  · intro more row member inactive current present same
    exact Leases.Evolves.retired (run_advances registry valid.numbered more).evolves valid.leases
      member inactive present same
  · intro more further key id generation matched lost
    have middle := run_advances registry valid.numbered more
    exact Leases.Evolves.token_lost middle.evolves
      (run_advances _ (middle.numbered valid.numbered) further).evolves valid.leases matched lost

end GmsRemoteTest.DeviceClaims
