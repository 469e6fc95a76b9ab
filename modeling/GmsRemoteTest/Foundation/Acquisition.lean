import GmsRemoteTest.Foundation.ClaimFencing

/-! The whole effect of an acquisition on the claim table: rows of the requested keys
are extended, missing ones are issued, all with one expiry, or nothing changes. -/
namespace GmsRemoteTest.DeviceClaims
open Text

/-- The keys an acquisition asks for once blank and repeated ones are dropped. -/
def requestedKeys (devices : List DeviceRequest) : List String := (normalizeDevices devices).map (·.deviceKey)

def DeviceRequest.named (device : DeviceRequest) : Prop :=
  strip device.deviceKey ≠ "" ∧ strip device.workerId ≠ "" ∧ strip device.serial ≠ ""

instance (device : DeviceRequest) : Decidable device.named :=
  inferInstanceAs (Decidable (strip device.deviceKey ≠ "" ∧ strip device.workerId ≠ "" ∧ strip device.serial ≠ ""))

theorem mem_normalizeLoop {seen : List String} {devices : List DeviceRequest} {key : String} :
    key ∈ (normalizeLoop seen devices).map (·.deviceKey) ↔
      key ∉ seen ∧ ∃ device ∈ devices, device.named ∧ strip device.deviceKey = key := by
  induction devices generalizing seen with
  | nil => simp [normalizeLoop]
  | cons item items ih =>
    simp only [normalizeLoop,List.mem_cons,exists_eq_or_imp]
    split
    · rename_i dropped
      rw [ih]
      constructor
      · rintro ⟨new,found⟩
        exact ⟨new,.inr found⟩
      · rintro ⟨new,⟨named,same⟩ | found⟩
        · rcases dropped with blank | blank | blank | old
          · exact absurd blank named.1
          · exact absurd blank named.2.1
          · exact absurd blank named.2.2
          · rw [same] at old
            exact absurd old new
        · exact ⟨new,found⟩
    · rename_i accepted
      simp only [not_or] at accepted
      simp only [List.map_cons,List.mem_cons,ih]
      constructor
      · rintro (rfl | ⟨new,found⟩)
        · exact ⟨accepted.2.2.2,.inl ⟨⟨accepted.1,accepted.2.1,accepted.2.2.1⟩,rfl⟩⟩
        · exact ⟨fun old => new (.inr old),.inr found⟩
      · rintro ⟨new,⟨named,same⟩ | found⟩
        · exact .inl same.symm
        · by_cases own : key = strip item.deviceKey
          · exact .inl own
          · exact .inr ⟨fun old => old.elim own new,found⟩

theorem mem_requestedKeys {devices : List DeviceRequest} {key : String} :
    key ∈ requestedKeys devices ↔ ∃ device ∈ devices, device.named ∧ strip device.deviceKey = key := by
  unfold requestedKeys normalizeDevices
  rw [mem_normalizeLoop]
  simp

def touched (keys : List String) (now expires : Nat) (row : Claim) : Claim :=
  if row.status = .active ∧ row.deviceKey ∈ keys then extended row now expires else row

section
variable (keys : List String) (now expires : Nat) (row : Claim)

@[simp] theorem touched_id :
    (touched keys now expires row).id = row.id := by
  unfold touched
  split <;> rfl

@[simp] theorem touched_status :
    (touched keys now expires row).status = row.status := by
  unfold touched
  split <;> rfl

@[simp] theorem touched_deviceKey :
    (touched keys now expires row).deviceKey = row.deviceKey := by
  unfold touched
  split <;> rfl

end

structure Issued (request : ClaimRequest) (now expires : Nat) (row : Claim) : Prop where
  active : row.status = .active
  sourceId : row.sourceId = strip request.sourceId
  ownerId : row.ownerId = strip request.ownerId
  acquiredAt : row.acquiredAt = now
  expiresAt : row.expiresAt = expires

/-- The state of the grant loop after it went through `keys`. -/
structure Granted (rows : List Claim) (request : ClaimRequest) (now expires uuid : Nat) (keys : List String)
    (news : List Claim) (grant : Grant) : Prop where
  table : grant.registry.rows = rows.map (touched keys now expires) ++ news
  supply : uuid ≤ grant.registry.uuid
  issued : ∀ row ∈ news, Issued request now expires row ∧ row.deviceKey ∈ keys ∧ Vacant rows row.deviceKey ∧
    uuid ≤ row.id
  complete : ∀ key ∈ keys, Vacant rows key → ∃ row ∈ news, row.deviceKey = key
  records : ∀ record, record ∈ grant.records ↔ record ∈ news ∨
    ∃ row ∈ rows, row.status = .active ∧ row.deviceKey ∈ keys ∧ record = extended row now expires

theorem touched_more {rows : List Claim} (keyed : Leases.Keyed view rows) {found : Claim} {key : String}
    (present : found ∈ rows) (active : found.status = .active) (named : found.deviceKey = key) (keys : List String)
    (now expires : Nat) :
    Table.update (fun old => old.id = found.id ∧ old.status = .active) (fun old => extended old now expires)
      (rows.map (touched keys now expires)) = rows.map (touched (keys++[key]) now expires) := by
  unfold Table.update
  rw [List.map_map]
  apply List.map_congr_left
  intro row member
  simp only [Function.comp,touched_id,touched_status]
  by_cases same : row.id = found.id
  · have equal : row = found := keyed.eq_of_id member present same
    subst equal
    simp only [active,and_true,if_true,touched,named,List.mem_append,List.mem_singleton,or_true,true_and]
    split <;> rfl
  · have other : row.status = .active → row.deviceKey ≠ key := by
      intro alive own
      apply same
      rw [keyed.unique member present (own.trans named.symm) alive active]
    simp only [same,false_and,if_false,touched,List.mem_append,List.mem_singleton]
    by_cases alive : row.status = .active
    · simp only [alive,true_and,other alive,or_false]
    · simp only [alive,false_and]

section
variable {rows : List Claim} {request : ClaimRequest} {now expires uuid : Nat} {keys : List String} {news : List Claim}
  {grant : Grant}

section
variable (granted : Granted rows request now expires uuid keys news grant)
include granted

theorem Granted.extend (keyed : Leases.Keyed view rows) (numbered : ∀ row ∈ rows, row.id < uuid) {row : Claim} {key : String}
    (present : row ∈ rows) (active : row.status = .active) (named : row.deviceKey = key) :
    Granted rows request now expires uuid (keys++[key]) news
      ⟨⟨Table.update (fun old => old.id = row.id ∧ old.status = .active) (fun old => extended old now expires)
        grant.registry.rows,grant.registry.uuid⟩,grant.records++[extended row now expires]⟩ := by
  refine ⟨?_,granted.supply,?_,?_,?_⟩
  · change Table.update _ _ grant.registry.rows = _
    rw [granted.table,Table.update,List.map_append]
    congr 1
    · exact touched_more keyed present active named keys now expires
    · conv_rhs => rw [← List.map_id news]
      apply List.map_congr_left
      intro new member
      have fresh := (granted.issued new member).2.2.2
      have old := numbered row present
      rw [if_neg fun both => by omega]
      rfl
  · intro new member
    obtain ⟨issued,inside,vacant,fresh⟩ := granted.issued new member
    exact ⟨issued,List.mem_append_left _ inside,vacant,fresh⟩
  · intro other member vacant
    rcases List.mem_append.mp member with old | last
    · exact granted.complete other old vacant
    · rw [List.mem_singleton.mp last] at vacant
      exact absurd active (vacant row present named)
  · intro record
    rw [List.mem_append,granted.records,List.mem_singleton]
    constructor
    · rintro ((new | ⟨old,there,alive,inside,rfl⟩) | rfl)
      · exact .inl new
      · exact .inr ⟨old,there,alive,List.mem_append_left _ inside,rfl⟩
      · exact .inr ⟨row,present,active,by simp [named],rfl⟩
    · rintro (new | ⟨old,there,alive,inside,rfl⟩)
      · exact .inl (.inl new)
      · rcases List.mem_append.mp inside with before | last
        · exact .inl (.inr ⟨old,there,alive,before,rfl⟩)
        · have same := List.mem_singleton.mp last
          rw [keyed.unique there present (same.trans named.symm) alive active]
          exact .inr rfl

theorem Granted.issue {row : Claim} {key : String}
    (vacant : Vacant rows key) (issued : Issued request now expires row) (named : row.deviceKey = key)
    (drawn : row.id = grant.registry.uuid) :
    Granted rows request now expires uuid (keys++[key]) (news++[row])
      ⟨⟨grant.registry.rows++[row],grant.registry.uuid+1⟩,grant.records++[row]⟩ := by
  have untouched : rows.map (touched (keys++[key]) now expires) = rows.map (touched keys now expires) := by
    apply List.map_congr_left
    intro old member
    unfold touched
    by_cases alive : old.status = .active
    · have other : old.deviceKey ≠ key := fun same => vacant old member same alive
      simp only [alive,true_and,List.mem_append,List.mem_singleton,other,or_false]
    · simp only [alive,false_and]
  refine ⟨?_,Nat.le_succ_of_le granted.supply,?_,?_,?_⟩
  · change grant.registry.rows ++ [row] = _
    rw [granted.table,untouched,List.append_assoc]
  · intro new member
    rcases List.mem_append.mp member with old | last
    · obtain ⟨before,inside,free,fresh⟩ := granted.issued new old
      exact ⟨before,List.mem_append_left _ inside,free,fresh⟩
    · rw [List.mem_singleton.mp last,named,drawn]
      exact ⟨issued,by simp,vacant,granted.supply⟩
  · intro other member free
    rcases List.mem_append.mp member with old | last
    · obtain ⟨new,inside,own⟩ := granted.complete other old free
      exact ⟨new,List.mem_append_left _ inside,own⟩
    · rw [List.mem_singleton.mp last]
      exact ⟨row,by simp,named⟩
  · intro record
    rw [List.mem_append,granted.records,List.mem_append,List.mem_singleton]
    constructor
    · rintro ((new | ⟨old,there,alive,inside,rfl⟩) | last)
      · exact .inl (.inl new)
      · exact .inr ⟨old,there,alive,List.mem_append_left _ inside,rfl⟩
      · exact .inl (.inr last)
    · rintro ((new | last) | ⟨old,there,alive,inside,rfl⟩)
      · exact .inl (.inl new)
      · exact .inr last
      · rcases List.mem_append.mp inside with before | own
        · exact .inl (.inr ⟨old,there,alive,before,rfl⟩)
        · exact absurd alive (vacant old there (List.mem_singleton.mp own))

theorem Granted.step (keyed : Leases.Keyed view rows) (numbered : ∀ row ∈ rows, row.id < uuid) (device : DeviceRequest) :
    ∃ more, Granted rows request now expires uuid (keys++[device.deviceKey]) more
      (grantDevice (activeRow rows) request now expires grant device) := by
  unfold grantDevice
  cases found : activeRow rows device.deviceKey with
  | some row =>
    have selected := Table.fetch_selects found
    exact ⟨news,granted.extend keyed numbered (Table.fetch_mem found) selected.2 selected.1⟩
  | none =>
    have vacant : Vacant rows device.deviceKey := fun row member same => activeRow_none found member same
    exact ⟨_,granted.issue vacant ⟨rfl,rfl,rfl,rfl,rfl⟩ rfl rfl⟩

end

theorem Granted.loop (keyed : Leases.Keyed view rows) (numbered : ∀ row ∈ rows, row.id < uuid)
    (devices : List DeviceRequest) (granted : Granted rows request now expires uuid keys news grant) :
    ∃ more, Granted rows request now expires uuid (keys++devices.map (·.deviceKey)) more
      (devices.foldl (grantDevice (activeRow rows) request now expires) grant) := by
  induction devices generalizing keys news grant with
  | nil =>
    rw [List.map_nil,List.append_nil]
    exact ⟨news,granted⟩
  | cons device devices ih =>
    obtain ⟨more,next⟩ := granted.step keyed numbered device
    obtain ⟨all,done⟩ := ih next
    rw [List.append_assoc] at done
    exact ⟨all,done⟩

end

theorem conflicts_ne_nil {rows : List Claim} (keyed : Leases.Keyed view rows) {request : ClaimRequest} {devices : List DeviceRequest} :
    conflicts rows request (normalizeDevices devices) ≠ [] ↔
      ∃ row ∈ rows, row.status = .active ∧ row.deviceKey ∈ requestedKeys devices ∧ conflicting request row = true := by
  constructor
  · intro clashes
    obtain ⟨row,listed⟩ := List.exists_mem_of_ne_nil _ clashes
    obtain ⟨device,present,picked⟩ := List.mem_filterMap.mp listed
    obtain ⟨fetched,clash⟩ := Option.filter_eq_some_iff.mp picked
    have selected := Table.fetch_selects fetched
    exact ⟨row,Table.fetch_mem fetched,selected.2,List.mem_map.mpr ⟨device,present,selected.1.symm⟩,clash⟩
  · rintro ⟨row,member,active,asked,clash⟩
    obtain ⟨device,present,named⟩ := List.mem_map.mp asked
    obtain ⟨found,fetched⟩ := Table.fetch_isSome (fun row : Claim => row.deviceKey = device.deviceKey ∧ row.status = .active)
      member ⟨named.symm,active⟩
    have selected := Table.fetch_selects fetched
    have equal : row = found :=
      keyed.unique member (Table.fetch_mem fetched) (named.symm.trans selected.1.symm) active selected.2
    exact List.ne_nil_of_mem (List.mem_filterMap.mpr ⟨device,present,Option.filter_eq_some_iff.mpr ⟨equal ▸ fetched,clash⟩⟩)

theorem conflicting_iff {request : ClaimRequest} {row : Claim} : conflicting request row = true ↔
    row.ownerId ≠ strip request.ownerId ∨ row.sourceId ≠ strip request.sourceId ∨ request.allowExistingSource = false := by
  simp [conflicting,or_assoc]

theorem conflicts_nil {rows : List Claim} (keyed : Leases.Keyed view rows) {request : ClaimRequest}
    {devices : List DeviceRequest} (free : conflicts rows request (normalizeDevices devices) = []) {row : Claim}
    (member : row ∈ rows) (active : row.status = .active) (asked : row.deviceKey ∈ requestedKeys devices) :
    row.sourceId = strip request.sourceId ∧ row.ownerId = strip request.ownerId := by
  have calm : ¬conflicting request row = true := fun clash =>
    (conflicts_ne_nil keyed).mpr ⟨row,member,active,asked,clash⟩ free
  rw [conflicting_iff] at calm
  simp only [not_or,not_not] at calm
  exact ⟨calm.2.1,calm.1⟩

inductive Acquired (registry : Registry) (devices : List DeviceRequest) (request : ClaimRequest) (now later : Nat) :
    Except ClaimError Acquisition × Registry → Prop
  | refused (error : ClaimError) : Acquired registry devices request now later (.error error,registry)
  | conflict (held : List Claim) (clash : conflicts (expire now registry.rows) request (normalizeDevices devices) ≠ []) :
      Acquired registry devices request now later (.ok ⟨false,held⟩,registry)
  | granted (records news : List Claim) (after : Registry)
      (free : conflicts (expire now registry.rows) request (normalizeDevices devices) = [])
      (grant : Granted (expire now registry.rows) request now (expiresAt later request.ttlSeconds) registry.uuid
        (requestedKeys devices) news ⟨after,records⟩) :
      Acquired registry devices request now later (.ok ⟨true,records⟩,after)

theorem expire_valid {registry : Registry} (valid : registry.Valid) (now : Nat) :
    Leases.Valid view (expire now registry.rows) ∧ ∀ row ∈ expire now registry.rows, row.id < registry.uuid := by
  have expired := (advances_expire registry now).valid valid
  exact ⟨expired.leases,expired.numbered⟩

/-- What the constraints of the claim table say; no uuid is drawn twice. -/
structure Registry.Keyed (registry : Registry) : Prop where
  leases : Leases.Keyed view registry.rows
  numbered : registry.Numbered

theorem Registry.Valid.keyed {registry : Registry} (valid : registry.Valid) : registry.Keyed := ⟨valid.leases.keyed,valid.numbered⟩

theorem Registry.Keyed.expire {registry : Registry} (keyed : registry.Keyed) (now : Nat) :
    Leases.Keyed view (DeviceClaims.expire now registry.rows) ∧ ∀ row ∈ DeviceClaims.expire now registry.rows, row.id < registry.uuid :=
  ⟨keyed.leases.amend fun row _ => (expire_amends now).kept row,(advances_expire registry now).numbered keyed.numbered⟩

theorem acquire_acquired (registry : Registry) (keyed : registry.Keyed) (devices : List DeviceRequest)
    (request : ClaimRequest) (now later : Nat) :
    Acquired registry devices request now later (acquire registry devices request now later) := by
  unfold acquire
  dsimp only
  split
  · exact .refused _
  split
  · exact .refused _
  split
  · rename_i clash
    exact .conflict _ clash
  · rename_i free
    rw [not_not] at free
    obtain ⟨leases,numbered⟩ := keyed.expire now
    have start : Granted (expire now registry.rows) request now (expiresAt later request.ttlSeconds) registry.uuid [] []
        ⟨⟨expire now registry.rows,registry.uuid⟩,[]⟩ := by
      refine ⟨?_,Nat.le_refl _,?_,?_,?_⟩
      · have idle : touched [] now (expiresAt later request.ttlSeconds) = id := by
          funext row
          simp [touched]
        rw [idle,List.map_id,List.append_nil]
      · intro row none
        cases none
      · intro key none
        cases none
      · intro record
        simp
    obtain ⟨news,granted⟩ := start.loop leases numbered (normalizeDevices devices)
    rw [List.nil_append] at granted
    exact .granted _ news _ free granted

/-- At `now` the claim is on for another owner or source, or for any where the caller takes no claim of its own. -/
def Contested (request : ClaimRequest) (now : Nat) (row : Claim) : Prop :=
  row.status = .active ∧ now < row.expiresAt ∧
    (row.ownerId ≠ strip request.ownerId ∨ row.sourceId ≠ strip request.sourceId ∨ request.allowExistingSource = false)

/-- Every key has one active claim, which is the caller's and keeps the row it had; rows of other keys are as the expiry leaves them. -/
structure Secured (registry : Registry) (keys : List String) (request : ClaimRequest) (now later : Nat) (after : Registry) : Prop where
  held : ∀ key ∈ keys, ∃ row, Table.select (fun row => row.deviceKey = key ∧ row.status = .active) after.rows = [row] ∧
    row.ownerId = strip request.ownerId ∧ row.sourceId = strip request.sourceId ∧
    row.expiresAt = later + (max 30 request.ttlSeconds).toNat
  kept : ∀ row ∈ registry.rows, row.deviceKey ∈ keys → row.status = .active → now < row.expiresAt →
    extended row now (expiresAt later request.ttlSeconds) ∈ after.rows
  others : Table.select (·.deviceKey ∉ keys) after.rows =
    (Table.select (·.deviceKey ∉ keys) registry.rows).map fun row =>
      if row.status = .active ∧ row.expiresAt ≤ now then {row with status := .expired, releasedAt := some now} else row

section
variable {registry : Registry} {devices : List DeviceRequest} {request : ClaimRequest} {now later : Nat}

theorem expire_active {rows : List Claim} {row : Claim} :
    row ∈ expire now rows ∧ row.status = .active ↔ row ∈ rows ∧ row.status = .active ∧ now < row.expiresAt := by
  unfold expire
  rw [Table.mem_update]
  constructor
  · rintro ⟨⟨old,member,same⟩,active⟩
    by_cases lapsed : old.status = .active ∧ old.expiresAt ≤ now
    · rw [if_pos lapsed] at same
      rw [← same] at active
      cases active
    · rw [if_neg lapsed] at same
      subst same
      exact ⟨member,active,Nat.lt_of_not_le fun past => lapsed ⟨active,past⟩⟩
  · rintro ⟨member,active,alive⟩
    exact ⟨⟨row,member,if_neg fun lapsed => Nat.not_le_of_lt alive lapsed.2⟩,active⟩

theorem contested_iff (keyed : registry.Keyed) :
    conflicts (expire now registry.rows) request (normalizeDevices devices) ≠ [] ↔
      ∃ row ∈ registry.rows, row.deviceKey ∈ requestedKeys devices ∧ Contested request now row := by
  rw [conflicts_ne_nil (keyed.expire now).1]
  constructor
  · rintro ⟨row,member,active,asked,clash⟩
    obtain ⟨held,_,alive⟩ := expire_active.mp ⟨member,active⟩
    exact ⟨row,held,asked,active,alive,conflicting_iff.mp clash⟩
  · rintro ⟨row,held,asked,active,alive,clash⟩
    exact ⟨row,(expire_active.mpr ⟨held,active,alive⟩).1,active,asked,conflicting_iff.mpr clash⟩

theorem select_active {rows : List Claim} (keyed : Leases.Keyed view rows) {row : Claim} (member : row ∈ rows)
    (active : row.status = .active) :
    Table.select (fun other => other.deviceKey = row.deviceKey ∧ other.status = .active) rows = [row] := by
  have chosen := fun other => @Table.mem_select _ (fun other => other.deviceKey = row.deviceKey ∧ other.status = .active) _ rows other
  have apart : (Table.select (fun other => other.deviceKey = row.deviceKey ∧ other.status = .active) rows).Pairwise
      fun first second => view.id first ≠ view.id second := keyed.identified.sublist List.filter_sublist
  have own : row ∈ Table.select (fun other => other.deviceKey = row.deviceKey ∧ other.status = .active) rows :=
    (chosen row).mpr ⟨member,rfl,active⟩
  have single : ∀ other ∈ Table.select (fun other => other.deviceKey = row.deviceKey ∧ other.status = .active) rows, other = row := by
    intro other listed
    obtain ⟨there,same,alive⟩ := (chosen other).mp listed
    exact keyed.unique there member same alive active
  generalize Table.select (fun other => other.deviceKey = row.deviceKey ∧ other.status = .active) rows = listed at apart own single
  cases listed with
  | nil => cases own
  | cons first rest =>
    cases rest with
    | nil => rw [single first (List.mem_cons_self ..)]
    | cons second rest =>
      have same : first = second := (single first (by simp)).trans (single second (by simp)).symm
      exact absurd (same ▸ rfl) ((List.pairwise_cons.mp apart).1 second (List.mem_cons_self ..))

theorem Granted.secured (keyed : registry.Keyed) {records news : List Claim} {after : Registry} (left : Leases.Keyed view after.rows)
    (free : conflicts (expire now registry.rows) request (normalizeDevices devices) = [])
    (grant : Granted (expire now registry.rows) request now (expiresAt later request.ttlSeconds) registry.uuid
      (requestedKeys devices) news ⟨after,records⟩) : Secured registry (requestedKeys devices) request now later after := by
  have table : after.rows = (expire now registry.rows).map (touched (requestedKeys devices) now (expiresAt later request.ttlSeconds)) ++ news :=
    grant.table
  have touches : ∀ row ∈ expire now registry.rows, row.status = .active → row.deviceKey ∈ requestedKeys devices →
      extended row now (expiresAt later request.ttlSeconds) ∈ after.rows := by
    intro row member active asked
    rw [table]
    exact List.mem_append_left _ (List.mem_map.mpr ⟨row,member,if_pos ⟨active,asked⟩⟩)
  constructor
  · intro key asked
    by_cases vacant : Vacant (expire now registry.rows) key
    · obtain ⟨row,new,rfl⟩ := grant.complete key asked vacant
      have issued := (grant.issued row new).1
      exact ⟨row,select_active left (table ▸ List.mem_append_right _ new) issued.active,issued.ownerId,issued.sourceId,issued.expiresAt⟩
    · simp only [Vacant,not_forall,not_not] at vacant
      obtain ⟨row,member,rfl,active⟩ := vacant
      obtain ⟨sourceId,ownerId⟩ := conflicts_nil (keyed.expire now).1 free member active asked
      exact ⟨extended row now (expiresAt later request.ttlSeconds),select_active left (touches row member active asked) active,
        ownerId,sourceId,rfl⟩
  · intro row member asked active alive
    exact touches row (expire_active.mpr ⟨member,active,alive⟩).1 active asked
  · have issued : Table.select (·.deviceKey ∉ requestedKeys devices) news = [] :=
      Table.select_eq_nil.mpr fun row new outside => outside (grant.issued row new).2.1
    have untouched : ∀ row : Claim, row.deviceKey ∉ requestedKeys devices →
        touched (requestedKeys devices) now (expiresAt later request.ttlSeconds) row = row := fun row outside =>
      if_neg fun inside => outside inside.2
    rw [table,Table.select,List.filter_append]
    change Table.select _ _ ++ Table.select _ news = _
    rw [issued,List.append_nil]
    rw [Table.select_map (fun row _ => by rw [touched_deviceKey]) (fun row _ outside => untouched row outside),List.map_id']
    exact Table.select_map (fun row _ => by split <;> rfl) fun row _ _ => rfl

theorem requestedKeys_nil : requestedKeys devices = [] ↔ normalizeDevices devices = [] := List.map_eq_nil_iff

/-- A call without a device, an owner or a source raises. Any other returns `False` exactly where the claim of a requested key is
contested, and takes every requested key where none is; nothing changes unless it does. -/
theorem acquire_contract (keyed : registry.Keyed) (devices : List DeviceRequest) (request : ClaimRequest) (now later : Nat) :
    ((∃ error, (acquire registry devices request now later).1 = .error error) ↔
      requestedKeys devices = [] ∨ strip request.ownerId = "" ∨ strip request.sourceId = "") ∧
    ((∃ held, (acquire registry devices request now later).1 = .ok ⟨false,held⟩) ↔
      strip request.ownerId ≠ "" ∧ strip request.sourceId ≠ "" ∧
        ∃ row ∈ registry.rows, row.deviceKey ∈ requestedKeys devices ∧ Contested request now row) ∧
    ((¬∃ records, (acquire registry devices request now later).1 = .ok ⟨true,records⟩) →
      (acquire registry devices request now later).2 = registry) ∧
    ((∃ records, (acquire registry devices request now later).1 = .ok ⟨true,records⟩) →
      Secured registry (requestedKeys devices) request now later (acquire registry devices request now later).2) := by
  have contested : conflicts (expire now registry.rows) request (normalizeDevices devices) ≠ [] ↔
      ∃ row ∈ registry.rows, row.deviceKey ∈ requestedKeys devices ∧ Contested request now row := contested_iff keyed
  by_cases named : requestedKeys devices = [] ∨ strip request.ownerId = "" ∨ strip request.sourceId = ""
  · have raised : ∃ error, acquire registry devices request now later = (.error error,registry) := by
      unfold acquire
      rw [requestedKeys_nil] at named
      rcases named with none | blank
      · exact ⟨_,if_pos none⟩
      · by_cases none : normalizeDevices devices = []
        · exact ⟨_,if_pos none⟩
        · exact ⟨_,(if_neg none).trans (if_pos blank)⟩
    obtain ⟨error,raised⟩ := raised
    rw [raised]
    refine ⟨⟨fun _ => named,fun _ => ⟨error,rfl⟩⟩,⟨fun ⟨_,refused⟩ => (nomatch refused),?_⟩,fun _ => rfl,fun ⟨_,taken⟩ => (nomatch taken)⟩
    rintro ⟨owner,source,row,_,asked,_⟩
    rcases named with none | none | none
    · rw [none] at asked
      cases asked
    · exact absurd none owner
    · exact absurd none source
  · have proceeds := named
    simp only [not_or] at proceeds
    obtain ⟨devicesNamed,owner,source⟩ := proceeds
    by_cases clash : conflicts (expire now registry.rows) request (normalizeDevices devices) ≠ []
    · have refused : acquire registry devices request now later =
          (.ok ⟨false,conflicts (expire now registry.rows) request (normalizeDevices devices)⟩,registry) := by
        unfold acquire
        rw [if_neg (requestedKeys_nil.not.mp devicesNamed),if_neg (not_or.mpr ⟨owner,source⟩),if_pos clash]
      rw [refused]
      exact ⟨⟨fun ⟨_,raised⟩ => (nomatch raised),fun blank => absurd blank named⟩,
        ⟨fun _ => ⟨owner,source,contested.mp clash⟩,fun _ => ⟨_,rfl⟩⟩,fun _ => rfl,fun ⟨_,taken⟩ => (nomatch taken)⟩
    · have free := not_not.mp clash
      have taken : ∃ records after, acquire registry devices request now later = (.ok ⟨true,records⟩,after) := by
        unfold acquire
        rw [if_neg (requestedKeys_nil.not.mp devicesNamed),if_neg (not_or.mpr ⟨owner,source⟩),if_neg clash]
        exact ⟨_,_,rfl⟩
      obtain ⟨records,after,taken⟩ := taken
      have acquired := acquire_acquired registry keyed devices request now later
      have left := (acquire_advances registry keyed.numbered devices request now later).evolves.keyed keyed.leases
      rw [taken] at acquired left ⊢
      refine ⟨⟨fun ⟨_,raised⟩ => (nomatch raised),fun blank => absurd blank named⟩,
        ⟨fun ⟨_,refused⟩ => (nomatch refused),fun ⟨_,_,held⟩ => absurd (contested.mpr held) clash⟩,
        fun fails => absurd ⟨records,rfl⟩ fails,fun _ => ?_⟩
      cases acquired with
      | granted _ news _ _ grant => exact grant.secured keyed left free

end

def boardTaken : Registry :=
  run .empty [.acquire [⟨"worker:board","worker","board",1⟩] ⟨"alice","Alice","run","run:1",60,true⟩ 100 100]

theorem board_refused_then_taken :
    (∃ held, (acquire boardTaken [⟨"worker:board","worker","board",1⟩] ⟨"bob","Bob","run","run:2",10,true⟩ 159 159).1 = .ok ⟨false,held⟩) ∧
    Secured boardTaken ["worker:board"] ⟨"bob","Bob","run","run:2",10,true⟩ 160 160
      (acquire boardTaken [⟨"worker:board","worker","board",1⟩] ⟨"bob","Bob","run","run:2",10,true⟩ 160 160).2 := by
  have keyed : boardTaken.Keyed := (run_valid _).keyed
  have keys : requestedKeys [⟨"worker:board","worker","board",1⟩] = ["worker:board"] := by decide +kernel
  have refused := (acquire_contract keyed [⟨"worker:board","worker","board",1⟩] ⟨"bob","Bob","run","run:2",10,true⟩ 159 159).2.1
  have taken := (acquire_contract keyed [⟨"worker:board","worker","board",1⟩] ⟨"bob","Bob","run","run:2",10,true⟩ 160 160).2.2.2
  constructor
  · refine refused.mpr ⟨by decide +kernel,by decide +kernel,
      ⟨0,"worker:board","worker","board","alice","Alice","run","run:1",.active,1,100,100,160,none⟩,by decide +kernel,
      by decide +kernel,rfl,by decide,.inl (by decide +kernel)⟩
  · have granted : (acquire boardTaken [⟨"worker:board","worker","board",1⟩] ⟨"bob","Bob","run","run:2",10,true⟩ 160 160).1 =
        .ok ⟨true,[⟨1,"worker:board","worker","board","bob","Bob","run","run:2",.active,2,160,160,190,none⟩]⟩ := by decide +kernel
    exact keys ▸ taken ⟨_,granted⟩

end GmsRemoteTest.DeviceClaims
