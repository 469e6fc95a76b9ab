import GmsRemoteTest.Lib.Bonds
import GmsRemoteTest.Foundation.Acquisition

/-! Acquisitions that take several keys for one device. The ledger remembers for which
device a claim was acquired; two devices that ask for a common key exclude each other as
long as the claims of one device are renewed and closed together. -/
namespace GmsRemoteTest.DeviceClaims
open Text

structure ClaimGroup (Label : Type) where
  label : Label
  requests : List DeviceRequest

/-- A registry and, for every claim, the devices it was acquired for. -/
structure Ledger (Label : Type) where
  registry : Registry := .empty
  claimed : List (Nat × ClaimGroup Label) := []

inductive LedgerOp (Label : Type)
  | claim (groups : List (ClaimGroup Label)) (request : ClaimRequest) (now later : Nat)
  | other (op : Op)

variable {Label : Type}

def ClaimGroup.claims (group : ClaimGroup Label) (records : List Claim) : List (Nat × ClaimGroup Label) :=
  (Table.select (fun record : Claim => record.deviceKey ∈ requestedKeys group.requests) records).map
    fun record => (record.id,group)

def Ledger.apply : LedgerOp Label → Ledger Label → Ledger Label
  | .claim groups request now later, ledger =>
    match acquire ledger.registry (groups.flatMap (·.requests)) request now later with
    | (.ok ⟨true,records⟩,registry) => ⟨registry,ledger.claimed ++ groups.flatMap fun group => group.claims records⟩
    | (_,registry) => {ledger with registry := registry}
  | .other op, ledger => {ledger with registry := DeviceClaims.apply op ledger.registry}

abbrev Anchoring (Label : Type) := ClaimGroup Label → List String

def Ledger.bonds (anchors : Anchoring Label) (ledger : Ledger Label) (id : Nat) (key : String) : Prop :=
  ∃ entry ∈ ledger.claimed, entry.1 = id ∧ key ∈ anchors entry.2

/-- The rows an operation looks at, once lapsed ones are swept. -/
def Op.table (registry : Registry) : Op → List Claim
  | .acquire _ _ now _ => expire now registry.rows
  | .renew _ _ _ now _ => expire now registry.rows
  | .transfer _ _ _ _ _ _ now _ => expire now registry.rows
  | .releaseOperationIfCurrent _ _ _ _ now => expire now registry.rows
  | _ => registry.rows

def Op.renews (registry : Registry) : Op → Claim → Prop
  | .acquire devices request now _, row =>
    conflicts (expire now registry.rows) request (normalizeDevices devices) = [] ∧ row.deviceKey ∈ requestedKeys devices
  | .renew sourceId _ keys _ _, row => Held sourceId keys row
  | _, _ => False

def Op.expires : Op → Nat
  | .acquire _ request _ later => expiresAt later request.ttlSeconds
  | .renew _ ttlSeconds _ _ later => expiresAt later ttlSeconds
  | _ => 0

def Op.closes (registry : Registry) : Op → Claim → Prop
  | .release sourceId status keys _, row => status ≠ .active ∧ Held sourceId keys row
  | .releaseOperationIfCurrent key lease generation sourceId now, row => ∃ current ∈ expire now registry.rows,
    current.deviceKey = key ∧ current.id = lease ∧ current.generation = generation ∧ current.sourceId = sourceId ∧
    current.status = .active ∧ row.sourceId = sourceId ∧ row.ownerId = current.ownerId ∧
    row.workerId = current.workerId ∧ row.status = .active
  | .forceRelease key _, row => ∃ current, activeRow registry.rows key = some current ∧ row.id = current.id
  | _, _ => False

def Ledger.Alike (anchors : Anchoring Label) (ledger : Ledger Label) (op : Op) : Prop :=
  ∀ row ∈ op.table ledger.registry, ∀ anchor ∈ op.table ledger.registry, row.status = .active →
    anchor.status = .active → ledger.bonds anchors row.id anchor.deviceKey → anchor.sourceId = row.sourceId →
    (op.renews ledger.registry row → op.renews ledger.registry anchor) ∧
    (op.renews ledger.registry anchor → op.renews ledger.registry row ∨ row.expiresAt ≤ op.expires) ∧
    (op.closes ledger.registry anchor → op.closes ledger.registry row)

/-- The condition of a run: the anchors of a device are asked for, and bonded claims are treated alike. -/
def Ledger.orderly (anchors : Anchoring Label) (ledger : Ledger Label) : LedgerOp Label → Prop
  | .claim groups request now later =>
    (∀ group ∈ groups, ∀ key ∈ anchors group, key ∈ requestedKeys group.requests) ∧
      ledger.Alike anchors (.acquire (groups.flatMap (·.requests)) request now later)
  | .other op => ledger.Alike anchors op

def terms : Leases.Terms Claim String := ⟨(·.sourceId),(·.expiresAt)⟩

structure Ledger.Valid (anchors : Anchoring Label) (ledger : Ledger Label) : Prop where
  registry : ledger.registry.Valid
  present : ∀ entry ∈ ledger.claimed, ∃ row ∈ ledger.registry.rows, row.id = entry.1
  bonded : Leases.Bonded view terms (ledger.bonds anchors) ledger.registry.rows

section
variable {bonds : Nat → String → Prop} {rows : List Claim}

section
variable (bonded : Leases.Bonded view terms bonds rows)
include bonded

theorem bonded_expire (now : Nat) :
    Leases.Bonded view terms bonds (expire now rows) := by
  refine bonded.amend (fun row _ => (expire_amends now).kept row) ?_
  intro row member anchor inside active bond anchors still
  by_cases lapsed : row.status = .active ∧ row.expiresAt ≤ now
  · rw [if_pos lapsed] at still
    cases still
  · -- The anchor lasts at least as long as the row.
    have later : now < row.expiresAt := by
      by_contra early
      exact lapsed ⟨active,Nat.le_of_not_lt early⟩
    have longer : row.expiresAt ≤ anchor.expiresAt := anchors.expiry
    have alive : ¬ (anchor.status = .active ∧ anchor.expiresAt ≤ now) := fun halted => by omega
    rw [if_neg lapsed,if_neg alive]
    exact anchors

theorem bonded_extend {selects : Claim → Prop} [DecidablePred selects]
    {now expires : Nat}
    (alike : ∀ row ∈ rows, ∀ anchor ∈ rows, row.status = .active → anchor.status = .active →
      bonds row.id anchor.deviceKey → anchor.sourceId = row.sourceId →
      (selects row → selects anchor) ∧ (selects anchor → selects row ∨ row.expiresAt ≤ expires)) :
    Leases.Bonded view terms bonds (Table.update selects (fun row => extended row now expires) rows) := by
  refine bonded.amend (fun row _ => (extended_amends selects now expires).kept row) ?_
  intro row member anchor inside active bond anchors still
  obtain ⟨forward,backward⟩ := alike row member anchor inside active anchors.active bond anchors.holder
  have longer : row.expiresAt ≤ anchor.expiresAt := anchors.expiry
  by_cases chosen : selects row
  · rw [if_pos chosen,if_pos (forward chosen)]
    exact ⟨anchors.active,anchors.holder,Nat.le_refl _⟩
  · rw [if_neg chosen]
    by_cases other : selects anchor
    · rw [if_pos other]
      refine ⟨anchors.active,anchors.holder,?_⟩
      rcases backward other with both | early
      · exact absurd both chosen
      · exact early
    · rw [if_neg other]
      exact anchors

theorem bonded_close {selects : Claim → Prop} [DecidablePred selects]
    {status : ClaimStatus} {now : Nat} (final : status ≠ .active)
    (alike : ∀ row ∈ rows, ∀ anchor ∈ rows, row.status = .active → anchor.status = .active →
      bonds row.id anchor.deviceKey → anchor.sourceId = row.sourceId → selects anchor → selects row) :
    Leases.Bonded view terms bonds (Table.update selects (fun row => closed row status now) rows) := by
  refine bonded.amend (fun row _ => (closed_amends now final).kept row) ?_
  intro row member anchor inside active bond anchors still
  by_cases chosen : selects row
  · rw [if_pos chosen] at still
    exact absurd still final
  · have spared : ¬ selects anchor := fun shut =>
      chosen (alike row member anchor inside active anchors.active bond anchors.holder shut)
    rw [if_neg chosen,if_neg spared]
    exact anchors

theorem bonded_reassign (old new sourceType : String) (now expires : Nat) :
    Leases.Bonded view terms bonds
      (Table.update (Held old []) (fun row => reassigned row new sourceType now expires) rows) := by
  refine bonded.amend (fun row _ => (reassigned_amends _ new sourceType now expires).kept row) ?_
  intro row member anchor inside active bond anchors still
  have holder : anchor.sourceId = row.sourceId := anchors.holder
  by_cases chosen : Held old [] row
  · have both : Held old [] anchor := ⟨holder.trans chosen.1,anchors.active,.inl rfl⟩
    rw [if_pos chosen,if_pos both]
    exact ⟨anchors.active,rfl,Nat.le_refl _⟩
  · have neither : ¬ Held old [] anchor := fun moves => chosen ⟨holder.symm.trans moves.1,active,.inl rfl⟩
    rw [if_neg chosen,if_neg neither]
    exact anchors

end

end

structure Holds (request : ClaimRequest) (expires : Nat) (row : Claim) : Prop where
  active : row.status = .active
  sourceId : row.sourceId = strip request.sourceId
  expiresAt : row.expiresAt = expires

section
variable {registry : Registry} {devices : List DeviceRequest} {request : ClaimRequest} {now expires : Nat}
  {news records : List Claim} {after : Registry}

theorem record_holds (valid : Leases.Valid view (expire now registry.rows))
    (free : conflicts (expire now registry.rows) request (normalizeDevices devices) = [])
    (grant : Granted (expire now registry.rows) request now expires registry.uuid (requestedKeys devices) news
      ⟨after,records⟩) {record : Claim} (member : record ∈ records) :
    record ∈ after.rows ∧ Holds request expires record := by
  have table : after.rows = _ := grant.table
  rcases (grant.records record).mp member with new | ⟨row,present,active,asked,rfl⟩
  · obtain ⟨issued,_⟩ := grant.issued record new
    refine ⟨?_,issued.active,issued.sourceId,issued.expiresAt⟩
    rw [table]
    exact List.mem_append_right _ new
  · refine ⟨?_,active,(conflicts_nil valid.keyed free present active asked).1,rfl⟩
    rw [table]
    refine List.mem_append_left _ (List.mem_map.mpr ⟨row,present,?_⟩)
    exact if_pos ⟨active,asked⟩

theorem key_held
    (grant : Granted (expire now registry.rows) request now expires registry.uuid (requestedKeys devices) news
      ⟨after,records⟩) {key : String} (asked : key ∈ requestedKeys devices) :
    ∃ row ∈ records, row.deviceKey = key := by
  by_cases vacant : Vacant (expire now registry.rows) key
  · obtain ⟨row,new,named⟩ := grant.complete key asked vacant
    exact ⟨row,(grant.records row).mpr (.inl new),named⟩
  · simp only [Vacant,not_forall,not_not] at vacant
    obtain ⟨row,present,named,active⟩ := vacant
    refine ⟨extended row now expires,(grant.records _).mpr (.inr ⟨row,present,active,?_,rfl⟩),named⟩
    rw [named]
    exact asked

end

variable {anchors : Anchoring Label}

theorem Ledger.Valid.drawn {ledger : Ledger Label} (valid : ledger.Valid anchors) {entry : Nat × ClaimGroup Label}
    (member : entry ∈ ledger.claimed) : entry.1 < ledger.registry.uuid := by
  obtain ⟨row,inside,named⟩ := valid.present entry member
  rw [← named]
  exact valid.registry.numbered row inside

section
variable {ledger : Ledger Label} (valid : ledger.Valid anchors) {after : Registry} (advances : Advances ledger.registry after)
include valid advances

theorem Ledger.Valid.remains :
    ∀ entry ∈ ledger.claimed, ∃ row ∈ after.rows, row.id = entry.1 := by
  intro entry member
  obtain ⟨row,inside,named⟩ := valid.present entry member
  obtain ⟨current,there,kept⟩ := Leases.Evolves.survives advances.evolves inside
  exact ⟨current,there,kept.id.trans named⟩

theorem Ledger.Valid.active_before {entry : Nat × ClaimGroup Label} (member : entry ∈ ledger.claimed)
    {row : Claim} (inside : row ∈ after.rows) (named : row.id = entry.1) (active : row.status = .active) :
    ∃ old ∈ ledger.registry.rows, old.id = entry.1 ∧ old.status = .active := by
  obtain ⟨old,there,same⟩ := valid.present entry member
  refine ⟨old,there,same,?_⟩
  by_contra inactive
  exact Leases.Evolves.retired advances.evolves valid.registry.leases there inactive inside (named.trans same.symm) active

end

theorem requestedKeys_group {groups : List (ClaimGroup Label)} {group : ClaimGroup Label} (member : group ∈ groups) {key : String}
    (asked : key ∈ requestedKeys group.requests) : key ∈ requestedKeys (groups.flatMap (·.requests)) := by
  obtain ⟨device,present,named,same⟩ := mem_requestedKeys.mp asked
  exact mem_requestedKeys.mpr ⟨device,List.mem_flatMap.mpr ⟨group,member,present⟩,named,same⟩

section
variable {ledger : Ledger Label} (valid : ledger.Valid anchors)
include valid

theorem granted_bonded {devices : List DeviceRequest}
    {request : ClaimRequest} {now later : Nat} {news records : List Claim} {after : Registry}
    (alike : ledger.Alike anchors (.acquire devices request now later))
    (free : conflicts (expire now ledger.registry.rows) request (normalizeDevices devices) = [])
    (grant : Granted (expire now ledger.registry.rows) request now (expiresAt later request.ttlSeconds)
      ledger.registry.uuid (requestedKeys devices) news ⟨after,records⟩) :
    Leases.Bonded view terms (ledger.bonds anchors) after.rows := by
  have table : after.rows = _ := grant.table
  have extends_ : Leases.Bonded view terms (ledger.bonds anchors) ((expire now ledger.registry.rows).map
      (touched (requestedKeys devices) now (expiresAt later request.ttlSeconds))) := by
    refine bonded_extend (bonded_expire valid.bonded now) ?_
    intro row member anchor inside active alive bond same
    obtain ⟨forward,backward,_⟩ := alike row member anchor inside active alive bond same
    refine ⟨fun chosen => ⟨alive,(forward ⟨free,chosen.2⟩).2⟩,fun chosen => ?_⟩
    rcases backward ⟨free,chosen.2⟩ with both | early
    · exact .inl ⟨active,both.2⟩
    · exact .inr early
  rw [table]
  refine extends_.extend ?_
  intro row member active key bond
  rcases List.mem_append.mp member with old | new
  · exact .inl ⟨old,bond⟩
  · -- A new row has an id no bond can name.
    obtain ⟨entry,present,same,_⟩ := bond
    have drawn := valid.drawn present
    have fresh := (grant.issued row new).2.2.2
    change entry.1 = row.id at same
    omega

theorem claim_valid {groups : List (ClaimGroup Label)} {request : ClaimRequest}
    {now later : Nat} (orderly : ledger.orderly anchors (.claim groups request now later)) :
    (Ledger.apply (.claim groups request now later) ledger).Valid anchors := by
  obtain ⟨anchored,alike⟩ := orderly
  have advances := acquire_advances ledger.registry valid.registry.numbered (groups.flatMap (·.requests)) request now later
  have acquired := acquire_acquired ledger.registry valid.registry.keyed (groups.flatMap (·.requests)) request now later
  unfold Ledger.apply
  dsimp only
  generalize acquire ledger.registry (groups.flatMap (·.requests)) request now later = outcome at advances acquired ⊢
  cases acquired with
  | refused error => exact valid
  | conflict held clash => exact valid
  | granted records news after free grant =>
    have registry : after.Valid := advances.valid valid.registry
    have leases := (expire_valid valid.registry now).1
    refine ⟨registry,?_,?_⟩
    · intro entry present
      rcases List.mem_append.mp present with old | new
      · exact valid.remains advances entry old
      · obtain ⟨group,member,inside⟩ := List.mem_flatMap.mp new
        obtain ⟨record,chosen,rfl⟩ := List.mem_map.mp inside
        exact ⟨record,(record_holds leases free grant (Table.mem_select.mp chosen).1).1,rfl⟩
    · have before := granted_bonded valid alike free grant
      rw [← List.append_nil after.rows] at before ⊢
      refine Leases.Bonded.extend (by rwa [List.append_nil] at before) ?_
      rintro row member active key ⟨entry,present,same,asked⟩
      rw [List.append_nil] at member
      rcases List.mem_append.mp present with old | new
      · exact .inl ⟨member,entry,old,same,asked⟩
      · -- A new bond is between rows that this grant holds alike.
        obtain ⟨group,inGroup,inside⟩ := List.mem_flatMap.mp new
        obtain ⟨record,chosen,rfl⟩ := List.mem_map.mp inside
        obtain ⟨there,holds⟩ := record_holds leases free grant (Table.mem_select.mp chosen).1
        have equal : row = record := registry.leases.eq_of_id member there same.symm
        subst equal
        have key := requestedKeys_group inGroup (anchored group inGroup key asked)
        obtain ⟨anchor,recorded,named⟩ := key_held grant key
        obtain ⟨found,held⟩ := record_holds leases free grant recorded
        refine .inr ⟨anchor,by simpa using found,named,held.active,?_,?_⟩
        · exact held.sourceId.trans holds.sourceId.symm
        · exact Nat.le_of_eq (holds.expiresAt.trans held.expiresAt.symm)

theorem other_valid {op : Op} (alike : ledger.Alike anchors op) :
    (Ledger.apply (.other op) ledger).Valid anchors := by
  have advances := apply_advances op ledger.registry valid.registry.numbered
  have registry := advances.valid valid.registry
  have remains := valid.remains advances
  have bonded := valid.bonded
  refine ⟨registry,remains,?_⟩
  change Leases.Bonded view terms (ledger.bonds anchors) (DeviceClaims.apply op ledger.registry).rows
  cases op with
  | acquire devices request now later =>
    have acquired := acquire_acquired ledger.registry valid.registry.keyed devices request now later
    unfold DeviceClaims.apply
    dsimp only
    generalize acquire ledger.registry devices request now later = outcome at acquired ⊢
    cases acquired with
    | refused error => exact bonded
    | conflict held clash => exact bonded
    | granted records news after free grant => exact granted_bonded valid alike free grant
  | renew sourceId ttl keys now later =>
    refine bonded_extend (bonded_expire bonded now) ?_
    intro row member anchor inside active alive bond same
    obtain ⟨forward,backward,_⟩ := alike row member anchor inside active alive bond same
    exact ⟨forward,backward⟩
  | transfer old new sourceType ttl ownerId keys now later =>
    have moved := bonded_reassign (bonded_expire bonded now) old new sourceType now (expiresAt later ttl)
    unfold DeviceClaims.apply transfer
    dsimp only
    split
    · exact bonded
    split
    · exact bonded
    split
    · exact bonded
    · exact moved
  | release sourceId status keys now =>
    unfold DeviceClaims.apply release
    dsimp only
    split
    · exact bonded
    · rename_i final
      refine bonded_close bonded final ?_
      intro row member anchor inside active alive bond same shut
      exact ((alike row member anchor inside active alive bond same).2.2 ⟨final,shut⟩).2
  | releaseOperationIfCurrent key lease generation sourceId now =>
    unfold DeviceClaims.apply releaseOperationIfCurrent
    dsimp only
    split
    · exact bonded
    · rename_i current found
      have selected := Table.fetch_selects found
      have present := Table.fetch_mem found
      refine bonded_close (bonded_expire bonded now) (by decide) ?_
      intro row member anchor inside active alive bond same shut
      obtain ⟨other,_,named,id,_,_,_,source,owner,worker,open_⟩ :=
        (alike row member anchor inside active alive bond same).2.2
          ⟨current,present,selected.1,selected.2.1,selected.2.2.1,selected.2.2.2.1,selected.2.2.2.2,shut⟩
      have leases := (expire_valid valid.registry now).1
      have equal : other = current := leases.eq_of_id ‹_› present (id.trans selected.2.1.symm)
      subst equal
      exact ⟨source,owner,worker,open_⟩
  | forceRelease key now =>
    unfold DeviceClaims.apply forceRelease
    dsimp only
    split
    · exact bonded
    · rename_i current found
      refine bonded_close bonded (by decide) ?_
      intro row member anchor inside active alive bond same shut
      obtain ⟨other,fetched,id⟩ := (alike row member anchor inside active alive bond same).2.2 ⟨current,found,shut.1⟩
      rw [found] at fetched
      cases fetched
      exact ⟨id,active⟩
  | activeClaim key now => exact bonded_expire bonded now
  | listActive workerId ownerId now => exact bonded_expire bonded now
  | listBySource sourceId now => exact bonded_expire bonded now

theorem Ledger.Valid.step (op : LedgerOp Label)
    (orderly : ledger.orderly anchors op) : (Ledger.apply op ledger).Valid anchors := by
  cases op with
  | claim groups request now later => exact claim_valid valid orderly
  | other op => exact other_valid valid orderly

end

section
variable {ledger : Ledger Label} (reached : Runs.Reached Ledger.apply (Ledger.orderly anchors) {} ledger)
include reached

theorem ledger_valid :
    ledger.Valid anchors := by
  refine Runs.Reached.invariant (Ledger.Valid anchors) ⟨empty_valid,?_,?_⟩ ?_ reached
  · intro entry none
    cases none
  · intro row none
    cases none
  · intro current op valid orderly
    exact valid.step op orderly

theorem groups_exclusive {first second : Nat × ClaimGroup Label} (left : first ∈ ledger.claimed) (right : second ∈ ledger.claimed) {key : String}
    (one : key ∈ anchors first.2) (two : key ∈ anchors second.2) {row other : Claim} (member : row ∈ ledger.registry.rows)
    (present : other ∈ ledger.registry.rows) (named : row.id = first.1) (called : other.id = second.1)
    (active : row.status = .active) (alive : other.status = .active) : row.sourceId = other.sourceId := by
  have valid := ledger_valid reached
  exact valid.bonded.same_holder valid.registry.leases member present active alive ⟨first,left,named.symm,one⟩
    ⟨second,right,called.symm,two⟩

end

end GmsRemoteTest.DeviceClaims
